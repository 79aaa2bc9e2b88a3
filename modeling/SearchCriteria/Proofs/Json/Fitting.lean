/-
# Drafts of texts

Whatever a text is, the numbers in its draft are numbers that JSON has: whole numbers of 64 bits and
finite numbers.  And where a limit has been put on the draft, its containers nest no deeper.  A
draft *fits* some levels if both holds.

* `Scanner.allScanned` goes through the scanners, by what each makes of the parts that it scans;
* `fits_ofText`: the draft of every text fits the levels that it is limited to;
* `fits_settle`: a draft that fits settles to a JSON value that fits.
-/
import Mathlib.Data.List.Basic
import SearchCriteria.Json.Scanner
import SearchCriteria.Proofs.Json.Draft

namespace SearchCriteria

open Numeric Outcome

mutual

/-- The containers of a draft nest within some levels, and its numbers are numbers that JSON has. -/
def Draft.Fits : Nat → Draft → Prop
  | _, .integer n => -2 ^ (63 : Nat) ≤ n ∧ n < 2 ^ (64 : Nat)
  | _, .float x => x.isFinite = true
  | levels, .array items => ∃ below, levels = below + 1 ∧ Items.Fits below items
  | levels, .object members => ∃ below, levels = below + 1 ∧ Members.Fits below members
  | _, .null => True
  | _, .bool _ => True
  | _, .text _ => True
  | _, .unreadable => True
  | _, .fault _ _ _ => True
  | _, .buried _ _ => True

/-- All items fit. -/
def Items.Fits : Nat → Items → Prop
  | levels, .item value rest => Draft.Fits levels value ∧ Items.Fits levels rest
  | _, .broken _ => True
  | _, .closed => True

/-- The values of all members fit. -/
def Members.Fits : Nat → Members → Prop
  | levels, .member _ value rest => Draft.Fits levels value ∧ Members.Fits levels rest
  | _, .broken _ => True
  | _, .stray _ _ => True
  | _, .closed => True

end

/-! ## Scanned drafts -/

/-- Under every limit the draft fits the levels that the limit leaves. -/
def Draft.Scanned (d : Draft) : Prop :=
  ∀ levels, (d.limit levels).Fits levels

/-- Under every limit the items fit the levels that the limit leaves. -/
def Items.Scanned (items : Items) : Prop :=
  ∀ levels, (items.limit levels).Fits levels

/-- Under every limit the members fit the levels that the limit leaves. -/
def Members.Scanned (members : Members) : Prop :=
  ∀ levels, (members.limit levels).Fits levels

namespace Scanner

lemma scanned_of_scalar {d : Draft} (harray : ∀ items, d ≠ .array items)
    (hobject : ∀ members, d ≠ .object members) (h : ∀ levels, d.Fits levels) : d.Scanned := by
  intro levels
  rw [Json.limit_of_scalar harray hobject]
  exact h levels

lemma scanned_fault (beginning : Beginning) (read skip : Fault) :
    (Draft.fault beginning read skip).Scanned :=
  scanned_of_scalar (by simp) (by simp) (by simp [Draft.Fits])

lemma scanned_unreadable : Draft.unreadable.Scanned :=
  scanned_of_scalar (by simp) (by simp) (by simp [Draft.Fits])

/-- Beyond the greatest number a draft is unreadable. -/
lemma scanned_floatDraft (negative : Bool) (d : Decimal) : (floatDraft negative d).Scanned := by
  rw [floatDraft]
  split
  case isTrue hfinite => exact scanned_of_scalar (by simp) (by simp) (by simpa [Draft.Fits])
  case isFalse => exact scanned_unreadable

lemma scanned_integerDraft (negative : Bool) (digits : List Char) :
    (integerDraft negative digits).Scanned := by
  have hinteger : ∀ n : Int, -2 ^ (63 : Nat) ≤ n → n < 2 ^ (64 : Nat) →
      (Draft.integer n).Scanned := by
    intro n hlow hhigh
    exact scanned_of_scalar (by simp) (by simp) fun _ => by rw [Draft.Fits]; exact ⟨hlow, hhigh⟩
  simp only [integerDraft]
  split
  case isTrue h => exact hinteger _ (by omega) (by omega)
  case isFalse =>
    split
    case isTrue h => exact hinteger _ (by omega) (by omega)
    case isFalse => exact scanned_floatDraft _ _

lemma scanned_scanExponentDigits (negative down : Bool) (whole fraction text : List Char) :
    (scanExponentDigits negative down whole fraction text).1.Scanned := by
  simp only [scanExponentDigits]
  split
  · exact scanned_fault _ _ _
  · exact scanned_floatDraft _ _

lemma scanned_scanAfterFraction (negative : Bool) (whole fraction text : List Char) :
    (scanAfterFraction negative whole fraction text).1.Scanned := by
  have hexponent : ∀ rest, (scanExponent negative whole fraction rest).1.Scanned := by
    intro rest
    unfold scanExponent
    split <;> exact scanned_scanExponentDigits _ _ _ _ _
  unfold scanAfterFraction
  split
  · exact hexponent _
  · exact hexponent _
  · split
    · exact scanned_integerDraft _ _
    · exact scanned_floatDraft _ _

lemma scanned_scanNumber (negative : Bool) (text : List Char) :
    (scanNumber negative text).1.Scanned := by
  have hwhole : ∀ whole rest, (scanAfterWhole negative whole rest).1.Scanned := by
    intro whole rest
    unfold scanAfterWhole
    split
    · simp only
      split
      · exact scanned_fault _ _ _
      · exact scanned_scanAfterFraction _ _ _ _
    · exact scanned_scanAfterFraction _ _ _ _
  simp only [scanNumber]
  split
  · exact scanned_fault _ _ _
  · exact scanned_fault _ _ _
  · exact hwhole _ _

lemma scanned_scanString (text : List Char) : (scanString text).1.Scanned := by
  simp only [scanString]
  split
  · split
    · exact scanned_of_scalar (by simp) (by simp) (by simp [Draft.Fits])
    · exact scanned_unreadable
  · exact scanned_fault _ _ _

lemma scanned_scanName {draft : Draft} (h : draft.Scanned) (beginning : Beginning)
    (name text : List Char) : (scanName draft beginning name text).1.Scanned := by
  induction name generalizing text with
  | nil => exact h
  | cons c name ih =>
    cases text with
    | nil => exact scanned_fault _ _ _
    | cons d text =>
      rw [scanName]
      split
      · exact ih text
      · exact scanned_fault _ _ _

/-- The limit buries the items of an array, or they fit one level less. -/
lemma scanned_array {items : Items} (h : items.Scanned) : (Draft.array items).Scanned := by
  intro levels
  cases levels with
  | zero => simp [Draft.limit, Draft.Fits]
  | succ levels =>
    rw [Draft.limit, Draft.Fits]
    exact ⟨levels, rfl, h levels⟩

lemma scanned_object {members : Members} (h : members.Scanned) :
    (Draft.object members).Scanned := by
  intro levels
  cases levels with
  | zero => simp [Draft.limit, Draft.Fits]
  | succ levels =>
    rw [Draft.limit, Draft.Fits]
    exact ⟨levels, rfl, h levels⟩

lemma scanned_item {value : Draft} {rest : Items} (hvalue : value.Scanned) (hrest : rest.Scanned) :
    (Items.item value rest).Scanned := by
  intro levels
  rw [Items.limit, Items.Fits]
  exact ⟨hvalue levels, hrest levels⟩

lemma scanned_closed : Items.closed.Scanned := by
  simp [Items.Scanned, Items.limit, Items.Fits]

lemma scanned_broken (fault : Fault) : (Items.broken fault).Scanned := by
  simp [Items.Scanned, Items.limit, Items.Fits]

lemma scanned_member {key : Option String} {value : Draft} {rest : Members}
    (hvalue : value.Scanned) (hrest : rest.Scanned) : (Members.member key value rest).Scanned := by
  intro levels
  rw [Members.limit, Members.Fits]
  exact ⟨hvalue levels, hrest levels⟩

lemma scanned_closedMembers : Members.closed.Scanned := by
  simp [Members.Scanned, Members.limit, Members.Fits]

lemma scanned_brokenMembers (fault : Fault) : (Members.broken fault).Scanned := by
  simp [Members.Scanned, Members.limit, Members.Fits]

lemma scanned_stray (read skip : Fault) : (Members.stray read skip).Scanned := by
  simp [Members.Scanned, Members.limit, Members.Fits]

/-- What holds of the drafts that the scanners make with some fuel. -/
structure AllScanned (fuel : Nat) : Prop where
  /-- Values are scanned. -/
  value : ∀ text, (scanValue fuel text).1.Scanned
  /-- Items are scanned. -/
  items : ∀ text, (scanItems fuel text).1.Scanned
  /-- Members are scanned. -/
  members : ∀ text, (scanMembers fuel text).1.Scanned
  /-- A member is scanned after its key. -/
  member : ∀ key text, (scanMember fuel key text).1.Scanned

/-- Each scanner makes a draft of parts that scanners with less fuel have made. -/
theorem allScanned (fuel : Nat) : AllScanned fuel := by
  induction fuel with
  | zero =>
    refine ⟨fun text => ?_, fun text => ?_, fun text => ?_, fun key text => ?_⟩
    · rw [scanValue]
      exact scanned_fault _ _ _
    · rw [scanItems]
      exact scanned_broken _
    · rw [scanMembers]
      exact scanned_brokenMembers _
    · rw [scanMember]
      exact scanned_brokenMembers _
  | succ fuel ih =>
    refine ⟨fun text => ?_, fun text => ?_, fun text => ?_, fun key text => ?_⟩
    · rw [scanValue]
      split
      · exact scanned_fault _ _ _
      · exact scanned_scanString _
      · split
        · exact scanned_array (scanned_broken _)
        · exact scanned_array scanned_closed
        · exact scanned_array (ih.items _)
      · split
        · exact scanned_object scanned_closedMembers
        · exact scanned_object (ih.members _)
      · exact scanned_scanNumber _ _
      · exact scanned_scanName (scanned_of_scalar (by simp) (by simp) (by simp [Draft.Fits])) _ _ _
      · exact scanned_scanName (scanned_of_scalar (by simp) (by simp) (by simp [Draft.Fits])) _ _ _
      · exact scanned_scanName (scanned_of_scalar (by simp) (by simp) (by simp [Draft.Fits])) _ _ _
      · split
        · exact scanned_scanNumber _ _
        · exact scanned_fault _ _ _
    · have hvalue := ih.value text
      rw [scanItems]
      split
      case h_1 heq =>
        rw [heq] at hvalue
        exact scanned_item hvalue scanned_closed
      case h_2 heq =>
        rw [heq] at hvalue
        split
        · exact scanned_item hvalue (scanned_broken _)
        · exact scanned_item hvalue scanned_closed
        · exact scanned_item hvalue (ih.items _)
        · exact scanned_item hvalue (scanned_broken _)
    · rw [scanMembers]
      split
      · exact scanned_stray _ _
      · split
        · exact ih.member _ _
        · exact ih.member _ _
        · exact scanned_stray _ _
        · exact scanned_stray _ _
      · exact scanned_stray _ _
    · rw [scanMember]
      split
      · exact scanned_member (scanned_fault _ _ _) scanned_closedMembers
      case h_2 rest _ =>
        have hvalue := ih.value rest
        split
        case h_1 heq =>
          rw [heq] at hvalue
          exact scanned_member hvalue scanned_closedMembers
        case h_2 heq =>
          rw [heq] at hvalue
          split
          · exact scanned_member hvalue (scanned_brokenMembers _)
          · exact scanned_member hvalue scanned_closedMembers
          · exact scanned_member hvalue (ih.members _)
          · exact scanned_member hvalue (scanned_brokenMembers _)
      · exact scanned_member (scanned_fault _ _ _) scanned_closedMembers

end Scanner

/-- The draft of a text fits the levels that it is limited to. -/
theorem Draft.fits_ofText (text : List Char) (levels : Nat) :
    ((Draft.ofText text).1.limit levels).Fits levels :=
  (Scanner.allScanned _).value text levels

/-! ## Settled drafts -/

mutual

/-- The containers of a JSON value nest within some levels, and its numbers are numbers that a text
holds: there are none of 32 bits among them. -/
def Json.Fits : Nat → Json → Prop
  | _, .integer n => -2 ^ (63 : Nat) ≤ n ∧ n < 2 ^ (64 : Nat)
  | _, .float x => x.isFinite = true
  | _, .single _ => False
  | levels, .array items => ∃ below, levels = below + 1 ∧ Json.FitAll below items
  | levels, .object members => ∃ below, levels = below + 1 ∧ Json.FitMembers below members
  | _, .null => True
  | _, .bool _ => True
  | _, .text _ => True

/-- All values fit. -/
def Json.FitAll : Nat → List Json → Prop
  | levels, j :: js => Json.Fits levels j ∧ Json.FitAll levels js
  | _, [] => True

/-- The values of all members fit. -/
def Json.FitMembers : Nat → List (String × Json) → Prop
  | levels, (_, j) :: ms => Json.Fits levels j ∧ Json.FitMembers levels ms
  | _, [] => True

end

lemma Json.fitAll_iff {levels : Nat} {js : List Json} :
    Json.FitAll levels js ↔ ∀ j ∈ js, j.Fits levels := by
  induction js with
  | nil => simp [Json.FitAll]
  | cons j js ih => rw [Json.FitAll, ih, List.forall_mem_cons]

lemma Json.fitMembers_iff {levels : Nat} {ms : List (String × Json)} :
    Json.FitMembers levels ms ↔ ∀ m ∈ ms, m.2.Fits levels := by
  induction ms with
  | nil => simp [Json.FitMembers]
  | cons m ms ih => rw [Json.FitMembers, ih, List.forall_mem_cons]

mutual

/-- A draft that fits settles to a JSON value that fits. -/
theorem fits_settle : ∀ (d : Draft) (levels : Nat) (j : Json), d.Fits levels →
    d.settle = .ok j → j.Fits levels
  | .null, _, _, _, h => by
    rw [Draft.settle] at h
    rw [← Except.ok.inj h, Json.Fits]
    trivial
  | .bool _, _, _, _, h => by
    rw [Draft.settle] at h
    rw [← Except.ok.inj h, Json.Fits]
    trivial
  | .integer _, _, _, hfits, h => by
    rw [Draft.Fits] at hfits
    rw [Draft.settle] at h
    rwa [← Except.ok.inj h, Json.Fits]
  | .float x, _, _, hfits, h => by
    rw [Draft.Fits] at hfits
    rw [Draft.settle] at h
    rwa [← Except.ok.inj h, Json.Fits]
  | .text _, _, _, _, h => by
    rw [Draft.settle] at h
    rw [← Except.ok.inj h, Json.Fits]
    trivial
  | .unreadable, _, _, _, h => by
    rw [Draft.settle] at h
    cases h
  | .fault _ _ _, _, _, _, h => by
    rw [Draft.settle] at h
    cases h
  | .buried _ _, _, _, _, h => by
    rw [Draft.settle] at h
    cases h
  | .array items, _, _, hfits, h => by
    rw [Draft.Fits] at hfits
    obtain ⟨below, hlevels, hitems⟩ := hfits
    rw [Draft.settle] at h
    obtain ⟨js, hjs, h⟩ := bind_eq_ok_iff.1 h
    rw [← Except.ok.inj h, Json.Fits]
    exact ⟨below, hlevels, fitAll_settle items below js hitems hjs⟩
  | .object members, _, _, hfits, h => by
    rw [Draft.Fits] at hfits
    obtain ⟨below, hlevels, hmembers⟩ := hfits
    rw [Draft.settle] at h
    obtain ⟨ms, hms, h⟩ := bind_eq_ok_iff.1 h
    rw [← Except.ok.inj h, Json.Fits]
    exact ⟨below, hlevels, fitMembers_settle members below ms hmembers hms⟩

theorem fitAll_settle : ∀ (items : Items) (levels : Nat) (js : List Json),
    items.Fits levels → items.settle = .ok js → Json.FitAll levels js
  | .closed, _, _, _, h => by
    rw [Items.settle] at h
    rw [← Except.ok.inj h, Json.FitAll]
    trivial
  | .broken _, _, _, _, h => by
    rw [Items.settle] at h
    cases h
  | .item value rest, levels, _, hfits, h => by
    rw [Items.Fits] at hfits
    rw [Items.settle] at h
    obtain ⟨j, hj, h⟩ := bind_eq_ok_iff.1 h
    obtain ⟨js, hjs, h⟩ := bind_eq_ok_iff.1 h
    rw [← Except.ok.inj h, Json.FitAll]
    exact ⟨fits_settle value levels j hfits.1 hj, fitAll_settle rest levels js hfits.2 hjs⟩

theorem fitMembers_settle : ∀ (members : Members) (levels : Nat) (ms : List (String × Json)),
    members.Fits levels → members.settle = .ok ms → Json.FitMembers levels ms
  | .closed, _, _, _, h => by
    rw [Members.settle] at h
    rw [← Except.ok.inj h, Json.FitMembers]
    trivial
  | .broken _, _, _, _, h => by
    rw [Members.settle] at h
    cases h
  | .stray _ _, _, _, _, h => by
    rw [Members.settle] at h
    cases h
  | .member none _ _, _, _, _, h => by
    rw [Members.settle] at h
    cases h
  | .member (some key) value rest, levels, _, hfits, h => by
    rw [Members.Fits] at hfits
    rw [Members.settle] at h
    obtain ⟨j, hj, h⟩ := bind_eq_ok_iff.1 h
    obtain ⟨ms, hms, h⟩ := bind_eq_ok_iff.1 h
    rw [← Except.ok.inj h, Json.FitMembers]
    exact ⟨fits_settle value levels j hfits.1 hj, fitMembers_settle rest levels ms hfits.2 hms⟩

end

end SearchCriteria
