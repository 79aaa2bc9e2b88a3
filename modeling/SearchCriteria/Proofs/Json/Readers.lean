/-
# What readers yield

The readers of the basic shapes, applied to drafts that fit some levels.  What a reader of items
yields carries over to lists of them; what readers of members yield, to the record that they fill.

* `Yields` says what a reader makes of drafts that fit, level by level;
* `obtains_of_read`: a record is obtained by filling in members, and each member that has to be
  given is among them;
* `eq_ok_of_readChoice`: a choice is read from the content of one of its variants.
-/
import SearchCriteria.Proofs.Json.Fitting
import SearchCriteria.Proofs.Json.Records

namespace SearchCriteria

open Outcome

/-! ## What readers yield -/

/-- Whatever a reader reads from a draft that fits some levels is related to the levels. -/
def Yields {α : Type} (read : Reader α) (P : Nat → α → Prop) : Prop :=
  ∀ levels d a, Draft.Fits levels d → read d = .ok a → P levels a

variable {α β : Type} {read : Reader β} {R : Nat → β → Prop}

lemma settle_of_readJson {d : Draft} {j : Json} (h : readJson d = .ok j) : d.settle = .ok j := by
  rw [readJson] at h
  cases hsettle : d.settle with
  | error e =>
    rw [hsettle] at h
    cases h
  | ok j' =>
    rw [hsettle] at h
    rw [Except.ok.inj h]

/-- A JSON value that is read from a draft fits as the draft does. -/
lemma yields_readJson : Yields readJson fun levels j => j.Fits levels :=
  fun levels d j hd h => fits_settle d levels j hd (settle_of_readJson h)

lemma eq_null_of_readJson {d : Draft} (h : readJson d = .ok .null) : d = .null := by
  have hsettle := settle_of_readJson h
  cases d with
  | null => rfl
  | array items =>
    rw [Draft.settle] at hsettle
    obtain ⟨js, -, hsettle⟩ := bind_eq_ok_iff.1 hsettle
    cases hsettle
  | object members =>
    rw [Draft.settle] at hsettle
    obtain ⟨ms, -, hsettle⟩ := bind_eq_ok_iff.1 hsettle
    cases hsettle
  | _ =>
    rw [Draft.settle] at hsettle
    cases hsettle

/-- An optional value that is there is read from something else than `null`. -/
lemma eq_ok_of_readOption {d : Draft} {b : β} (h : readOption read d = .ok (some b)) :
    d ≠ .null ∧ read d = .ok b := by
  unfold readOption at h
  split at h
  case h_1 => cases h
  case h_2 => cases h
  case h_3 hnull _ =>
    obtain ⟨b', hb, h⟩ := bind_eq_ok_iff.1 h
    rw [← Option.some.inj (Except.ok.inj h)]
    exact ⟨hnull, hb⟩

lemma yields_any (read : Reader β) : Yields read fun _ _ => True :=
  fun _ _ _ _ _ => trivial

/-- What is made of what a reader yields. -/
lemma Yields.map {f : β → α} {P : Nat → α → Prop} (h : Yields read R)
    (hf : ∀ levels b, R levels b → P levels (f b)) :
    Yields (fun draft => do
      let b ← read draft
      .ok (f b)) P := by
  intro levels d a hd hread
  obtain ⟨b, hb, hread⟩ := bind_eq_ok_iff.1 hread
  rw [← Except.ok.inj hread]
  exact hf levels b (h levels d b hd hb)

lemma yields_readOption (h : Yields read R) :
    Yields (readOption read) fun levels o => ∀ b, o = some b → R levels b := by
  rintro levels d o hd hread b rfl
  exact h levels d b hd (eq_ok_of_readOption hread).2

lemma forall_of_readAll (h : Yields read R) : ∀ (items : Items) (below : Nat) (bs : List β),
    items.Fits below → items.readAll read = .ok bs → ∀ b ∈ bs, R below b
  | .closed, _, bs, _, hread => by
    rw [← Except.ok.inj hread]
    exact List.forall_mem_nil _
  | .broken _, _, _, _, hread => by cases hread
  | .item value rest, below, bs, hfits, hread => by
    rw [Items.Fits] at hfits
    obtain ⟨b, hb, hread⟩ := bind_eq_ok_iff.1 hread
    obtain ⟨others, hothers, hread⟩ := bind_eq_ok_iff.1 hread
    rw [← Except.ok.inj hread, List.forall_mem_cons]
    exact ⟨h below value b hfits.1 hb, forall_of_readAll h rest below others hfits.2 hothers⟩

lemma mismatch_ne_ok {d : Draft} {expected : String} {a : α} : d.mismatch expected ≠ .ok a := by
  intro h
  unfold Draft.mismatch at h
  split at h <;> cases h

/-- The items of an array fit one level less. -/
lemma yields_readList (h : Yields read R) :
    Yields (readList read) fun levels bs => ∃ below, levels = below + 1 ∧ ∀ b ∈ bs, R below b := by
  intro levels d bs hd hread
  unfold readList at hread
  split at hread
  case h_1 items =>
    rw [Draft.Fits] at hd
    obtain ⟨below, rfl, hitems⟩ := hd
    exact ⟨below, rfl, forall_of_readAll h items below bs hitems hread⟩
  case h_2 => cases hread
  case h_3 => exact absurd hread mismatch_ne_ok

/-! ## Records that are read -/

/-- Filling in a member from a draft that fits keeps what is said of the record. -/
def Member.Preserves (below : Nat) (P : α → Prop) (member : Member α) : Prop :=
  ∀ d a a', Draft.Fits below d → P a → member.fill d a = .ok a' → P a'

lemma Member.preserves_of {key : String} {absence : Absence} {set : α → β → α} {below : Nat}
    {P : α → Prop} (h : Yields read R) (hset : ∀ a b, P a → R below b → P (set a b)) :
    (Member.of key absence read set).Preserves below P := by
  intro d a a' hd ha hfill
  obtain ⟨b, hb, hfill⟩ := bind_eq_ok_iff.1 hfill
  rw [← Except.ok.inj hfill]
  exact hset a b ha (h below d b hd hb)

/-- A member of which nothing is said keeps what is said of the others. -/
lemma Member.preserves_any {key : String} {absence : Absence} {set : α → β → α} {below : Nat}
    {P : α → Prop} (hset : ∀ a b, P a → P (set a b)) :
    (Member.of key absence read set).Preserves below P :=
  Member.preserves_of (yields_any read) fun a b ha _ => hset a b ha

lemma Member.preserves_list {key : String} {absence : Absence} {set : α → List β → α} {lower : Nat}
    {P : α → Prop} (h : Yields read R)
    (hset : ∀ a bs, P a → (∀ b ∈ bs, R lower b) → P (set a bs)) :
    (Member.of key absence (readList read) set).Preserves (lower + 1) P := by
  refine Member.preserves_of (yields_readList h) fun a bs ha hbs => ?_
  obtain ⟨lower', hlower, hbs⟩ := hbs
  obtain rfl : lower = lower' := by omega
  exact hset a bs ha hbs

/-- How a record is obtained from drafts that fit. -/
structure Shape.Obtains (shape : Shape α) (below : Nat) (a : α) : Prop where
  /-- What holds of the blank record and is preserved by filling in members holds of the record. -/
  induct : ∀ P : α → Prop, P shape.blank → (∀ m ∈ shape.members, m.Preserves below P) → P a
  /-- Each member that has to be given has been filled in. -/
  filled : ∀ m ∈ shape.members, m.absence = .refused →
    ∃ d b b', Draft.Fits below d ∧ m.fill d b = .ok b'

namespace Shape

variable {shape : Shape α}

/-- Induction over the members that have been filled in. -/
@[elab_as_elim]
theorem Obtains.induction {P : α → Prop} {below : Nat} {a : α} (h : shape.Obtains below a)
    (blank : P shape.blank) (members : ∀ m ∈ shape.members, m.Preserves below P) : P a :=
  h.induct P blank members

/-- A member that has to be given has been read from a draft that fits. -/
lemma Obtains.exists_read {below : Nat} {a : α} (h : shape.Obtains below a) {key : String}
    {set : α → β → α} (hmem : .of key .refused read set ∈ shape.members) :
    ∃ d b, Draft.Fits below d ∧ read d = .ok b := by
  obtain ⟨d, c, c', hd, hfill⟩ := h.filled _ hmem rfl
  obtain ⟨b, hb, -⟩ := bind_eq_ok_iff.1 hfill
  exact ⟨d, b, hd, hb⟩

/-- A list that has to be given takes a level. -/
lemma Obtains.exists_lower {below : Nat} {a : α} (h : shape.Obtains below a) {key : String}
    {set : α → List β → α} (hmem : .of key .refused (readList read) set ∈ shape.members) :
    ∃ lower, below = lower + 1 := by
  obtain ⟨d, bs, hd, hbs⟩ := h.exists_read hmem
  obtain ⟨lower, hlower, -⟩ := yields_readList (yields_any read) below d bs hd hbs
  exact ⟨lower, hlower⟩

lemma fillItems_eq_ok {below index : Nat} {ms : List (Member α)} {a b : α} {items : Items}
    (hfits : items.Fits below) (h : shape.fillItems index ms a items = .ok b) :
    (∀ P : α → Prop, P a → (∀ m ∈ ms, m.Preserves below P) → P b) ∧
      ∀ m ∈ ms, m.absence = .refused → ∃ d b b', Draft.Fits below d ∧ m.fill d b = .ok b' := by
  induction ms generalizing index a items with
  | nil =>
    cases items with
    | closed =>
      obtain rfl := Except.ok.inj h
      exact ⟨fun P ha _ => ha, nofun⟩
    | broken fault => cases h
    | item value rest => cases h
  | cons m ms ih =>
    cases items with
    | broken fault => cases h
    | closed =>
      rw [fillItems] at h
      split at h
      case isTrue habsence =>
        obtain ⟨hinduct, hfilled⟩ := ih hfits h
        refine ⟨fun P ha hms => hinduct P ha (List.forall_mem_cons.1 hms).2, ?_⟩
        refine List.forall_mem_cons.2 ⟨fun hrefused => ?_, hfilled⟩
        rw [habsence] at hrefused
        cases hrefused
      case isFalse => cases h
    | item value rest =>
      rw [Items.Fits] at hfits
      obtain ⟨a', hfill, h⟩ := bind_eq_ok_iff.1 h
      obtain ⟨hinduct, hfilled⟩ := ih hfits.2 h
      refine ⟨fun P ha hms => ?_, ?_⟩
      · obtain ⟨hm, hms⟩ := List.forall_mem_cons.1 hms
        exact hinduct P (hm value a a' hfits.1 ha hfill) hms
      · exact List.forall_mem_cons.2 ⟨fun _ => ⟨value, a, a', hfits.1, hfill⟩, hfilled⟩

lemma fillMembers_eq_ok (hnodup : (shape.members.map Member.key).Nodup) {below : Nat} :
    ∀ (members : Members) (seen : List String) (a b : α), members.Fits below →
      shape.fillMembers seen a members = .ok b →
      (∀ P : α → Prop, P a → (∀ m ∈ shape.members, m.Preserves below P) → P b) ∧
        ∀ m ∈ shape.members, m.absence = .refused →
          m.key ∈ seen ∨ ∃ d b b', Draft.Fits below d ∧ m.fill d b = .ok b'
  | .closed, seen, a, b, _, h => by
    rw [fillMembers] at h
    cases hmissing : shape.firstMissing? seen with
    | some m =>
      rw [hmissing] at h
      cases h
    | none =>
      rw [hmissing] at h
      obtain rfl := Except.ok.inj h
      refine ⟨fun P ha _ => ha, fun m hm hrefused => .inl ?_⟩
      rw [firstMissing?, List.find?_eq_none] at hmissing
      simpa [hrefused] using hmissing m hm
  | .broken _, _, _, _, _, h => by
    rw [fillMembers] at h
    cases h
  | .stray _ _, _, _, _, _, h => by
    rw [fillMembers] at h
    cases h
  | .member none _ _, _, _, _, _, h => by
    rw [fillMembers] at h
    cases h
  | .member (some key) value rest, seen, a, b, hfits, h => by
    rw [Members.Fits] at hfits
    rw [fillMembers] at h
    cases hfind : shape.members.find? (·.key == key) with
    | none =>
      simp only [hfind] at h
      cases hskip : value.skip with
      | some fault =>
        rw [hskip] at h
        cases h
      | none =>
        rw [hskip] at h
        exact fillMembers_eq_ok hnodup rest seen a b hfits.2 h
    | some m =>
      simp only [hfind] at h
      split at h
      case isTrue => cases h
      case isFalse =>
        obtain ⟨a', hfill, h⟩ := bind_eq_ok_iff.1 h
        obtain ⟨hinduct, hfilled⟩ := fillMembers_eq_ok hnodup rest (key :: seen) a' b hfits.2 h
        have hm : m ∈ shape.members := List.mem_of_find?_eq_some hfind
        refine ⟨fun P ha hms => hinduct P (hms m hm value a a' hfits.1 ha hfill) hms, ?_⟩
        intro n hn hrefused
        rcases hfilled n hn hrefused with hseen | hfilled
        · rcases List.mem_cons.1 hseen with hkey | hseen
          · -- The member that was found is the one with this key.
            have hfound := find?_key hnodup hn
            rw [hkey, hfind] at hfound
            obtain rfl := Option.some.inj hfound
            exact .inr ⟨value, a, a', hfits.1, hfill⟩
          · exact .inl hseen
        · exact .inr hfilled

/-- A record that is read is obtained from drafts that fit one level less. -/
theorem obtains_of_read (hnodup : (shape.members.map Member.key).Nodup) {levels : Nat} {d : Draft}
    {a : α} (hfits : d.Fits levels) (h : shape.read d = .ok a) :
    ∃ below, levels = below + 1 ∧ shape.Obtains below a := by
  unfold read at h
  split at h
  case h_1 members =>
    rw [Draft.Fits] at hfits
    obtain ⟨below, rfl, hmembers⟩ := hfits
    obtain ⟨hinduct, hfilled⟩ := fillMembers_eq_ok hnodup members [] _ _ hmembers h
    exact ⟨below, rfl, hinduct, fun m hm hrefused =>
      (hfilled m hm hrefused).resolve_left (List.not_mem_nil)⟩
  case h_2 items =>
    rw [Draft.Fits] at hfits
    obtain ⟨below, rfl, hitems⟩ := hfits
    obtain ⟨hinduct, hfilled⟩ := fillItems_eq_ok hitems h
    exact ⟨below, rfl, hinduct, hfilled⟩
  case h_3 => cases h
  case h_4 => exact absurd h mismatch_ne_ok

end Shape

/-! ## Choices that are read -/

/-- A choice that is read is a variant without content, or is read from a content that fits one
level less. -/
lemma eq_ok_of_readChoice {variants : List (Variant α)} {levels : Nat} {d : Draft} {a : α}
    (hfits : d.Fits levels) (h : readChoice variants d = .ok a) :
    ∃ v ∈ variants, v.2 none = .ok a ∨
      ∃ below content, levels = below + 1 ∧ Draft.Fits below content ∧
        v.2 (some content) = .ok a := by
  have hvariant : ∀ (name : String) (content : Option Draft),
      readVariant variants name content = .ok a → ∃ v ∈ variants, v.2 content = .ok a := by
    intro name content hread
    unfold readVariant at hread
    split at hread
    case h_1 read hlookup =>
      obtain ⟨before, after, rfl, -⟩ := List.lookup_eq_some_iff.1 hlookup
      exact ⟨(name, read), List.mem_append_right _ List.mem_cons_self, hread⟩
    case h_2 => cases hread
  unfold readChoice at h
  split at h
  case h_1 name =>
    obtain ⟨v, hv, hread⟩ := hvariant name none h
    exact ⟨v, hv, .inl hread⟩
  case h_2 name content rest =>
    rw [Draft.Fits] at hfits
    obtain ⟨below, rfl, hmembers⟩ := hfits
    rw [Members.Fits] at hmembers
    obtain ⟨b, hb, h⟩ := bind_eq_ok_iff.1 h
    have hsame : b = a := by
      split at h
      · exact Except.ok.inj h
      · cases h
      · cases h
    obtain ⟨v, hv, hread⟩ := hvariant name (some content) (hsame ▸ hb)
    exact ⟨v, hv, .inr ⟨below, content, rfl, hmembers.1, hread⟩⟩
  all_goals cases h

/-- What is read of a choice whose variants all have content is read from a content that fits one
level less. -/
lemma yields_readChoice {variants : List (Variant α)} {P : Nat → α → Prop}
    (h : ∀ v ∈ variants, ∃ (name : String) (content : Reader α), v = .holding name content ∧
      Yields content fun below a => P (below + 1) a) : Yields (readChoice variants) P := by
  intro levels d a hd hread
  obtain ⟨v, hv, hread⟩ := eq_ok_of_readChoice hd hread
  obtain ⟨name, content, rfl, hcontent⟩ := h v hv
  rcases hread with hnone | ⟨below, d', rfl, hd', hread⟩
  · cases hnone
  · exact hcontent below d' a hd' hread

end SearchCriteria
