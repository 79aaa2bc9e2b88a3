/-
# Entries without repetition

Equality of values is symmetric and transitive, although a number that is not one differs from
itself.  An entry is therefore equal to one that has been added before if and only if it is equal to
one that has been kept, and adding entries one after another keeps the first of each.

* `foldl_addEntry`: what adding several entries puts behind those that are there;
* `distinct_foldl_addEntry`: it neither brings about two equal entries nor removes any.
-/
import SearchCriteria.Criteria.Builder
import SearchCriteria.Proofs.Codec.Value

namespace SearchCriteria

open Numeric

/-! ## Equality of values and entries -/

/-- Numbers are equal if they have the same place on the number line. -/
lemma Numeric.Binary.beq_iff {f : Format} {x y : Binary f} :
    (x == y) = true ↔ ∃ p, x.position? = some p ∧ y.position? = some p := by
  change Binary.beq x y = true ↔ _
  rw [Binary.beq]
  cases x.position? with
  | none => simp
  | some p =>
    cases y.position? with
    | none => simp
    | some q => simp [@eq_comm _ q]

instance {f : Format} : PartialEquivBEq (Binary f) where
  symm := by
    intro x y h
    obtain ⟨p, hx, hy⟩ := Binary.beq_iff.1 h
    exact Binary.beq_iff.2 ⟨p, hy, hx⟩
  trans := by
    intro x y z hxy hyz
    obtain ⟨p, hx, hy⟩ := Binary.beq_iff.1 hxy
    obtain ⟨q, hy', hz⟩ := Binary.beq_iff.1 hyz
    obtain rfl : p = q := Option.some.inj (hy.symm.trans hy')
    exact Binary.beq_iff.2 ⟨p, hx, hz⟩

lemma GeoPoint.beq_iff {p q : GeoPoint} :
    (p == q) = true ↔ (p.lat == q.lat) = true ∧ (p.lon == q.lon) = true :=
  Bool.and_eq_true_iff

instance : PartialEquivBEq GeoPoint where
  symm := by
    intro p q h
    obtain ⟨hlat, hlon⟩ := GeoPoint.beq_iff.1 h
    exact GeoPoint.beq_iff.2 ⟨BEq.symm hlat, BEq.symm hlon⟩
  trans := by
    intro p q r hpq hqr
    obtain ⟨hlat, hlon⟩ := GeoPoint.beq_iff.1 hpq
    obtain ⟨hlat', hlon'⟩ := GeoPoint.beq_iff.1 hqr
    exact GeoPoint.beq_iff.2 ⟨BEq.trans hlat hlat', BEq.trans hlon hlon'⟩

lemma Distance.beq_iff {d e : Distance} :
    (d == e) = true ↔ (d.value == e.value) = true ∧ (d.unit == e.unit) = true :=
  Bool.and_eq_true_iff

instance : PartialEquivBEq Distance where
  symm := by
    intro d e h
    obtain ⟨hvalue, hunit⟩ := Distance.beq_iff.1 h
    exact Distance.beq_iff.2 ⟨BEq.symm hvalue, BEq.symm hunit⟩
  trans := by
    intro d e g hde heg
    obtain ⟨hvalue, hunit⟩ := Distance.beq_iff.1 hde
    obtain ⟨hvalue', hunit'⟩ := Distance.beq_iff.1 heg
    exact Distance.beq_iff.2 ⟨BEq.trans hvalue hvalue', BEq.trans hunit hunit'⟩

namespace Value

/-- What holds of equality with a value that is equal to another one: it goes both ways, and it
goes on. -/
def Agrees (v w : Value) : Prop :=
  (w == v) = true ∧ ∀ u, (w == u) = true → (v == u) = true

/-- Values of one kind agree if what they hold is compared by a partial equivalence. -/
lemma agrees_of_kind {α : Type} [BEq α] [PartialEquivBEq α] (kind : α → Value)
    (hsame : ∀ a b, (kind a == kind b) = (a == b))
    (hkind : ∀ a w, (kind a == w) = true → ∃ b, w = kind b) (a : α) (w : Value)
    (h : (kind a == w) = true) : (kind a).Agrees w := by
  obtain ⟨b, rfl⟩ := hkind a w h
  rw [hsame] at h
  constructor
  · rw [hsame]
    exact BEq.symm h
  · intro u hu
    obtain ⟨c, rfl⟩ := hkind b u hu
    rw [hsame] at hu ⊢
    exact BEq.trans h hu

mutual

/-- Equal values agree. -/
theorem agrees_of_beq : ∀ v w : Value, (v == w) = true → v.Agrees w
  | null, w, h => by
    cases w with
    | null => exact ⟨rfl, fun _ hu => hu⟩
    | _ => cases h
  | bool a, w, h => by
    refine agrees_of_kind bool (fun _ _ => rfl) (fun a w h => ?_) a w h
    cases w with
    | bool b => exact ⟨b, rfl⟩
    | _ => cases h
  | integer a, w, h => by
    refine agrees_of_kind integer (fun _ _ => rfl) (fun a w h => ?_) a w h
    cases w with
    | integer b => exact ⟨b, rfl⟩
    | _ => cases h
  | float a, w, h => by
    refine agrees_of_kind float (fun _ _ => rfl) (fun a w h => ?_) a w h
    cases w with
    | float b => exact ⟨b, rfl⟩
    | _ => cases h
  | dateTime a, w, h => by
    refine agrees_of_kind dateTime (fun _ _ => rfl) (fun a w h => ?_) a w h
    cases w with
    | dateTime b => exact ⟨b, rfl⟩
    | _ => cases h
  | text a, w, h => by
    refine agrees_of_kind text (fun _ _ => rfl) (fun a w h => ?_) a w h
    cases w with
    | text b => exact ⟨b, rfl⟩
    | _ => cases h
  | point a, w, h => by
    refine agrees_of_kind point (fun _ _ => rfl) (fun a w h => ?_) a w h
    cases w with
    | point b => exact ⟨b, rfl⟩
    | _ => cases h
  | distance a, w, h => by
    refine agrees_of_kind distance (fun _ _ => rfl) (fun a w h => ?_) a w h
    cases w with
    | distance b => exact ⟨b, rfl⟩
    | _ => cases h
  | list as, w, h => by
    cases w with
    | list bs =>
      rw [list_beq_list] at h
      obtain ⟨hsymm, htrans⟩ := agree_of_beq as bs h
      refine ⟨by rwa [list_beq_list], fun u hu => ?_⟩
      cases u with
      | list cs =>
        rw [list_beq_list] at hu ⊢
        exact htrans cs hu
      | _ => cases hu
    | _ => cases h

theorem agree_of_beq : ∀ vs ws : List Value, (vs == ws) = true →
    (ws == vs) = true ∧ ∀ us, (ws == us) = true → (vs == us) = true
  | [], [], _ => ⟨rfl, fun _ hus => hus⟩
  | [], _ :: _, h => by cases h
  | _ :: _, [], h => by cases h
  | v :: vs, w :: ws, h => by
    rw [List.cons_beq_cons, Bool.and_eq_true] at h
    obtain ⟨hsymm, htrans⟩ := agrees_of_beq v w h.1
    obtain ⟨hsymms, htranss⟩ := agree_of_beq vs ws h.2
    refine ⟨by rw [List.cons_beq_cons, hsymm, hsymms, Bool.and_self], fun us hus => ?_⟩
    cases us with
    | nil => cases hus
    | cons u us =>
      rw [List.cons_beq_cons, Bool.and_eq_true] at hus ⊢
      exact ⟨htrans u hus.1, htranss us hus.2⟩

end

instance : PartialEquivBEq Value where
  symm h := (agrees_of_beq _ _ h).1
  trans h h' := (agrees_of_beq _ _ h).2 _ h'

end Value

namespace Entry

/-- Entries are equal if their operators are and both have equal values or none. -/
lemma beq_iff {d e : Entry} : (d == e) = true ↔
    d.operator = e.operator ∧ Option.Rel (fun v w => (v == w) = true) d.value e.value := by
  obtain ⟨operator, value⟩ := d
  obtain ⟨operator', value'⟩ := e
  change (operator == operator' && value == value') = true ↔ _
  rw [Bool.and_eq_true, beq_iff_eq]
  refine and_congr_right fun _ => ⟨fun h => ?_, fun h => ?_⟩
  · cases value with
    | none =>
      cases value' with
      | none => exact .none
      | some w => cases h
    | some v =>
      cases value' with
      | none => cases h
      | some w => exact .some h
  · cases h with
    | none => rfl
    | some h => exact h

instance : PartialEquivBEq Entry where
  symm := by
    intro d e h
    obtain ⟨hoperator, hvalue⟩ := beq_iff.1 h
    refine beq_iff.2 ⟨hoperator.symm, ?_⟩
    generalize d.value = o, e.value = o' at hvalue
    cases hvalue with
    | none => exact .none
    | some h => exact .some (BEq.symm h)
  trans := by
    intro d e g h h'
    obtain ⟨hoperator, hvalue⟩ := beq_iff.1 h
    obtain ⟨hoperator', hvalue'⟩ := beq_iff.1 h'
    refine beq_iff.2 ⟨hoperator.trans hoperator', ?_⟩
    generalize d.value = o, e.value = o', g.value = o'' at hvalue hvalue'
    cases hvalue with
    | none => exact hvalue'
    | some h =>
      cases hvalue' with
      | some h' => exact .some (BEq.trans h h')

end Entry

/-! ## Adding entries -/

/-- No two of the entries are equal. -/
def Entry.Distinct (entries : List Entry) : Prop :=
  entries.Pairwise fun d e => (d == e) = false

/-- The entries that are equal neither to one that has been seen nor to an earlier one. -/
def Entry.firstOf : (seen : List Entry) → List Entry → List Entry
  | _, [] => []
  | seen, entry :: rest =>
    if seen.contains entry then firstOf (seen ++ [entry]) rest
    else entry :: firstOf (seen ++ [entry]) rest

namespace Entry

/-- Only what is equal to something that has been seen matters of what has been seen. -/
lemma firstOf_congr {seen seen' : List Entry} (h : ∀ e, seen.contains e = seen'.contains e)
    (entries : List Entry) : firstOf seen entries = firstOf seen' entries := by
  induction entries generalizing seen seen' with
  | nil => rfl
  | cons entry rest ih =>
    have hnext : firstOf (seen ++ [entry]) rest = firstOf (seen' ++ [entry]) rest :=
      ih fun e => by rw [List.contains_append, List.contains_append, h]
    rw [firstOf, firstOf, h, hnext]

/-- An entry that has been seen adds nothing to what has been seen. -/
lemma contains_concat_of_contains {seen : List Entry} {entry : Entry}
    (h : seen.contains entry = true) (e : Entry) :
    (seen ++ [entry]).contains e = seen.contains e := by
  rw [List.contains_append, List.contains_cons, List.contains_nil, Bool.or_false]
  cases heq : e == entry with
  | false => rw [Bool.or_false]
  | true =>
    rw [Bool.or_true, eq_comm]
    rw [List.contains_eq_any_beq, List.any_eq_true] at h ⊢
    obtain ⟨d, hd, hentry⟩ := h
    exact ⟨d, hd, BEq.trans heq hentry⟩

end Entry

/-- Adding entries puts the first of each behind those that are there, in order. -/
theorem foldl_addEntry (kept added : List Entry) :
    added.foldl addEntry kept = kept ++ Entry.firstOf kept added := by
  induction added generalizing kept with
  | nil => rw [List.foldl_nil, Entry.firstOf, List.append_nil]
  | cons entry rest ih =>
    rw [List.foldl_cons, ih, addEntry, Entry.firstOf]
    split
    case isTrue hseen =>
      -- The entry is not kept, but counts as one that has been seen.
      rw [Entry.firstOf_congr (Entry.contains_concat_of_contains hseen)]
    case isFalse => rw [List.append_assoc, List.singleton_append]

lemma Entry.mem_of_mem_firstOf {seen entries : List Entry} {entry : Entry}
    (h : entry ∈ firstOf seen entries) : entry ∈ entries := by
  induction entries generalizing seen with
  | nil => cases h
  | cons first rest ih =>
    rw [firstOf] at h
    split at h
    case isTrue => exact List.mem_cons_of_mem _ (ih h)
    case isFalse =>
      obtain rfl | h := List.mem_cons.1 h
      · exact List.mem_cons_self
      · exact List.mem_cons_of_mem _ (ih h)

/-- An entry that is not the first of its kind is equal to one that is kept. -/
lemma Entry.mem_firstOf_or_beq {seen entries : List Entry} {entry : Entry} (h : entry ∈ entries) :
    entry ∈ firstOf seen entries ∨ ∃ d ∈ seen ++ firstOf seen entries, (entry == d) = true := by
  induction entries generalizing seen with
  | nil => cases h
  | cons first rest ih =>
    rw [firstOf]
    split
    case isTrue hseen =>
      rw [List.contains_eq_any_beq, List.any_eq_true] at hseen
      obtain ⟨d, hd, hfirst⟩ := hseen
      obtain rfl | h := List.mem_cons.1 h
      · exact .inr ⟨d, List.mem_append_left _ hd, hfirst⟩
      obtain hkept | ⟨d', hd', hbeq⟩ := ih h
      · exact .inl hkept
      rw [List.append_assoc, List.mem_append] at hd'
      obtain hd' | hd' := hd'
      · exact .inr ⟨d', List.mem_append_left _ hd', hbeq⟩
      obtain rfl | hd' := List.mem_cons.1 hd'
      · exact .inr ⟨d, List.mem_append_left _ hd, BEq.trans hbeq hfirst⟩
      · exact .inr ⟨d', List.mem_append_right _ hd', hbeq⟩
    case isFalse =>
      obtain rfl | h := List.mem_cons.1 h
      · exact .inl List.mem_cons_self
      obtain hkept | ⟨d', hd', hbeq⟩ := ih h
      · exact .inl (List.mem_cons_of_mem _ hkept)
      · rw [List.append_assoc] at hd'
        exact .inr ⟨d', hd', hbeq⟩

/-- What is said of an entry by saying it of an equal one holds of all entries that are there after
others are added if it holds of those that were there and of those that are added. -/
lemma forall_mem_foldl_addEntry {P : Entry → Prop} {kept added : List Entry}
    (hP : ∀ e ∈ added, ∀ d, (e == d) = true → P d → P e) :
    (∀ e ∈ added.foldl addEntry kept, P e) ↔ (∀ e ∈ kept, P e) ∧ ∀ e ∈ added, P e := by
  induction added generalizing kept with
  | nil => simp
  | cons entry rest ih =>
    obtain ⟨hentry, hrest⟩ := List.forall_mem_cons.1 hP
    rw [List.foldl_cons, ih hrest, addEntry, List.forall_mem_cons]
    split
    case isTrue hseen =>
      rw [List.contains_eq_any_beq, List.any_eq_true] at hseen
      obtain ⟨d, hd, hbeq⟩ := hseen
      exact ⟨fun ⟨hkept, hadded⟩ => ⟨hkept, hentry d hbeq (hkept d hd), hadded⟩,
        fun ⟨hkept, _, hadded⟩ => ⟨hkept, hadded⟩⟩
    case isFalse => rw [List.forall_mem_append, List.forall_mem_singleton, and_assoc]

lemma distinct_addEntry {entries : List Entry} {entry : Entry} :
    Entry.Distinct (addEntry entries entry) ↔ Entry.Distinct entries := by
  rw [addEntry]
  split
  case isTrue => rfl
  case isFalse hnew =>
    rw [Entry.Distinct, Entry.Distinct, List.pairwise_append]
    refine ⟨And.left, fun h => ⟨h, List.pairwise_singleton _ _, fun d hd e he => ?_⟩⟩
    obtain rfl := List.mem_singleton.1 he
    -- The new entry was compared with those that are there, and is the second one here.
    rw [List.contains_eq_any_beq, List.any_eq_true] at hnew
    rw [Bool.eq_false_iff]
    exact fun h => hnew ⟨d, hd, BEq.symm h⟩

/-- Adding entries neither brings about two equal ones nor removes any. -/
theorem distinct_foldl_addEntry {kept added : List Entry} :
    Entry.Distinct (added.foldl addEntry kept) ↔ Entry.Distinct kept := by
  induction added generalizing kept with
  | nil => rfl
  | cons entry rest ih => rw [List.foldl_cons, ih, distinct_addEntry]

end SearchCriteria
