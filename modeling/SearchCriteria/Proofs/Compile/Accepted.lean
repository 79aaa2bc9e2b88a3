/-
# The clauses of accepted entries

What is known of an entry for which there is a clause, and what that clause is.  There is one
lemma for each function that makes clauses; what follows of the clauses of all operators is
assembled from them elsewhere.
-/
import Mathlib.Tactic.SplitIfs
import SearchCriteria.Compile.FilterLeaf
import SearchCriteria.Proofs.Outcome

namespace SearchCriteria

open Outcome Text

/-! ## Values of entries -/

lemma Value.mapM_scalarText?_cons {v : Value} {values : List Value} {texts : List String} :
    (v :: values).mapM scalarText? = some texts ↔
      ∃ s rest, v.scalarText? = some s ∧ values.mapM scalarText? = some rest ∧
        s :: rest = texts := by
  simp only [List.mapM_cons, Option.bind_eq_bind, Option.bind_eq_some_iff, Option.pure_def,
    Option.some.injEq]
  constructor
  · rintro ⟨s, hs, rest, hrest, htexts⟩
    exact ⟨s, rest, hs, hrest, htexts⟩
  · rintro ⟨s, rest, hs, hrest, htexts⟩
    exact ⟨s, hs, rest, hrest, htexts⟩

lemma Value.isScalar_of_mapM {values : List Value} {texts : List String}
    (h : values.mapM scalarText? = some texts) : ∀ v ∈ values, v.isScalar = true := by
  induction values generalizing texts with
  | nil => simp
  | cons v values ih =>
    obtain ⟨s, rest, hs, hrest, -⟩ := mapM_scalarText?_cons.1 h
    exact List.forall_mem_cons.2 ⟨by rw [isScalar, hs]; rfl, ih hrest⟩

lemma Value.isNull_of_isScalar {v : Value} (h : v.isScalar = true) : v.isNull = false := by
  cases v <;> first | rfl | cases h

lemma RangeLeaf.bound_of_isScalar {v : Value} (h : v.isScalar = true) : bound v = some v := by
  rw [bound, Value.isNull_of_isScalar h, if_neg Bool.false_ne_true]

namespace Entry

variable {field : Field} {entry : Entry}

@[simp] lemma refuse_ne_ok {α : Type} (complaint : Complaint) (a : α) :
    (entry.refuse field complaint : Except CriteriaError α) ≠ .ok a := nofun

lemma requiredValue_eq_ok_iff {v : Value} :
    entry.requiredValue field = .ok v ↔ entry.value = some v := by
  unfold requiredValue
  cases entry.value with
  | none => simp
  | some w => simp

lemma scalarValue_eq_ok {v : Value} (h : entry.scalarValue field = .ok v) :
    entry.value = some v ∧ v.isScalar = true := by
  obtain ⟨w, hw, h⟩ := bind_eq_ok_iff.1 h
  split at h
  case isTrue hscalar =>
    rw [← Except.ok.inj h]
    exact ⟨requiredValue_eq_ok_iff.1 hw, hscalar⟩
  case isFalse => exact absurd h (refuse_ne_ok _ _)

lemma itemTexts_eq_ok_iff {values : List Value} {texts : List String} :
    entry.itemTexts field values = .ok texts ↔ values.mapM Value.scalarText? = some texts := by
  induction values generalizing texts with
  | nil => simp [itemTexts]
  | cons v values ih =>
    rw [itemTexts, Value.mapM_scalarText?_cons]
    cases v.scalarText? with
    | none => simp
    | some s => simp [bind_eq_ok_iff, ih]

/-- The texts of the items of an entry's list, if it has one and all its items are scalars. -/
def listTexts? (entry : Entry) : Option (List String) :=
  (entry.value.bind Value.list?).bind fun values => values.mapM Value.scalarText?

end Entry

/-! ## Places -/

/-- The coordinates of a point are degrees of latitude and of longitude. -/
def GeoPoint.InRange (p : GeoPoint) : Prop :=
  p.lat.isBetween (-90) 90 = true ∧ p.lon.isBetween (-180) 180 = true

/-- A location is a point on the earth or a cell of the geohash grid. -/
def Location.IsValid : Location → Prop
  | point p => p.InRange
  | geohash hash => isGeohash hash = true

lemma GeoPoint.inRange_of_checked {lat lon : Numeric.Binary64} {p : GeoPoint}
    (h : checked lat lon = .ok p) : p.InRange := by
  unfold checked at h
  split_ifs at h with hlat hlon
  rw [← Except.ok.inj h]
  simp only [Bool.not_eq_true, Bool.not_eq_false'] at hlat hlon
  exact ⟨hlat, hlon⟩

lemma GeoPoint.inRange_of_ofText {text : String} {p : GeoPoint} (h : ofText text = .ok p) :
    p.InRange := by
  unfold ofText at h
  split at h
  case h_1 => cases h
  case h_2 =>
    split at h
    case h_1 => exact inRange_of_checked h
    case h_2 => cases h

/-- A text that is read as a location is valid. -/
lemma Location.isValid_of_ofText {text : String} {l : Location} (h : ofText text = .ok l) :
    l.IsValid := by
  unfold ofText at h
  split_ifs at h with hcomma hhash
  · obtain ⟨p, hp, rfl⟩ := map_eq_ok_iff.1 h
    exact GeoPoint.inRange_of_ofText hp
  · rw [← Except.ok.inj h]
    exact hhash

namespace Compile

variable {field : Field} {entry : Entry} {q : Query}

/-! ## Clauses for the query -/

lemma escapedLeaf_eq_ok {wrap : String → Query} (h : escapedLeaf field entry wrap = .ok q) :
    ∃ text, q = wrap text := by
  obtain ⟨text, -, h⟩ := bind_eq_ok_iff.1 h
  exact ⟨_, (Except.ok.inj h).symm⟩

lemma textLeaf_eq_ok {wrap : String → Query} (h : textLeaf field entry wrap = .ok q) :
    ∃ text, q = wrap text := by
  obtain ⟨text, -, h⟩ := bind_eq_ok_iff.1 h
  exact ⟨_, (Except.ok.inj h).symm⟩

lemma boundLeaf_eq_ok {set : RangeLeaf → Value → RangeLeaf}
    (h : boundLeaf field entry set = .ok q) :
    ∃ v, entry.value = some v ∧ v.isScalar = true ∧
      q = .leaf (.range (set (.unbounded field.name) v)) := by
  obtain ⟨v, hv, h⟩ := bind_eq_ok_iff.1 h
  obtain ⟨hvalue, hscalar⟩ := Entry.scalarValue_eq_ok hv
  exact ⟨v, hvalue, hscalar, (Except.ok.inj h).symm⟩

/-- A range has two bounds, each null or a scalar, and not both null. -/
lemma rangeLeaf_eq_ok (h : rangeLeaf field entry = .ok q) :
    ∃ lower upper, entry.value = some (.list [lower, upper]) ∧
      (lower.isNull || lower.isScalar) = true ∧ (upper.isNull || upper.isScalar) = true ∧
      (lower.isNull && upper.isNull) = false ∧
      q = .leaf (.range (((RangeLeaf.unbounded field.name).withGte lower).withLte upper)) := by
  obtain ⟨v, hv, h⟩ := bind_eq_ok_iff.1 h
  rw [Entry.requiredValue_eq_ok_iff] at hv
  split at h
  case h_1 lower upper =>
    split_ifs at h with hlower hupper hboth
    · exact absurd h (Entry.refuse_ne_ok _ _)
    · exact absurd h (Entry.refuse_ne_ok _ _)
    · exact absurd h (Entry.refuse_ne_ok _ _)
    · simp only [Bool.not_eq_true, Bool.not_eq_false'] at hlower hupper hboth
      exact ⟨lower, upper, hv, hlower, hupper, hboth, (Except.ok.inj h).symm⟩
  case h_2 => exact absurd h (Entry.refuse_ne_ok _ _)

/-- A list of values has items, all of them scalars, and becomes exact values of a keyword field,
and quoted texts for any other. -/
lemma valuesLeaf_eq_ok {negated : Bool} (h : valuesLeaf field entry negated = .ok q) :
    ∃ values texts, entry.value = some (.list values) ∧ values ≠ [] ∧
      values.mapM Value.scalarText? = some texts ∧
      q = if field.isKeyword then
          let terms := Query.leaf (.exactly ⟨field.name, values, none⟩)
          if negated then terms.negation else terms
        else
          queryString field (if negated then "NOT(" ++ anyOf texts ++ ")" else anyOf texts) none
            false := by
  obtain ⟨v, hv, h⟩ := bind_eq_ok_iff.1 h
  rw [Entry.requiredValue_eq_ok_iff] at hv
  split at h
  case h_1 => exact absurd h (Entry.refuse_ne_ok _ _)
  case h_2 values hne =>
    obtain ⟨texts, htexts, h⟩ := bind_eq_ok_iff.1 h
    refine ⟨values, texts, hv, hne, Entry.itemTexts_eq_ok_iff.1 htexts, ?_⟩
    split at h
    case isTrue hkeyword => rw [if_pos hkeyword, Except.ok.inj h]
    case isFalse hkeyword => rw [if_neg hkeyword, Except.ok.inj h]
  case h_3 => exact absurd h (Entry.refuse_ne_ok _ _)

lemma presentLeaf_eq_ok (h : presentLeaf field entry = .ok q) :
    q = present field ∨ q = (present field).negation := by
  unfold presentLeaf at h
  split at h
  case h_1 => exact .inl (Except.ok.inj h).symm
  case h_2 => exact .inl (Except.ok.inj h).symm
  case h_3 => exact .inr (Except.ok.inj h).symm
  case h_4 => exact absurd h (Entry.refuse_ne_ok _ _)

/-! ## Clauses for the filter -/

lemma complain_eq_ok_iff {α : Type} {x : Except GeoError α} {a : α} :
    complain field entry x = .ok a ↔ x = .ok a := by
  cases x <;> simp [complain]

end Compile

end SearchCriteria
