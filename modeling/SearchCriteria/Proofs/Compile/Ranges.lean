/-
# Ranges

Some operators ask that the value of a field lie in a range.  The entry of such an operator becomes
a range with one bound or two, and what the range means is said for any order in which the values
have a place.

* `RangeLeaf.Holds`: a place is within the bounds of a range;
* `Entry.range`: the range that an entry asks for, which is its clause by `queryLeaf_eq_range`;
* `Entry.holds_range_congr`: equal entries ask for ranges that hold at the same places, if equal
  values have the same place.
-/
import Mathlib.Data.Nat.Basic
import SearchCriteria.Proofs.Compile.OperatorTable
import SearchCriteria.Proofs.Criteria.Entries
import SearchCriteria.Proofs.Query.Matching

namespace SearchCriteria

open Criteria

universe u

/-! ## Ends and ranges -/

section Order

variable {α : Type u} [Preorder α] (place : Value → α) (x : α)

namespace Criteria.Bound

/-- An end at a scalar, or no end. -/
def AtScalar : Bound → Prop
  | included v => v.Scalar
  | excluded v => v.Scalar
  | unbounded => True

/-- A place is above the lower end of an interval. -/
def IsLowerOf : Bound → Prop
  | included v => place v ≤ x
  | excluded v => place v < x
  | unbounded => True

/-- A place is below the upper end of an interval. -/
def IsUpperOf : Bound → Prop
  | included v => x ≤ place v
  | excluded v => x < place v
  | unbounded => True

end Criteria.Bound

/-- A place is within all bounds of a range. -/
def RangeLeaf.Holds (r : RangeLeaf) : Prop :=
  (∀ a ∈ r.lt.map place, x < a) ∧ (∀ a ∈ r.lte.map place, x ≤ a) ∧
    (∀ a ∈ r.gt.map place, a < x) ∧ ∀ a ∈ r.gte.map place, a ≤ x

end Order

/-- The ranges of a field are read as intervals: a document matches them by its value there. -/
def Interpretation.ReadsRanges {α : Type u} [Preorder α] {D : Type} (I : Interpretation D)
    (name : String) (place : Value → α) (valueOf : D → α) : Prop :=
  ∀ (r : RangeLeaf) (d : D), r.field = name → (I.leaf (.range r) d ↔ r.Holds place (valueOf d))

/-- Equal values have the same place. -/
def RespectsEquality {α : Type u} (place : Value → α) : Prop :=
  ∀ v w : Value, (v == w) = true → place v = place w

lemma RangeLeaf.bound_of_scalar {v : Value} (h : v.Scalar) : bound v = some v :=
  bound_of_isScalar (Value.isScalar_iff.2 h)

/-! ## Entries that ask for a range -/

/-- Whether an operator asks for a range. -/
def Operator.isRange : Operator → Bool
  | less => true
  | lessEqual => true
  | greater => true
  | greaterEqual => true
  | between => true
  | _ => false

/-- The range that an entry asks for, if its operator asks for one. -/
def Entry.range (name : String) (entry : Entry) : RangeLeaf :=
  match entry.operator, entry.value with
  | .less, some v => (RangeLeaf.unbounded name).withLt v
  | .lessEqual, some v => (RangeLeaf.unbounded name).withLte v
  | .greater, some v => (RangeLeaf.unbounded name).withGt v
  | .greaterEqual, some v => (RangeLeaf.unbounded name).withGte v
  | .between, some (.list [lower, upper]) =>
    ((RangeLeaf.unbounded name).withGte lower).withLte upper
  | _, _ => RangeLeaf.unbounded name

lemma Entry.field_range (name : String) (entry : Entry) : (entry.range name).field = name := by
  unfold Entry.range
  split <;> rfl

lemma Compile.queryLeaf_eq_range {field : Field} {entry : Entry} {q : Query}
    (hop : entry.operator.isRange = true) (h : queryLeaf field entry = .ok q) :
    q = .leaf (.range (entry.range field.name)) := by
  obtain ⟨operator, value⟩ := entry
  cases operator with
  | less | lessEqual | greater | greaterEqual =>
    obtain ⟨v, hvalue, -, rfl⟩ := boundLeaf_eq_ok h
    obtain rfl : value = some v := hvalue
    rfl
  | between =>
    obtain ⟨lower, upper, hvalue, -, -, -, rfl⟩ := rangeLeaf_eq_ok h
    obtain rfl : value = some (.list [lower, upper]) := hvalue
    rfl
  | _ => cases hop

lemma Value.pair_of_beq {lower upper w : Value} (h : (Value.list [lower, upper] == w) = true) :
    ∃ lower' upper', w = .list [lower', upper'] ∧ (lower == lower') = true ∧
      (upper == upper') = true := by
  cases w with
  | list ws =>
    rw [list_beq_list] at h
    match ws, h with
    | [lower', upper'], h =>
      simp only [List.cons_beq_cons, Bool.and_eq_true] at h
      exact ⟨lower', upper', rfl, h.1, h.2.1⟩
    | [_], h => simp only [List.cons_beq_cons, Bool.and_eq_true] at h; cases h.2
    | _ :: _ :: _ :: _, h => simp only [List.cons_beq_cons, Bool.and_eq_true] at h; cases h.2.2
  | _ => cases h

/-- A range entry without two bounds asks for nothing. -/
lemma Entry.range_between_of_not_pair {v : Value} (h : ¬∃ lower upper, v = .list [lower, upper])
    (name : String) : Entry.range name (.of .between v) = .unbounded name := by
  cases v with
  | list vs =>
    match vs with
    | [lower, upper] => exact absurd ⟨lower, upper, rfl⟩ h
    | [] => rfl
    | [_] => rfl
    | _ :: _ :: _ :: _ => rfl
  | _ => rfl

section Congruence

variable {α : Type u} {place : Value → α} (hplace : RespectsEquality place)

include hplace

lemma RangeLeaf.map_bound_congr {v w : Value} (h : (v == w) = true) :
    (bound v).map place = (bound w).map place := by
  have hnull : v.isNull = w.isNull := by
    cases v <;> cases w <;> first | rfl | cases h
  rw [bound, bound, hnull]
  split
  · rfl
  · rw [Option.map_some, Option.map_some, hplace v w h]

variable [Preorder α]

/-- Equal lists ask for ranges that hold at the same places: both have two bounds, in the same
places one by one, or neither asks for anything. -/
lemma Entry.holds_between_congr {v w : Value} (h : (v == w) = true) (name : String) (x : α) :
    (Entry.range name (.of .between v)).Holds place x ↔
      (Entry.range name (.of .between w)).Holds place x := by
  by_cases hpair : ∃ lower upper, v = .list [lower, upper]
  · obtain ⟨lower, upper, rfl⟩ := hpair
    obtain ⟨lower', upper', rfl, hlower, hupper⟩ := Value.pair_of_beq h
    simp only [Entry.range, Entry.of, RangeLeaf.withGte, RangeLeaf.withLte, RangeLeaf.Holds,
      RangeLeaf.map_bound_congr hplace hlower, RangeLeaf.map_bound_congr hplace hupper]
  · have hpair' : ¬∃ lower upper, w = .list [lower, upper] := by
      rintro ⟨lower, upper, rfl⟩
      obtain ⟨lower', upper', rfl, -, -⟩ := Value.pair_of_beq (BEq.symm h)
      exact hpair ⟨lower', upper', rfl⟩
    rw [range_between_of_not_pair hpair, range_between_of_not_pair hpair']

lemma Entry.holds_range_congr {d e : Entry} (h : (d == e) = true) (name : String) (x : α) :
    (d.range name).Holds place x ↔ (e.range name).Holds place x := by
  obtain ⟨operator, value⟩ := d
  obtain ⟨operator', value'⟩ := e
  obtain ⟨hoperator, hvalue⟩ := Entry.beq_iff.1 h
  obtain rfl : operator = operator' := hoperator
  cases hvalue with
  | none => rfl
  | @some v w hvalues =>
    have hbound := RangeLeaf.map_bound_congr hplace hvalues
    cases operator with
    | less => simp only [Entry.range, RangeLeaf.withLt, RangeLeaf.Holds, hbound]
    | lessEqual => simp only [Entry.range, RangeLeaf.withLte, RangeLeaf.Holds, hbound]
    | greater => simp only [Entry.range, RangeLeaf.withGt, RangeLeaf.Holds, hbound]
    | greaterEqual => simp only [Entry.range, RangeLeaf.withGte, RangeLeaf.Holds, hbound]
    | between => exact holds_between_congr hplace hvalues name x
    | _ => rfl

end Congruence

end SearchCriteria
