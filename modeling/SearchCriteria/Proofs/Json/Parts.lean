/-
# The parts of a JSON value

The parts of a JSON value are the value itself, the items of arrays and the values of members, at
every depth.  A value is *full* if none of its parts is written as `null` or as an array without
items.
-/
import SearchCriteria.Proofs.Json.Scanning

namespace SearchCriteria.Json

open Numeric Scanner Text

mutual

/-- The value and the values inside it, at every depth. -/
def parts : Json → List Json
  | array items => array items :: partsOfItems items
  | object members => object members :: partsOfMembers members
  | j => [j]

/-- The parts of the items of an array. -/
def partsOfItems : List Json → List Json
  | [] => []
  | item :: rest => parts item ++ partsOfItems rest

/-- The parts of the values of members. -/
def partsOfMembers : List (String × Json) → List Json
  | [] => []
  | (_, value) :: rest => parts value ++ partsOfMembers rest

end

/-- No part is written as `null` or as an array without items. -/
def IsFull (j : Json) : Prop :=
  ∀ p ∈ j.parts, p.write ≠ "null".toList ∧ p.write ≠ "[]".toList

lemma mem_partsOfItems {p : Json} {items : List Json} :
    p ∈ partsOfItems items ↔ ∃ item ∈ items, p ∈ item.parts := by
  induction items with
  | nil => simp [partsOfItems]
  | cons item items ih => simp [partsOfItems, ih]

lemma mem_partsOfMembers {p : Json} {members : List (String × Json)} :
    p ∈ partsOfMembers members ↔ ∃ m ∈ members, p ∈ m.2.parts := by
  induction members with
  | nil => simp [partsOfMembers]
  | cons m members ih =>
    obtain ⟨key, value⟩ := m
    simp [partsOfMembers, ih]

/-! ## Full values -/

lemma ne_of_head {c : Char} {rest : List Char} (hn : c ≠ 'n') (hbracket : c ≠ '[') :
    c :: rest ≠ "null".toList ∧ c :: rest ≠ "[]".toList := by
  constructor
  · intro h
    exact hn (List.cons.inj h).1
  · intro h
    exact hbracket (List.cons.inj h).1

lemma isFull_of_parts {j : Json} (hparts : j.parts = [j])
    (h : j.write ≠ "null".toList ∧ j.write ≠ "[]".toList) : j.IsFull := by
  rw [IsFull, hparts]
  exact List.forall_mem_singleton.2 h

lemma isFull_bool (b : Bool) : (bool b).IsFull :=
  isFull_of_parts (by simp [parts]) (by cases b <;> decide)

lemma isFull_text (s : String) : (text s).IsFull := by
  refine isFull_of_parts (by simp [parts]) ?_
  rw [write, writeString]
  exact ne_of_head (by decide) (by decide)

lemma ne_of_digit {cs : List Char} (h : StartsWithDigit cs) :
    cs ≠ "null".toList ∧ cs ≠ "[]".toList := by
  obtain ⟨c, rest, rfl, hdigit⟩ := h
  exact ne_of_head (ne_of_isDigit hdigit (by decide)) (ne_of_isDigit hdigit (by decide))

lemma isFull_integer (n : Int) : (integer n).IsFull := by
  refine isFull_of_parts (by simp [parts]) ?_
  rw [write, writeInteger]
  split
  · exact ne_of_head (by decide) (by decide)
  · exact ne_of_digit (startsWithDigit_of_digits (isDigit_toDigits _) Nat.toDigits_ne_nil)

/-- A finite number is written with digits. -/
lemma ne_of_isFinite {f : Format} {x : Binary f} (h : x.isFinite = true) :
    writeNumber x ≠ "null".toList ∧ writeNumber x ≠ "[]".toList := by
  cases x with
  | nan => cases h
  | infinity negative => cases h
  | finite negative m s hcanonical =>
    rw [Binary.writeNumber_finite]
    cases negative with
    | true => exact ne_of_head (by decide) (by decide)
    | false => exact ne_of_digit (startsWithDigit_write _ _)

lemma isFull_float {x : Binary64} (h : x.isFinite = true) : (float x).IsFull :=
  isFull_of_parts (by simp [parts]) (by rw [write]; exact ne_of_isFinite h)

lemma isFull_single {x : Binary32} (h : x.isFinite = true) : (single x).IsFull :=
  isFull_of_parts (by simp [parts]) (by rw [write]; exact ne_of_isFinite h)

lemma isFull_array {items : List Json} (hne : items ≠ []) (h : ∀ item ∈ items, item.IsFull) :
    (array items).IsFull := by
  rw [IsFull, parts]
  refine List.forall_mem_cons.2 ⟨?_, fun p hp => ?_⟩
  · obtain ⟨item, rest, rfl⟩ := List.exists_cons_of_ne_nil hne
    -- What follows the bracket is not the end of the array.
    obtain ⟨c, cs, hstart, -, hc⟩ := startsItem_write item
    rw [write, hstart]
    constructor
    · simp
    · intro hnil
      exact hc (List.cons.inj (List.cons.inj hnil).2).1
  · obtain ⟨item, hitem, hp⟩ := mem_partsOfItems.1 hp
    exact h item hitem p hp

lemma isFull_object {members : List (String × Json)} (h : ∀ m ∈ members, m.2.IsFull) :
    (object members).IsFull := by
  rw [IsFull, parts]
  refine List.forall_mem_cons.2 ⟨?_, fun p hp => ?_⟩
  · cases members with
    | nil => rw [write]; exact ne_of_head (by decide) (by decide)
    | cons m members => rw [write]; exact ne_of_head (by decide) (by decide)
  · obtain ⟨m, hm, hp⟩ := mem_partsOfMembers.1 hp
    exact h m hm p hp

lemma isFull_optionalMember {α : Type} {key : String} {encode : α → Json} {o : Option α}
    (h : ∀ a, o = some a → (encode a).IsFull) :
    ∀ m ∈ optionalMember key encode o, m.2.IsFull := by
  cases o with
  | none => simp [optionalMember]
  | some a => exact List.forall_mem_singleton.2 (h a rfl)

end SearchCriteria.Json
