/-
# Drafts of JSON values

The draft of a JSON value settles to the value, its 32-bit numbers widened.  A text may make
something else of some numbers; whatever that is, a value that does not nest deeper than the limit
is not buried anywhere.
-/
import Mathlib.Tactic.Lemma
import SearchCriteria.Json.Draft
import SearchCriteria.Proofs.Outcome

namespace SearchCriteria

open Numeric Outcome

namespace Json

/-! ## Depth -/

mutual

/-- The number of containers around the innermost value. -/
def depth : Json → Nat
  | array items => depthOfItems items + 1
  | object members => depthOfMembers members + 1
  | _ => 0

/-- The greatest depth of the items. -/
def depthOfItems : List Json → Nat
  | [] => 0
  | item :: rest => max (depth item) (depthOfItems rest)

/-- The greatest depth of the members' values. -/
def depthOfMembers : List (String × Json) → Nat
  | [] => 0
  | (_, value) :: rest => max (depth value) (depthOfMembers rest)

end

lemma depth_le_depthOfItems {j : Json} {js : List Json} (h : j ∈ js) :
    j.depth ≤ depthOfItems js := by
  induction js with
  | nil => cases h
  | cons k ks ih =>
    rw [depthOfItems]
    rcases List.mem_cons.1 h with rfl | h
    · exact Nat.le_max_left _ _
    · exact Nat.le_trans (ih h) (Nat.le_max_right _ _)

lemma depth_le_depthOfMembers {key : String} {j : Json} {ms : List (String × Json)}
    (h : (key, j) ∈ ms) : j.depth ≤ depthOfMembers ms := by
  induction ms with
  | nil => cases h
  | cons m ms ih =>
    rw [depthOfMembers]
    rcases List.mem_cons.1 h with rfl | h
    · exact Nat.le_max_left _ _
    · exact Nat.le_trans (ih h) (Nat.le_max_right _ _)

lemma depth_array_le {js : List Json} {n : Nat} (h : ∀ j ∈ js, j.depth ≤ n) :
    (array js).depth ≤ n + 1 := by
  rw [depth, Nat.add_le_add_iff_right]
  induction js with
  | nil => exact Nat.zero_le n
  | cons j js ih =>
    obtain ⟨hj, hjs⟩ := List.forall_mem_cons.1 h
    rw [depthOfItems]
    exact Nat.max_le.2 ⟨hj, ih hjs⟩

lemma depth_object_le {ms : List (String × Json)} {n : Nat} (h : ∀ m ∈ ms, m.2.depth ≤ n) :
    (object ms).depth ≤ n + 1 := by
  rw [depth, Nat.add_le_add_iff_right]
  induction ms with
  | nil => exact Nat.zero_le n
  | cons m ms ih =>
    obtain ⟨hm, hms⟩ := List.forall_mem_cons.1 h
    rw [depthOfMembers]
    exact Nat.max_le.2 ⟨hm, ih hms⟩

lemma depth_optionalMember_le {α : Type} {key : String} {encode : α → Json} {o : Option α} {n : Nat}
    (h : ∀ a, o = some a → (encode a).depth ≤ n) :
    ∀ m ∈ optionalMember key encode o, m.2.depth ≤ n := by
  cases o with
  | none => exact List.forall_mem_nil _
  | some a => exact List.forall_mem_singleton.2 (h a rfl)

lemma depth_ofOption_le {α : Type} {encode : α → Json} {o : Option α} {n : Nat}
    (h : ∀ a, o = some a → (encode a).depth ≤ n) : (ofOption encode o).depth ≤ n := by
  cases o with
  | none => exact Nat.zero_le n
  | some a => exact h a rfl

lemma limit_of_scalar {d : Draft} (harray : ∀ items, d ≠ .array items)
    (hobject : ∀ members, d ≠ .object members) (levels : Nat) : d.limit levels = d := by
  cases d with
  | array items => exact absurd rfl (harray items)
  | object members => exact absurd rfl (hobject members)
  | _ => cases levels <;> simp [Draft.limit]

end Json

/-! ## Drafts by what a text makes of numbers -/

/-- What a text makes of the numbers that it need not carry as they are. -/
structure Carrier where
  /-- The draft of a whole number. -/
  integer : Int → Draft
  /-- The draft of a 32-bit number. -/
  single : Binary32 → Draft
  /-- A whole number of 64 bits is carried as it is. -/
  integer_toInt : ∀ n : Int64, integer n.toInt = .integer n.toInt
  /-- The draft of a whole number is not a container. -/
  limit_integer : ∀ n levels, (integer n).limit levels = integer n
  /-- The draft of a 32-bit number is not a container. -/
  limit_single : ∀ x levels, (single x).limit levels = single x

namespace Json

section Carried

variable (carrier : Carrier)

mutual

/-- The draft of a value with the numbers that the carrier makes of its numbers. -/
def draftWith : Json → Draft
  | null => .null
  | bool b => .bool b
  | integer n => carrier.integer n
  | float x => if x.isFinite then .float x else .null
  | single x => carrier.single x
  | text s => .text s
  | array items => .array (draftItemsWith items)
  | object members => .object (draftMembersWith members)

/-- The drafts of the items. -/
def draftItemsWith : List Json → Items
  | [] => .closed
  | item :: rest => .item (draftWith item) (draftItemsWith rest)

/-- The drafts of the members. -/
def draftMembersWith : List (String × Json) → Members
  | [] => .closed
  | (key, value) :: rest => .member (some key) (draftWith value) (draftMembersWith rest)

end

mutual

/-- A value that nests no deeper than the limit is not buried. -/
theorem limit_draftWith :
    ∀ (j : Json) (levels : Nat), j.depth ≤ levels →
      (draftWith carrier j).limit levels = draftWith carrier j
  | null, levels, _ => by
    rw [draftWith]
    exact limit_of_scalar (by simp) (by simp) levels
  | bool _, levels, _ => by
    rw [draftWith]
    exact limit_of_scalar (by simp) (by simp) levels
  | integer n, levels, _ => by
    rw [draftWith]
    exact carrier.limit_integer n levels
  | float x, levels, _ => by
    rw [draftWith]
    split <;> exact limit_of_scalar (by simp) (by simp) levels
  | single x, levels, _ => by
    rw [draftWith]
    exact carrier.limit_single x levels
  | text _, levels, _ => by
    rw [draftWith]
    exact limit_of_scalar (by simp) (by simp) levels
  | array items, levels, h => by
    rw [depth] at h
    obtain ⟨levels, rfl⟩ : ∃ n, levels = n + 1 := ⟨levels - 1, by omega⟩
    rw [draftWith, Draft.limit, limit_draftItemsWith items levels (by omega)]
  | object members, levels, h => by
    rw [depth] at h
    obtain ⟨levels, rfl⟩ : ∃ n, levels = n + 1 := ⟨levels - 1, by omega⟩
    rw [draftWith, Draft.limit, limit_draftMembersWith members levels (by omega)]

theorem limit_draftItemsWith :
    ∀ (items : List Json) (levels : Nat), depthOfItems items ≤ levels →
      (draftItemsWith carrier items).limit levels = draftItemsWith carrier items
  | [], _, _ => by rw [draftItemsWith, Items.limit]
  | item :: rest, levels, h => by
    rw [depthOfItems] at h
    rw [draftItemsWith, Items.limit, limit_draftWith item levels (by omega),
      limit_draftItemsWith rest levels (by omega)]

theorem limit_draftMembersWith :
    ∀ (members : List (String × Json)) (levels : Nat), depthOfMembers members ≤ levels →
      (draftMembersWith carrier members).limit levels = draftMembersWith carrier members
  | [], _, _ => by rw [draftMembersWith, Members.limit]
  | (key, value) :: rest, levels, h => by
    rw [depthOfMembers] at h
    rw [draftMembersWith, Members.limit, limit_draftWith value levels (by omega),
      limit_draftMembersWith rest levels (by omega)]

end

end Carried

/-! ## Settling -/

mutual

/-- The draft of a value settles to the value, its 32-bit numbers widened. -/
theorem settle_draft : ∀ j : Json, j.draft.settle = .ok j.widen
  | null => by rw [draft, Draft.settle, widen]
  | bool _ => by rw [draft, Draft.settle, widen]
  | integer _ => by rw [draft, Draft.settle, widen]
  | float x => by
    rw [draft, widen]
    split <;> rw [Draft.settle]
  | single x => by
    rw [draft, widen]
    split <;> rw [Draft.settle]
  | text _ => by rw [draft, Draft.settle, widen]
  | array items => by rw [draft, Draft.settle, settle_draftItems items, ok_bind, widen]
  | object members => by rw [draft, Draft.settle, settle_draftMembers members, ok_bind, widen]

theorem settle_draftItems : ∀ items : List Json,
    (draftItems items).settle = .ok (widenItems items)
  | [] => by rw [draftItems, Items.settle, widenItems]
  | item :: rest => by
    rw [draftItems, Items.settle, settle_draft item, settle_draftItems rest, ok_bind, ok_bind,
      widenItems]

theorem settle_draftMembers : ∀ members : List (String × Json),
    (draftMembers members).settle = .ok (widenMembers members)
  | [] => by rw [draftMembers, Members.settle, widenMembers]
  | (key, value) :: rest => by
    rw [draftMembers, Members.settle, settle_draft value, settle_draftMembers rest, ok_bind,
      ok_bind, widenMembers]

end

end Json

end SearchCriteria
