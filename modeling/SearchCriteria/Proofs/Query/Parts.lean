/-
# The parts of a query

The parts of a query are the query itself and the queries that it holds, at every depth.  What is
said of all parts is said of the query and of the parts of whatever it holds.
-/
import Mathlib.Data.List.Basic
import SearchCriteria.Proofs.Compile.Visits

namespace SearchCriteria.Query

open Numeric

/-- Induction over queries: what holds of leaf clauses, of a combination whenever it holds of all
its clauses, and of a nested query whenever it holds of what is nested, holds of every query. -/
theorem induction {P : Query → Prop} (leaf : ∀ l, P (.leaf l))
    (bool : ∀ cs b, (∀ q ∈ cs.toList, P q) → P (.bool cs b))
    (nested : ∀ path q mode, P q → P (.nested path q mode)) (q : Query) : P q := by
  refine @Query.rec P (fun cs => ∀ q ∈ cs.toList, P q) (fun qs => ∀ q ∈ qs, P q)
    ?leaf ?bool ?nested ?clauses ?none ?more q
  case leaf => exact leaf
  case bool => exact bool
  case nested => exact nested
  case clauses =>
    intro must should mustNot hmust hshould hmustNot
    exact List.forall_mem_append.2 ⟨List.forall_mem_append.2 ⟨hmust, hshould⟩, hmustNot⟩
  case none => simp
  case more => exact fun _ _ hq hqs => List.forall_mem_cons.2 ⟨hq, hqs⟩

mutual

/-- The query and the queries that it holds, at every depth. -/
def parts : Query → List Query
  | leaf l => [leaf l]
  | bool ⟨must, should, mustNot⟩ b =>
    bool ⟨must, should, mustNot⟩ b :: (partsOf must ++ partsOf should ++ partsOf mustNot)
  | nested path q mode => nested path q mode :: parts q

/-- The parts of several queries. -/
def partsOf : List Query → List Query
  | [] => []
  | q :: qs => parts q ++ partsOf qs

end

lemma partsOf_eq_flatMap (qs : List Query) : partsOf qs = qs.flatMap parts := by
  induction qs with
  | nil => rw [partsOf, List.flatMap_nil]
  | cons q qs ih => rw [partsOf, ih, List.flatMap_cons]

@[simp] lemma parts_leaf (l : Leaf) : (leaf l).parts = [leaf l] := by
  rw [parts]

@[simp] lemma parts_bool (cs : Clauses Query) (b : Option Binary32) :
    (bool cs b).parts = bool cs b :: cs.toList.flatMap parts := by
  obtain ⟨must, should, mustNot⟩ := cs
  rw [parts, partsOf_eq_flatMap, partsOf_eq_flatMap, partsOf_eq_flatMap, Clauses.toList,
    List.flatMap_append, List.flatMap_append]

@[simp] lemma parts_nested (path : String) (q : Query) (mode : ScoreMode) :
    (nested path q mode).parts = nested path q mode :: q.parts := by
  rw [parts]

variable {P : Query → Prop}

lemma forall_parts_leaf {l : Leaf} : (∀ p ∈ (leaf l).parts, P p) ↔ P (leaf l) := by
  simp

lemma forall_parts_bool {cs : Clauses Query} {b : Option Binary32} :
    (∀ p ∈ (bool cs b).parts, P p) ↔ P (bool cs b) ∧ ∀ q ∈ cs.toList, ∀ p ∈ q.parts, P p := by
  simp only [parts_bool, List.forall_mem_cons, List.forall_mem_flatMap]

lemma forall_parts_nested {path : String} {q : Query} {mode : ScoreMode} :
    (∀ p ∈ (nested path q mode).parts, P p) ↔ P (nested path q mode) ∧ ∀ p ∈ q.parts, P p := by
  simp only [parts_nested, List.forall_mem_cons]

lemma self_mem_parts (q : Query) : q ∈ q.parts := by
  cases q <;> simp

/-- Whether a query is about nested documents. -/
def isNested : Query → Bool
  | nested _ _ _ => true
  | _ => false

/-- A boost changes the query that carries it, and no other part. -/
lemma forall_parts_withBoost {b : Binary32} {q : Query} (h : ∀ p ∈ q.parts, P p)
    (hself : P (q.withBoost b)) : ∀ p ∈ (q.withBoost b).parts, P p := by
  cases q with
  | leaf l => exact forall_parts_leaf.2 hself
  | bool cs boost => exact forall_parts_bool.2 ⟨hself, (forall_parts_bool.1 h).2⟩
  | nested path q mode => exact h

end SearchCriteria.Query
