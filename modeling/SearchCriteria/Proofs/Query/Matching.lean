/-
# What a query matches

The documents that a query matches, given what its leaf clauses match and what a query on nested
documents makes of the query that it holds.  A combination of clauses matches a document if all
clauses that have to match do, none does that may not, and one of the alternatives does unless
there are none or some clause has to match.

Main statement: the query of sorted clauses matches what the clauses match together, whether it
combines them or is a lone clause.
-/
import Mathlib.Data.List.Basic
import SearchCriteria.Proofs.Compile.Reading

namespace SearchCriteria

/-- What leaf clauses and paths of nested documents mean for documents. -/
structure Interpretation (D : Type) where
  /-- The documents that a leaf clause matches. -/
  leaf : Leaf → D → Prop
  /-- The documents that a query on the nested documents under a path matches, by the documents
  that the nested query matches. -/
  nested : String → (D → Prop) → D → Prop

variable {D : Type} (I : Interpretation D)

namespace Query

mutual

/-- The documents that a query matches. -/
def Matches : Query → D → Prop
  | leaf l => I.leaf l
  | bool ⟨must, should, mustNot⟩ _ => fun d =>
    (∀ p ∈ meanings must, p d) ∧ (∀ p ∈ meanings mustNot, ¬p d) ∧
      (must ≠ [] ∨ should = [] ∨ ∃ p ∈ meanings should, p d)
  | nested path q _ => I.nested path (Matches q)

/-- The documents that each of several queries matches. -/
def meanings : List Query → List (D → Prop)
  | [] => []
  | q :: qs => Matches q :: meanings qs

end

lemma meanings_eq_map (qs : List Query) : meanings I qs = qs.map (Matches I) := by
  induction qs with
  | nil => rw [meanings, List.map_nil]
  | cons q qs ih => rw [meanings, ih, List.map_cons]

end Query

namespace Clauses

/-- A document matches sorted clauses. -/
def Match (cs : Clauses Query) (d : D) : Prop :=
  (∀ q ∈ cs.must, q.Matches I d) ∧ (∀ q ∈ cs.mustNot, ¬q.Matches I d) ∧
    (cs.must ≠ [] ∨ cs.should = [] ∨ ∃ q ∈ cs.should, q.Matches I d)

end Clauses

@[simp] lemma Query.matches_leaf (l : Leaf) : (Query.leaf l).Matches I = I.leaf l := by
  rw [Matches]

@[simp] lemma Query.matches_nested (path : String) (q : Query) (mode : ScoreMode) :
    (Query.nested path q mode).Matches I = I.nested path (q.Matches I) := by
  rw [Matches]

@[simp] lemma Query.matches_bool (cs : Clauses Query) (boost : Option Numeric.Binary32) :
    (Query.bool cs boost).Matches I = cs.Match I := by
  obtain ⟨must, should, mustNot⟩ := cs
  funext d
  rw [Matches]
  simp [Clauses.Match, meanings_eq_map]

namespace Clauses

lemma match_of_must (q : Query) : Match I { must := [q] } = q.Matches I := by
  funext d
  simp [Match]

lemma match_of_should (q : Query) : Match I { should := [q] } = q.Matches I := by
  funext d
  simp [Match]

/-- Clauses without alternatives are met by meeting each of them. -/
lemma match_of_should_nil {cs : Clauses Query} (h : cs.should = []) (d : D) :
    cs.Match I d ↔ (∀ q ∈ cs.must, q.Matches I d) ∧ ∀ q ∈ cs.mustNot, ¬q.Matches I d := by
  simp [Match, h]

/-- Alternatives alone are met by meeting one of them, unless there are none. -/
lemma match_of_only_should {qs : List Query} (h : qs ≠ []) (d : D) :
    Match I { should := qs } d ↔ ∃ q ∈ qs, q.Matches I d := by
  simp [Match, h]

/-- Clauses that are joined are met by meeting each of them. -/
lemma matches_join {qs : List Query} (h : qs ≠ []) (d : D) :
    (Pass.join qs).Matches I d ↔ ∀ q ∈ qs, q.Matches I d := by
  match qs, h with
  | [q], _ => simp [Pass.join]
  | q :: q' :: rest, _ =>
    rw [Pass.join, Query.matches_bool, match_of_should_nil I rfl]
    exact and_iff_left nofun
    · simp

/-- The query of sorted clauses matches what the clauses match together. -/
theorem map_matches_outcome (cs : Clauses Query) :
    cs.outcome.map (Query.Matches I) = if cs.count = 0 then none else some (cs.Match I) := by
  rw [outcome]
  by_cases hnone : cs.count = 0
  · rw [if_pos hnone, if_pos hnone, Option.map_none]
  · rw [if_neg hnone, if_neg hnone]
    by_cases hlone : cs.count = 1 ∧ cs.mustNot = []
    · rw [if_pos hlone]
      obtain ⟨q, rfl⟩ | ⟨q, rfl⟩ := eq_of_lone hlone.1 hlone.2
      · simp [match_of_must]
      · simp [match_of_should]
    · rw [if_neg hlone, Option.map_some, Query.matches_bool]

end Clauses

end SearchCriteria
