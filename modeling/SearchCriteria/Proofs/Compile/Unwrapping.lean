/-
# Unwrapping lone clauses

The clauses of a chain end in a combination, but a lone clause that has to match, or that may, ends
as it is.  A *plain* compilation knows no such exception: it combines the clauses of every chain,
at every depth.  Both are `Pass.compiled`, which leaves the last step open; with `Clauses.collapse`
it is the compilation, with `Clauses.combined` the plain one.

Main statement: the compilation and the plain one fail alike, agree on whether there is a query,
and their queries match the same documents, whatever leaf clauses and nested queries mean.  A lone
clause among those that may not match is the one that has to keep its combination.
-/
import SearchCriteria.Proofs.Compile.Simulation
import SearchCriteria.Proofs.Query.Matching

namespace SearchCriteria

open Outcome

/-- The combination of sorted clauses, also of a lone one; there is none without clauses. -/
def Clauses.combined (cs : Clauses Query) : Option Query :=
  if cs.count = 0 then none else some (.bool cs none)

section Documents

variable {D : Type} (I : Interpretation D)

/-- Two queries match the same documents. -/
def SameDocuments (q q' : Query) : Prop :=
  ∀ d, q.Matches I d ↔ q'.Matches I d

variable {I}

lemma meanings_congr {qs qs' : List Query} (h : List.Forall₂ (SameDocuments I) qs qs') :
    Query.meanings I qs = Query.meanings I qs' := by
  induction h with
  | nil => rfl
  | @cons q q' qs qs' hq _ ih =>
    have hmatches : q.Matches I = q'.Matches I := funext fun d => propext (hq d)
    rw [Query.meanings, Query.meanings, hmatches, ih]

/-- Clauses that match the same documents one by one match the same documents together: a
combination looks at the documents of each clause, and at whether there are clauses. -/
lemma Clauses.Rel.match_eq {cs ds : Clauses Query} (h : Clauses.Rel (SameDocuments I) cs ds) :
    cs.Match I = ds.Match I := by
  rw [← Query.matches_bool I cs none, ← Query.matches_bool I ds none]
  obtain ⟨must, should, mustNot⟩ := cs
  obtain ⟨must', should', mustNot'⟩ := ds
  obtain ⟨hmust, hshould, hmustNot⟩ := h
  rw [Query.Matches, Query.Matches, meanings_congr hmust, meanings_congr hshould,
    meanings_congr hmustNot, ne_eq, ne_eq, eq_nil_iff_of_forall₂ hmust,
    eq_nil_iff_of_forall₂ hshould]

/-- Of clauses that match the same documents, the query that may be a lone clause and the one that
always combines them match the same documents. -/
lemma Clauses.Rel.collapse {cs ds : Clauses Query} (h : Clauses.Rel (SameDocuments I) cs ds) :
    Option.Rel (SameDocuments I) cs.collapse ds.combined := by
  have hmap : cs.collapse.map (Query.Matches I) = ds.combined.map (Query.Matches I) := by
    rw [collapse_eq_outcome, map_matches_outcome, combined, h.count_eq, h.match_eq]
    split
    · rfl
    · rw [Option.map_some, Query.matches_bool]
  cases hc : cs.collapse with
  | none =>
    rw [hc, Option.map_none, eq_comm, Option.map_eq_none_iff] at hmap
    rw [hmap]
    exact .none
  | some q =>
    rw [hc, Option.map_some, eq_comm, Option.map_eq_some_iff] at hmap
    obtain ⟨q', hq', hmatches⟩ := hmap
    rw [hq']
    exact .some fun d => by rw [hmatches]

/-- Whether lone clauses keep their combination makes no difference to what a pass fails on, to
whether it has a result, and to the documents that the result matches. -/
theorem Pass.compiled_combined (pass : Pass) (c : Criteria) :
    Outcome.Rel (Option.Rel (SameDocuments I)) (pass.compiled Clauses.collapse c)
      (pass.compiled Clauses.combined c) := by
  refine rel_compiled (.refl pass) (fun _ _ h => h.collapse) c fun node _ => ?_
  -- The own clauses are the same.
  cases pass.ownClause node with
  | error e => exact .error e
  | ok own =>
    cases own with
    | none => exact .ok .none
    | some q => exact .ok (.some fun d => Iff.rfl)

end Documents

/-- For both targets, the compilation and the plain one, which differ in the last step of a chain
only, fail with the same error or both succeed.  Either both have a query or neither has, and the
two queries match the same documents, whatever leaf clauses and nested queries mean. -/
theorem Criteria.compile_sameDocuments (config : Config) (c : Criteria) :
    ((c.compileQuery config).result = (Pass.query config).compiled Clauses.collapse c ∧
      (c.compileFilter config).result = (Pass.filter config).compiled Clauses.collapse c) ∧
    ∀ (D : Type) (I : Interpretation D),
      Outcome.Rel (Option.Rel (SameDocuments I)) (c.compileQuery config).result
          ((Pass.query config).compiled Clauses.combined c) ∧
        Outcome.Rel (Option.Rel (SameDocuments I)) (c.compileFilter config).result
          ((Pass.filter config).compiled Clauses.combined c) := by
  rw [compileQuery, compileFilter, Compile.result_run, Compile.result_run]
  exact ⟨⟨rfl, rfl⟩, fun D I => ⟨Pass.compiled_combined _ c, Pass.compiled_combined _ c⟩⟩

end SearchCriteria
