/-
# Compilation as visiting and arranging

A pass over a chain does two things at once: it compiles entries, which may fail, and it puts the
clauses that come of them in their places, which may not.  This file takes the two apart.  The
*visits* of a chain are its clauses in the order in which they are met, each with the node that it
belongs to; they are all that a pass asks of the criteria.  What the pass makes of the visits is a
fold over them.

* `Pass.visits` collects the visits of a chain, and fails as the pass fails;
* `Pass.take` puts one clause in its place, `Pass.arrange` puts all of them;
* `result_chain`: compiling a chain is collecting its visits and arranging them.

The last step of a compilation, which makes one query of the arranged clauses, is a parameter
here.
-/
import SearchCriteria.Compile.Chain
import SearchCriteria.Proofs.Criteria.Tree
import SearchCriteria.Proofs.Outcome

namespace SearchCriteria

open Outcome

/-- A clause of a chain as a pass meets it. -/
structure Visit where
  /-- The node that the clause belongs to. -/
  owner : Node
  /-- Whether the clause comes from the node's entries, and not from criteria attached to it. -/
  isOwn : Bool
  /-- The clause. -/
  clause : Query

/-- The visits of a node: its own clause, and then the clauses of the criteria attached to it. -/
def Node.visits (node : Node) (own : Option Query) (attached : List (Option Query)) :
    List Visit :=
  own.toList.map (⟨node, true, ·⟩) ++ (attached.filterMap id).map (⟨node, false, ·⟩)

namespace Clauses

variable {α : Type}

/-- All clauses, list by list. -/
def toList (cs : Clauses α) : List α :=
  cs.must ++ cs.should ++ cs.mustNot

/-- Sorted clauses with a function taken over each. -/
def map {β : Type} (f : α → β) (cs : Clauses α) : Clauses β where
  must := cs.must.map f
  should := cs.should.map f
  mustNot := cs.mustNot.map f

lemma map_eq_self {f : α → α} {cs : Clauses α} (h : ∀ a ∈ cs.toList, f a = a) : cs.map f = cs := by
  obtain ⟨must, should, mustNot⟩ := cs
  simp only [toList, List.forall_mem_append] at h
  rw [map, List.map_congr_left h.1.1, List.map_congr_left h.1.2, List.map_congr_left h.2,
    List.map_id', List.map_id', List.map_id']

lemma length_toList (cs : Clauses α) : cs.toList.length = cs.count := by
  simp [toList, count, Nat.add_assoc]

lemma isShouldOnly_iff (cs : Clauses α) :
    cs.isShouldOnly = true ↔ cs.should ≠ [] ∧ cs.must = [] ∧ cs.mustNot = [] := by
  simp only [isShouldOnly, Bool.and_eq_true, Bool.not_eq_true', List.isEmpty_eq_false_iff,
    List.isEmpty_iff]
  rw [and_right_comm, and_assoc]

lemma perm_toList_push (cs : Clauses α) (o : Occur) (a : α) :
    (cs.push o a).toList.Perm (a :: cs.toList) := by
  obtain ⟨must, should, mustNot⟩ := cs
  cases o <;> simp only [push, toList, List.append_assoc]
  · exact List.perm_middle
  · rw [List.singleton_append, ← List.append_assoc, ← List.append_assoc]
    exact List.perm_middle
  · rw [← List.append_assoc, ← List.append_assoc, ← List.append_assoc]
    exact List.perm_append_singleton a _

lemma perm_toList_prepend (cs : Clauses α) (o : Occur) (a : α) :
    (cs.prepend o a).toList.Perm (a :: cs.toList) := by
  obtain ⟨must, should, mustNot⟩ := cs
  cases o <;> simp only [prepend, toList]
  · exact .refl _
  · rw [List.append_assoc, List.append_assoc]
    exact List.perm_middle
  · exact List.perm_middle

end Clauses

namespace Walk

/-- The arranged clauses, the one that was held back among them. -/
def arranged (walk : Walk) : Clauses Query :=
  match walk.held with
  | none => walk.clauses
  | some (clause, negating) => walk.clauses.prepend (walk.heldOccur negating) clause

lemma perm_arranged (walk : Walk) :
    walk.arranged.toList.Perm ((walk.held.map (·.1)).toList ++ walk.clauses.toList) := by
  obtain ⟨held, clauses⟩ := walk
  cases held with
  | none => exact .refl _
  | some held => exact Clauses.perm_toList_prepend _ _ _

lemma result_route (walk : Walk) (occur : Occur) (clause : Query) :
    (walk.route occur clause).result =
      .ok { walk with clauses := walk.clauses.push occur clause } := by
  rw [route, Run.result_bind]
  simp

lemma result_close (walk : Walk) : walk.close.result = .ok walk.arranged := by
  obtain ⟨held, clauses⟩ := walk
  cases held with
  | none => simp [close, arranged]
  | some held =>
    obtain ⟨clause, negating⟩ := held
    simp only [close, arranged, Run.result_bind, Run.result_tell, ok_bind, Run.result_pure]

end Walk

namespace Pass

variable (pass : Pass)

/-- Puts the clause of a visit in its place. -/
def take (walk : Walk) (visit : Visit) : Walk :=
  if visit.isOwn && pass.holdsFirst && walk.held.isNone then
    { walk with held := some (visit.clause, visit.owner.negating) }
  else { walk with clauses := walk.clauses.push (pass.occur visit.owner) visit.clause }

/-- The clauses of visits in their places. -/
def arrange (visits : List Visit) : Clauses Query :=
  (visits.foldl pass.take {}).arranged

/-- Putting a clause in its place adds that clause, also where it is held back. -/
lemma perm_arranged_take (walk : Walk) (visit : Visit) :
    (pass.take walk visit).arranged.toList.Perm (visit.clause :: walk.arranged.toList) := by
  unfold take
  split
  case isTrue h =>
    have hnone : walk.held = none := by simp_all
    refine (Walk.perm_arranged _).trans (List.Perm.cons _ ?_)
    rw [Walk.arranged, hnone]
    rfl
  case isFalse =>
    refine (Walk.perm_arranged _).trans ?_
    refine (List.Perm.append_left _ (Clauses.perm_toList_push _ _ _)).trans ?_
    exact List.perm_middle.trans (List.Perm.cons _ (Walk.perm_arranged walk).symm)

/-- No clause is lost, and none is doubled. -/
lemma perm_arrange (visits : List Visit) :
    (pass.arrange visits).toList.Perm (visits.map (·.clause)) := by
  have hfold : ∀ walk : Walk, (visits.foldl pass.take walk).arranged.toList.Perm
      (visits.map (·.clause) ++ walk.arranged.toList) := by
    induction visits with
    | nil => exact fun walk => .refl _
    | cons v vs ih =>
      intro walk
      have hv := (pass.perm_arranged_take walk v).append_left (vs.map (·.clause))
      exact ((ih _).trans hv).trans List.perm_middle
  -- Nothing is held back, and there are no clauses, at the start.
  have hempty : ({} : Walk).arranged.toList = [] := rfl
  have hstart := hfold {}
  rwa [hempty, List.append_nil] at hstart

lemma count_arrange (visits : List Visit) : (pass.arrange visits).count = visits.length := by
  rw [← Clauses.length_toList, (pass.perm_arrange visits).length_eq, List.length_map]

variable (finish : Clauses Query → Option Query)

mutual

/-- What a chain is compiled into, if `finish` makes the query of the arranged clauses. -/
def compiled : Criteria → Except CriteriaError (Option Query)
  | ⟨chain⟩ => do
    let visits ← visits chain
    .ok (finish (pass.arrange visits))

/-- The clauses of the nodes of a chain in the order in which they are met. -/
def visits : List Node → Except CriteriaError (List Visit)
  | [] => .ok []
  | ⟨field, conjunction, negating, boost, queryEntries, filterEntries, subs⟩ :: rest => do
    let node : Node :=
      ⟨field, conjunction, negating, boost, queryEntries, filterEntries, subs⟩
    let own ← pass.ownClause node
    let attached ← compiledAll subs
    let later ← visits rest
    .ok (node.visits own attached ++ later)

/-- What several chains are compiled into. -/
def compiledAll : List Criteria → Except CriteriaError (List (Option Query))
  | [] => .ok []
  | criteria :: rest => do
    let first ← compiled criteria
    let others ← compiledAll rest
    .ok (first :: others)

end

lemma compiled_mk (chain : List Node) :
    pass.compiled finish ⟨chain⟩ =
      pass.visits finish chain >>= fun visits => .ok (finish (pass.arrange visits)) := by
  rw [compiled]

@[simp] lemma visits_nil : pass.visits finish [] = .ok [] := by
  rw [visits]

lemma visits_cons (node : Node) (rest : List Node) :
    pass.visits finish (node :: rest) = (do
      let own ← pass.ownClause node
      let attached ← pass.compiledAll finish node.subCriteria
      let later ← pass.visits finish rest
      .ok (node.visits own attached ++ later)) := by
  cases node
  rw [visits]

@[simp] lemma compiledAll_nil : pass.compiledAll finish [] = .ok [] := by
  rw [compiledAll]

lemma compiledAll_cons (criteria : Criteria) (rest : List Criteria) :
    pass.compiledAll finish (criteria :: rest) = (do
      let first ← pass.compiled finish criteria
      let others ← pass.compiledAll finish rest
      .ok (first :: others)) := by
  rw [compiledAll]

end Pass

namespace Compile

variable (pass : Pass)

lemma nodes_cons (node : Node) (rest : List Node) (walk : Walk) :
    nodes pass (node :: rest) walk = (do
      let own ← Run.of (pass.ownClause node)
      let walk ← walk.addOwn pass node own
      let walk ← subCriteria pass (pass.occur node) node.subCriteria walk
      nodes pass rest walk) := by
  cases node
  rw [nodes]

/-- A node's own clause is put in its place as a visit. -/
lemma result_addOwn (node : Node) (walk : Walk) (own : Option Query) :
    (walk.addOwn pass node own).result =
      .ok ((own.toList.map (⟨node, true, ·⟩ : Query → Visit)).foldl pass.take walk) := by
  cases own with
  | none => simp [Walk.addOwn]
  | some clause =>
    by_cases h : (pass.holdsFirst && walk.held.isNone) = true
    · simp [Walk.addOwn, Pass.take, h]
    · simp [Walk.addOwn, Pass.take, h, Walk.result_route]

lemma result_addSub (node : Node) (walk : Walk) (sub : Option Query) :
    (walk.addSub (pass.occur node) sub).result =
      .ok ((sub.toList.map (⟨node, false, ·⟩ : Query → Visit)).foldl pass.take walk) := by
  cases sub with
  | none => simp [Walk.addSub]
  | some clause => simp [Walk.addSub, Pass.take, Walk.result_route]

/-- The criteria attached to a node, given that each of them is compiled as `compiled` says. -/
lemma result_subCriteria (node : Node) (cs : List Criteria) (walk : Walk)
    (ih : ∀ c ∈ cs, (chain pass c).result = pass.compiled Clauses.collapse c) :
    (subCriteria pass (pass.occur node) cs walk).result =
      pass.compiledAll Clauses.collapse cs >>= fun attached =>
        .ok (((attached.filterMap id).map (⟨node, false, ·⟩ : Query → Visit)).foldl
          pass.take walk) := by
  induction cs generalizing walk with
  | nil => simp [subCriteria]
  | cons c cs ihs =>
    obtain ⟨hc, hcs⟩ := List.forall_mem_cons.1 ih
    rw [subCriteria, Run.result_bind, hc, Pass.compiledAll_cons]
    cases pass.compiled Clauses.collapse c with
    | error e => simp
    | ok sub =>
      simp only [ok_bind, Run.result_bind, result_addSub, ihs _ hcs]
      cases pass.compiledAll Clauses.collapse cs with
      | error e => simp
      | ok others => cases sub <;> simp

/-- The nodes of a chain, given that all criteria attached to them are compiled as `compiled`
says: walking over them takes up their visits one by one. -/
lemma result_nodes (ns : List Node) (walk : Walk)
    (ih : ∀ n ∈ ns, ∀ c ∈ n.subCriteria,
      (chain pass c).result = pass.compiled Clauses.collapse c) :
    (nodes pass ns walk).result =
      pass.visits Clauses.collapse ns >>= fun visits => .ok (visits.foldl pass.take walk) := by
  induction ns generalizing walk with
  | nil => simp [nodes]
  | cons n ns ihs =>
    obtain ⟨hn, hns⟩ := List.forall_mem_cons.1 ih
    rw [nodes_cons, Run.result_bind, Run.result_of, Pass.visits_cons]
    cases pass.ownClause n with
    | error e => simp
    | ok own =>
      simp only [ok_bind, Run.result_bind, result_addOwn, result_subCriteria pass n _ _ hn]
      cases pass.compiledAll Clauses.collapse n.subCriteria with
      | error e => simp
      | ok attached =>
        simp only [ok_bind, ihs _ hns]
        cases pass.visits Clauses.collapse ns with
        | error e => simp
        | ok later => simp [Node.visits, List.foldl_append]

/-- Compiling a chain is collecting its visits and arranging them. -/
theorem result_chain (c : Criteria) :
    (chain pass c).result = pass.compiled Clauses.collapse c := by
  induction c using Criteria.induction with
  | step ns ih =>
    rw [chain, Run.result_bind, result_nodes pass ns {} ih, Pass.compiled_mk]
    cases pass.visits Clauses.collapse ns with
    | error e => simp
    | ok visits => simp [Run.result_bind, Walk.result_close, Pass.arrange]

/-- Telling of the start and the end of a compilation does not change its result. -/
lemma result_run (c : Criteria) : (run pass c).result = pass.compiled Clauses.collapse c := by
  rw [run, Run.result_bind, Run.result_tell, ok_bind, Run.result_bind, result_chain]
  cases pass.compiled Clauses.collapse c with
  | error e => simp
  | ok r => simp [Run.result_bind]

end Compile

end SearchCriteria
