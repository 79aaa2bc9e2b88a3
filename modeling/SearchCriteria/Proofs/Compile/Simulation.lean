/-
# Two compilations side by side

Two passes over criteria of the same shape that put clauses in the same places differ only in what
their clauses are and in how a chain of sorted clauses ends.  If the own clauses of every node are
related, and related clauses end in related queries, then the results are related: a pass looks at
whose clause it has and at how many there are, never into a clause.

* `Clauses.Rel`, `Visit.Rel` and `Walk.Rel` extend a relation between queries to what a pass
  handles, and `Pass.Agree` says what is asked of the nodes;
* `rel_take` is the step: taking up related visits keeps walks related;
* `rel_foldl_take` is the run over all visits of a chain, and `rel_compiled_of_alike` the whole
  compilation;
* `rel_compiled` is the case of two passes over the same criteria.
-/
import Mathlib.Data.List.Forall2
import Mathlib.Data.Option.Basic
import SearchCriteria.Proofs.Compile.Visits
import SearchCriteria.Proofs.Criteria.Shape

namespace SearchCriteria

open Outcome

lemma optionRel_eq_iff {α : Type} {x y : Option α} : Option.Rel Eq x y ↔ x = y := by
  constructor
  · rintro (h | _)
    · rw [h]
    · rfl
  · rintro rfl
    cases x with
    | some a => exact .some rfl
    | none => exact .none

lemma map_eq_of_rel {α β : Type} {f : α → β} {x : Except CriteriaError (Option α)}
    {y : Except CriteriaError (Option β)}
    (h : Outcome.Rel (Option.Rel fun a b => f a = b) x y) : x.map (Option.map f) = y := by
  cases h with
  | error e => rfl
  | ok h =>
    cases h with
    | none => rfl
    | some h =>
      rw [← h]
      rfl

lemma rel_of_map_eq {α β : Type} {f : α → β} {x : Except CriteriaError (Option α)}
    {y : Except CriteriaError (Option β)} (h : x.map (Option.map f) = y) :
    Outcome.Rel (Option.Rel fun a b => f a = b) x y := by
  rw [← h]
  cases x with
  | error e => exact .error e
  | ok r =>
    cases r with
    | none => exact .ok .none
    | some a => exact .ok (.some rfl)

/-! ## Related clauses -/

lemma eq_nil_iff_of_forall₂ {α β : Type} {R : α → β → Prop} {as : List α} {bs : List β}
    (h : List.Forall₂ R as bs) : as = [] ↔ bs = [] := by
  cases h <;> simp

/-- Sorted clauses are related list by list, in order. -/
structure Clauses.Rel {α β : Type} (R : α → β → Prop) (cs : Clauses α) (ds : Clauses β) :
    Prop where
  must : List.Forall₂ R cs.must ds.must
  should : List.Forall₂ R cs.should ds.should
  mustNot : List.Forall₂ R cs.mustNot ds.mustNot

namespace Clauses.Rel

variable {α β : Type} {R : α → β → Prop} {cs : Clauses α} {ds : Clauses β}

lemma empty : Clauses.Rel R {} {} := ⟨.nil, .nil, .nil⟩

lemma push (h : Clauses.Rel R cs ds) (o : Occur) {a : α} {b : β} (hab : R a b) :
    Clauses.Rel R (cs.push o a) (ds.push o b) := by
  have hlone : List.Forall₂ R [a] [b] := .cons hab .nil
  cases o with
  | must => exact ⟨List.rel_append h.must hlone, h.should, h.mustNot⟩
  | should => exact ⟨h.must, List.rel_append h.should hlone, h.mustNot⟩
  | mustNot => exact ⟨h.must, h.should, List.rel_append h.mustNot hlone⟩

lemma prepend (h : Clauses.Rel R cs ds) (o : Occur) {a : α} {b : β} (hab : R a b) :
    Clauses.Rel R (cs.prepend o a) (ds.prepend o b) := by
  cases o with
  | must => exact ⟨.cons hab h.must, h.should, h.mustNot⟩
  | should => exact ⟨h.must, .cons hab h.should, h.mustNot⟩
  | mustNot => exact ⟨h.must, h.should, .cons hab h.mustNot⟩

lemma count_eq (h : Clauses.Rel R cs ds) : cs.count = ds.count := by
  rw [count, count, h.must.length_eq, h.should.length_eq, h.mustNot.length_eq]

lemma isShouldOnly_eq (h : Clauses.Rel R cs ds) : cs.isShouldOnly = ds.isShouldOnly := by
  rw [Bool.eq_iff_iff, isShouldOnly_iff, isShouldOnly_iff, ne_eq, ne_eq,
    eq_nil_iff_of_forall₂ h.must, eq_nil_iff_of_forall₂ h.should, eq_nil_iff_of_forall₂ h.mustNot]

lemma map_eq {f : α → β} (h : Clauses.Rel (fun a b => f a = b) cs ds) : cs.map f = ds := by
  obtain ⟨must, should, mustNot⟩ := ds
  obtain ⟨hmust, hshould, hmustNot⟩ := h
  rw [← List.forall₂_map_left_iff, List.forall₂_eq_eq_eq] at hmust hshould hmustNot
  exact congr (congr (congrArg _ hmust) hshould) hmustNot

lemma forall_mem_and_eq {p : α → Prop} {cs ds : Clauses α}
    (h : Clauses.Rel (fun a b => p a ∧ a = b) cs ds) : (∀ a ∈ cs.toList, p a) ∧ cs = ds := by
  obtain ⟨must, should, mustNot⟩ := cs
  obtain ⟨must', should', mustNot'⟩ := ds
  obtain ⟨hmust, hshould, hmustNot⟩ := h
  rw [List.forall₂_and_left, List.forall₂_eq_eq_eq] at hmust hshould hmustNot
  simp only at hmust hshould hmustNot
  obtain ⟨hmust, rfl⟩ := hmust
  obtain ⟨hshould, rfl⟩ := hshould
  obtain ⟨hmustNot, rfl⟩ := hmustNot
  exact ⟨List.forall_mem_append.2 ⟨List.forall_mem_append.2 ⟨hmust, hshould⟩, hmustNot⟩, rfl⟩

lemma eq {cs ds : Clauses α} (h : Clauses.Rel Eq cs ds) : cs = ds := by
  obtain ⟨must, should, mustNot⟩ := cs
  obtain ⟨must', should', mustNot'⟩ := ds
  obtain ⟨hmust, hshould, hmustNot⟩ := h
  rw [List.forall₂_eq_eq_eq] at hmust hshould hmustNot
  exact congr (congr (congrArg _ hmust) hshould) hmustNot

end Clauses.Rel

/-- Related clauses end in related queries if the combinations of related clauses are related. -/
lemma Clauses.Rel.collapse_of_bool {R : Query → Query → Prop}
    (hbool : ∀ cs ds, Clauses.Rel R cs ds → R (.bool cs none) (.bool ds none))
    {cs ds : Clauses Query} (h : Clauses.Rel R cs ds) :
    Option.Rel R cs.collapse ds.collapse := by
  have hcombined := hbool cs ds h
  obtain ⟨must, should, mustNot⟩ := cs
  obtain ⟨must', should', mustNot'⟩ := ds
  obtain ⟨hmust, hshould, hmustNot⟩ := h
  -- Both or neither are without clauses, or have a lone one in the same place.
  cases hmust with
  | nil =>
    cases hshould with
    | nil =>
      cases hmustNot with
      | nil => exact .none
      | cons => exact .some hcombined
    | cons hfirst hrest =>
      cases hrest with
      | nil =>
        cases hmustNot with
        | nil => exact .some hfirst
        | cons => exact .some hcombined
      | cons => exact .some hcombined
  | cons hfirst hrest =>
    cases hrest with
    | nil =>
      cases hshould with
      | nil =>
        cases hmustNot with
        | nil => exact .some hfirst
        | cons => exact .some hcombined
      | cons => exact .some hcombined
    | cons => exact .some hcombined

/-! ## Related visits and walks -/

section Passes

variable {R : Query → Query → Prop} {S : Node → Node → Prop}

/-- Visits of two passes are related if their clauses are and go to the same place. -/
structure Visit.Rel (pass pass' : Pass) (R : Query → Query → Prop) (v w : Visit) : Prop where
  isOwn : v.isOwn = w.isOwn
  clause : R v.clause w.clause
  occur : pass.occur v.owner = pass'.occur w.owner
  negating : v.owner.negating = w.owner.negating

/-- Clauses held back for the same sign are related if they themselves are. -/
structure RelHeld (R : Query → Query → Prop) (x y : Query × Bool) : Prop where
  clause : R x.1 y.1
  negating : x.2 = y.2

/-- Walks are related if they hold back related clauses and have taken up related ones. -/
structure Walk.Rel (R : Query → Query → Prop) (walk walk' : Walk) : Prop where
  held : Option.Rel (RelHeld R) walk.held walk'.held
  clauses : Clauses.Rel R walk.clauses walk'.clauses

lemma Walk.Rel.arranged {walk walk' : Walk} (h : Walk.Rel R walk walk') :
    Clauses.Rel R walk.arranged walk'.arranged := by
  obtain ⟨held, cs⟩ := walk
  obtain ⟨held', ds⟩ := walk'
  obtain ⟨hheld, hclauses⟩ := h
  cases hheld with
  | none => exact hclauses
  | some hxy =>
    obtain ⟨hclause, hnegating⟩ := hxy
    simp only [Walk.arranged, Walk.heldOccur, hnegating, hclauses.isShouldOnly_eq]
    exact hclauses.prepend _ hclause

namespace Pass

variable {pass pass' : Pass}

/-- Two passes agree on two nodes if the own clauses are related, and all clauses of the nodes go to
the same places. -/
structure Agree (pass pass' : Pass) (R : Query → Query → Prop) (n m : Node) : Prop where
  own : Outcome.Rel (Option.Rel R) (pass.ownClause n) (pass'.ownClause m)
  occur : pass.occur n = pass'.occur m
  negating : n.negating = m.negating

/-- The visits of nodes on which the passes agree are related if the clauses are. -/
lemma Agree.rel_visits {n m : Node} (h : pass.Agree pass' R n m) {own own' : Option Query}
    {attached attached' : List (Option Query)} (hown : Option.Rel R own own')
    (hattached : List.Forall₂ (Option.Rel R) attached attached') :
    List.Forall₂ (Visit.Rel pass pass' R) (n.visits own attached) (m.visits own' attached') := by
  have hvisit : ∀ (isOwn : Bool) (q q' : Query), R q q' →
      Visit.Rel pass pass' R ⟨n, isOwn, q⟩ ⟨m, isOwn, q'⟩ :=
    fun _ _ _ hq => ⟨rfl, hq, h.occur, h.negating⟩
  refine List.rel_append (List.rel_map (hvisit true) ?_) (List.rel_map (hvisit false) ?_)
  · cases hown with
    | some h => exact .cons h .nil
    | none => exact .nil
  · exact List.rel_filterMap (fun _ _ h => h) hattached

section Arranged

variable (hfirst : pass.holdsFirst = pass'.holdsFirst)

include hfirst

lemma rel_take {walk walk' : Walk} (hwalk : Walk.Rel R walk walk') {v w : Visit}
    (hvisit : Visit.Rel pass pass' R v w) :
    Walk.Rel R (pass.take walk v) (pass'.take walk' w) := by
  obtain ⟨held, cs⟩ := walk
  obtain ⟨held', ds⟩ := walk'
  obtain ⟨hheld, hclauses⟩ := hwalk
  have hnone : held.isNone = held'.isNone := by
    cases hheld <;> rfl
  simp only [take, hvisit.isOwn, hfirst, hnone, hvisit.occur, hvisit.negating]
  by_cases h : (w.isOwn && pass'.holdsFirst && held'.isNone) = true
  · rw [if_pos h, if_pos h]
    exact ⟨.some ⟨hvisit.clause, rfl⟩, hclauses⟩
  · rw [if_neg h, if_neg h]
    exact ⟨hheld, hclauses.push _ hvisit.clause⟩

lemma rel_foldl_take {vs ws : List Visit} (h : List.Forall₂ (Visit.Rel pass pass' R) vs ws)
    {walk walk' : Walk} (hwalk : Walk.Rel R walk walk') :
    Walk.Rel R (vs.foldl pass.take walk) (ws.foldl pass'.take walk') := by
  induction h generalizing walk walk' with
  | nil => exact hwalk
  | cons hvisit _ ih => exact ih (rel_take hfirst hwalk hvisit)

lemma rel_arrange {vs ws : List Visit} (h : List.Forall₂ (Visit.Rel pass pass' R) vs ws) :
    Clauses.Rel R (pass.arrange vs) (pass'.arrange ws) :=
  (rel_foldl_take hfirst h ⟨.none, .empty⟩).arranged

end Arranged

/-! ## Related results -/

variable {finish finish' : Clauses Query → Option Query}

/-- Criteria attached to nodes, given that the results of alike criteria are related. -/
lemma rel_compiledAll {cs ds : List Criteria} (h : List.Forall₂ (Criteria.Alike S) cs ds)
    (ih : ∀ c ∈ cs, ∀ d, c.Alike S d →
      Outcome.Rel (Option.Rel R) (pass.compiled finish c) (pass'.compiled finish' d)) :
    Outcome.Rel (List.Forall₂ (Option.Rel R)) (pass.compiledAll finish cs)
      (pass'.compiledAll finish' ds) := by
  induction h with
  | nil =>
    rw [compiledAll_nil, compiledAll_nil]
    exact .ok .nil
  | @cons c d cs ds hcd _ ihs =>
    obtain ⟨hc, hcs⟩ := List.forall_mem_cons.1 ih
    rw [compiledAll_cons, compiledAll_cons]
    refine (hc d hcd).bind fun first first' hfirst => ?_
    exact (ihs hcs).bind fun others others' hothers => .ok (.cons hfirst hothers)

/-- The visits of alike chains, given that the results of alike criteria attached to their nodes
are related. -/
lemma rel_visits {ns ms : List Node}
    (h : List.Forall₂ (Node.Alike (pass.Agree pass' R)) ns ms)
    (ih : ∀ n ∈ ns, ∀ c ∈ n.subCriteria, ∀ d, c.Alike (pass.Agree pass' R) d →
      Outcome.Rel (Option.Rel R) (pass.compiled finish c) (pass'.compiled finish' d)) :
    Outcome.Rel (List.Forall₂ (Visit.Rel pass pass' R)) (pass.visits finish ns)
      (pass'.visits finish' ms) := by
  induction h with
  | nil =>
    rw [visits_nil, visits_nil]
    exact .ok .nil
  | @cons n m ns ms hnm _ ihs =>
    obtain ⟨hn, hns⟩ := List.forall_mem_cons.1 ih
    obtain ⟨hagree, hsubs⟩ := hnm
    rw [visits_cons, visits_cons]
    refine hagree.own.bind fun own own' hown => ?_
    refine (rel_compiledAll hsubs hn).bind fun attached attached' hattached => ?_
    exact (ihs hns).bind fun later later' hlater =>
      .ok (List.rel_append (hagree.rel_visits hown hattached) hlater)

/-- Two passes over alike criteria, on whose nodes they agree, have related results if related
clauses end in related queries. -/
theorem rel_compiled_of_alike (hfirst : pass.holdsFirst = pass'.holdsFirst)
    (hfinish : ∀ cs ds, Clauses.Rel R cs ds → Option.Rel R (finish cs) (finish' ds))
    {c d : Criteria} (h : c.Alike (pass.Agree pass' R) d) :
    Outcome.Rel (Option.Rel R) (pass.compiled finish c) (pass'.compiled finish' d) := by
  induction c using Criteria.induction generalizing d with
  | step ns ih =>
    obtain ⟨hnodes⟩ := h
    rw [compiled_mk, compiled_mk]
    exact (rel_visits hnodes fun n hn c hc d => ih n hn c hc).bind fun vs ws hvisits =>
      .ok (hfinish _ _ (rel_arrange hfirst hvisits))

lemma agree_of_eq {n m : Node} (hown : pass.ownClause n = pass'.ownClause m)
    (hoccur : pass.occur n = pass'.occur m) (hnegating : n.negating = m.negating) :
    pass.Agree pass' Eq n m :=
  ⟨hown ▸ .refl (fun _ => optionRel_eq_iff.2 rfl) _, hoccur, hnegating⟩

/-- Two passes over alike criteria give the same result if the own clauses of the nodes are the
same. -/
theorem compiled_eq_of_alike (hfirst : pass.holdsFirst = pass'.holdsFirst) {c d : Criteria}
    (h : c.Alike (pass.Agree pass' Eq) d) : pass.compiled finish c = pass'.compiled finish d := by
  have hfinish : ∀ cs ds, Clauses.Rel Eq cs ds → Option.Rel Eq (finish cs) (finish ds) :=
    fun cs ds hcs => optionRel_eq_iff.2 (congrArg finish hcs.eq)
  exact (rel_compiled_of_alike hfirst hfinish h).eq fun _ _ => optionRel_eq_iff.1

/-- Passes agree up to a function on nodes whose clauses go to the same places, if the function
makes the one own clause of the other. -/
lemma agree_of_map_eq {g : Query → Query} {n m : Node}
    (hown : (pass.ownClause n).map (Option.map g) = pass'.ownClause m)
    (hoccur : pass.occur n = pass'.occur m) (hnegating : n.negating = m.negating) :
    pass.Agree pass' (fun q q' => g q = q') n m :=
  ⟨rel_of_map_eq hown, hoccur, hnegating⟩

/-- A function that goes through combinations, and takes the own clauses of one pass to those of
another, takes the results of the one pass to those of the other. -/
theorem compiled_map_of_alike {g : Query → Query}
    (hbool : ∀ cs, g (.bool cs none) = .bool (cs.map g) none)
    (hfirst : pass.holdsFirst = pass'.holdsFirst) {c d : Criteria}
    (h : c.Alike (pass.Agree pass' fun q q' => g q = q') d) :
    pass'.compiled Clauses.collapse d = (pass.compiled Clauses.collapse c).map (Option.map g) := by
  have hfinish : ∀ cs ds : Clauses Query, Clauses.Rel (fun q q' => g q = q') cs ds →
      Option.Rel (fun q q' => g q = q') cs.collapse ds.collapse :=
    fun _ _ => Clauses.Rel.collapse_of_bool fun cs ds hcs => by rw [hbool, hcs.map_eq]
  exact (map_eq_of_rel (rel_compiled_of_alike hfirst hfinish h)).symm

/-- Two passes that put clauses in the same places. -/
structure SamePlaces (pass pass' : Pass) : Prop where
  holdsFirst : pass.holdsFirst = pass'.holdsFirst
  occur : ∀ node, pass.occur node = pass'.occur node

lemma SamePlaces.refl (pass : Pass) : pass.SamePlaces pass := ⟨rfl, fun _ => rfl⟩

/-- Two passes that put clauses in the same places have related results if the own clauses of
every node are related and related clauses end in related queries. -/
theorem rel_compiled (hplaces : pass.SamePlaces pass')
    (hfinish : ∀ cs ds, Clauses.Rel R cs ds → Option.Rel R (finish cs) (finish' ds)) (c : Criteria)
    (hown : ∀ n ∈ c.allNodes,
      Outcome.Rel (Option.Rel R) (pass.ownClause n) (pass'.ownClause n)) :
    Outcome.Rel (Option.Rel R) (pass.compiled finish c) (pass'.compiled finish' c) :=
  rel_compiled_of_alike hplaces.holdsFirst hfinish
    (Criteria.alike_self fun n hn => ⟨hown n hn, hplaces.occur n, rfl⟩)

end Pass

end Passes

end SearchCriteria
