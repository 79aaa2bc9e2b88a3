/-
# What nodes contribute to a result

Clauses are arranged, put together and unwrapped on the way from the nodes to the result, and none
of them gets lost or comes twice.  So whatever is collected from a result, if collecting it from a
combination is collecting it from the clauses of the combination, has been collected from the own
clauses of the nodes.

* `flatMap_collapse`: collecting from the query of sorted clauses;
* `perm_visits` is the step over the nodes of a chain, and `perm_compiled` the whole compilation.
-/
import SearchCriteria.Proofs.Compile.Reading

namespace SearchCriteria

open Outcome

section Collect

variable {β : Type} {f : Query → List β} (hbool : ∀ cs, f (.bool cs none) = cs.toList.flatMap f)

include hbool

/-- Collecting from the query of sorted clauses is collecting from the clauses. -/
lemma Clauses.flatMap_collapse (cs : Clauses Query) :
    cs.collapse.toList.flatMap f = cs.toList.flatMap f := by
  unfold collapse
  split
  · rfl
  · simp [toList]
  · simp [toList]
  · simp [hbool]

namespace Pass

variable {pass : Pass} {g : Node → List β}

omit hbool in
lemma flatMap_nodeVisits (n : Node) (own : Option Query) (attached : List (Option Query)) :
    (n.visits own attached).flatMap (fun v => f v.clause) =
      own.toList.flatMap f ++ attached.flatMap fun r => r.toList.flatMap f := by
  have hattached : (attached.filterMap id).flatMap f =
      attached.flatMap fun r => r.toList.flatMap f := by
    induction attached with
    | nil => rfl
    | cons r rs ih =>
      cases r with
      | none => exact ih
      | some q =>
        have hlone : (some q).toList.flatMap f = f q := List.flatMap_singleton f q
        rw [List.flatMap_cons, hlone, ← ih]
        rfl
  simp only [Node.visits, List.flatMap_append, List.flatMap_map, hattached]

omit hbool in
/-- Criteria attached to a node, given that the nodes of each of them contribute to its result what
is collected there. -/
lemma perm_compiledAll {cs : List Criteria}
    (ih : ∀ c ∈ cs, ∀ r, pass.compiled Clauses.collapse c = .ok r →
      (r.toList.flatMap f).Perm (c.allNodes.flatMap g))
    {rs : List (Option Query)} (h : pass.compiledAll Clauses.collapse cs = .ok rs) :
    (rs.flatMap fun r => r.toList.flatMap f).Perm ((Criteria.allNodesIn cs).flatMap g) := by
  induction cs generalizing rs with
  | nil =>
    rw [compiledAll_nil] at h
    obtain rfl := Except.ok.inj h
    simp
  | cons c cs ihs =>
    obtain ⟨hc, hcs⟩ := List.forall_mem_cons.1 ih
    rw [compiledAll_cons] at h
    obtain ⟨r, hr, h⟩ := bind_eq_ok_iff.1 h
    obtain ⟨rest, hrest, h⟩ := bind_eq_ok_iff.1 h
    obtain rfl := Except.ok.inj h
    rw [List.flatMap_cons, Criteria.allNodesIn_cons, List.flatMap_append]
    exact (hc r hr).append (ihs hcs hrest)

omit hbool in
/-- The visits of a chain, given that the nodes of all criteria attached to its nodes contribute to
their results what is collected there. -/
lemma perm_visits {ns : List Node}
    (hown : ∀ n ∈ ns, ∀ own, pass.ownClause n = .ok own → own.toList.flatMap f = g n)
    (ih : ∀ n ∈ ns, ∀ c ∈ n.subCriteria, ∀ r, pass.compiled Clauses.collapse c = .ok r →
      (r.toList.flatMap f).Perm (c.allNodes.flatMap g))
    {vs : List Visit} (h : pass.visits Clauses.collapse ns = .ok vs) :
    (vs.flatMap fun v => f v.clause).Perm ((Criteria.allNodesOf ns).flatMap g) := by
  induction ns generalizing vs with
  | nil =>
    rw [visits_nil] at h
    obtain rfl := Except.ok.inj h
    simp
  | cons n ns ihs =>
    obtain ⟨hn, hns⟩ := List.forall_mem_cons.1 ih
    obtain ⟨hfirst, hlater⟩ := List.forall_mem_cons.1 hown
    rw [visits_cons] at h
    obtain ⟨own, hownClause, h⟩ := bind_eq_ok_iff.1 h
    obtain ⟨attached, hattached, h⟩ := bind_eq_ok_iff.1 h
    obtain ⟨later, hrest, h⟩ := bind_eq_ok_iff.1 h
    obtain rfl := Except.ok.inj h
    rw [List.flatMap_append, flatMap_nodeVisits, hfirst own hownClause, Criteria.allNodesOf_cons,
      List.flatMap_cons, List.flatMap_append, List.append_assoc]
    exact .append_left _ ((perm_compiledAll hn hattached).append (ihs hlater hns hrest))

/-- What is collected from a result is what the own clauses of all nodes contribute. -/
theorem perm_compiled {c : Criteria} {r : Option Query}
    (h : pass.compiled Clauses.collapse c = .ok r)
    (hown : ∀ n ∈ c.allNodes, ∀ own, pass.ownClause n = .ok own → own.toList.flatMap f = g n) :
    (r.toList.flatMap f).Perm (c.allNodes.flatMap g) := by
  induction c using Criteria.induction generalizing r with
  | step ns ih =>
    rw [Criteria.forall_allNodes] at hown
    rw [compiled_mk] at h
    obtain ⟨vs, hvs, h⟩ := bind_eq_ok_iff.1 h
    obtain rfl := Except.ok.inj h
    have hvisits := perm_visits (fun n hn => (hown n hn).1)
      (fun n hn c hc r hr => ih n hn c hc hr ((hown n hn).2 c hc)) hvs
    have harrange := (pass.perm_arrange vs).flatMap_right f
    rw [List.flatMap_map] at harrange
    rw [Clauses.flatMap_collapse hbool, Criteria.allNodes_mk]
    exact harrange.trans hvisits

end Pass

end Collect

end SearchCriteria
