/-
# Criteria that compile to nothing

A compilation that succeeds may answer that there is nothing to match, and then everything matches.
This happens only to criteria whose nodes carry no entry of the kind that is compiled, at any depth:
a clause that has been made of an entry gets lost neither where clauses are joined nor where the
clauses of a chain end in a query.

* `visits_eq_nil_iff`: a chain has no visits if its nodes have no entries and nothing comes of the
  criteria attached to them;
* `compiled_eq_none_iff`: so there is no query if no node at any depth has an entry.

Main statement: both compilations answer nothing exactly for criteria without entries of their kind,
and criteria are empty exactly if nothing comes of them at all.
-/
import SearchCriteria.Proofs.Compile.Reading

namespace SearchCriteria

open Outcome

/-- Sorted clauses end in no query only if there are none. -/
lemma Clauses.collapse_eq_none_iff (cs : Clauses Query) : cs.collapse = none ↔ cs.count = 0 := by
  rw [collapse_eq_outcome, outcome]
  split_ifs with hnone hlone
  · simp [hnone]
  · obtain ⟨q, rfl⟩ | ⟨q, rfl⟩ := eq_of_lone hlone.1 hlone.2 <;> simp [count]
  · simp [hnone]

lemma Node.visits_eq_nil_iff {node : Node} {own : Option Query} {attached : List (Option Query)} :
    node.visits own attached = [] ↔ own = none ∧ ∀ a ∈ attached, a = none := by
  simp [visits]

namespace Pass

variable (pass : Pass)

/-- A node without entries has no clause of its own, and only such a node. -/
lemma ownClause_eq_none_iff (node : Node) :
    pass.ownClause node = .ok none ↔ pass.entries node = [] := by
  rw [ownClause]
  cases pass.entries node with
  | nil => simp
  | cons first rest =>
    cases node.field with
    | none => simp
    | some field => simp [bind_eq_ok_iff]

variable (finish : Clauses Query → Option Query)

lemma compiledAll_eq_none_iff (cs : List Criteria) :
    (∃ rs, pass.compiledAll finish cs = .ok rs ∧ ∀ r ∈ rs, r = none) ↔
      ∀ c ∈ cs, pass.compiled finish c = .ok none := by
  induction cs with
  | nil => simp
  | cons c cs ih =>
    rw [List.forall_mem_cons, ← ih, compiledAll_cons]
    constructor
    · rintro ⟨rs, hrs, hnone⟩
      obtain ⟨first, hfirst, hrs⟩ := bind_eq_ok_iff.1 hrs
      obtain ⟨others, hothers, hrs⟩ := bind_eq_ok_iff.1 hrs
      rw [← Except.ok.inj hrs, List.forall_mem_cons] at hnone
      obtain ⟨rfl, hnone⟩ := hnone
      exact ⟨hfirst, others, hothers, hnone⟩
    · rintro ⟨hfirst, others, hothers, hnone⟩
      exact ⟨none :: others, by rw [hfirst, ok_bind, hothers, ok_bind],
        List.forall_mem_cons.2 ⟨rfl, hnone⟩⟩

/-- A chain has no visits if no node has entries and nothing comes of what is attached to them. -/
lemma visits_eq_nil_iff (ns : List Node) :
    pass.visits finish ns = .ok [] ↔
      ∀ n ∈ ns, pass.entries n = [] ∧ ∀ c ∈ n.subCriteria, pass.compiled finish c = .ok none := by
  induction ns with
  | nil => simp
  | cons n ns ih =>
    rw [List.forall_mem_cons, ← ih, ← ownClause_eq_none_iff, ← compiledAll_eq_none_iff, visits_cons]
    constructor
    · intro h
      obtain ⟨own, hown, h⟩ := bind_eq_ok_iff.1 h
      obtain ⟨attached, hattached, h⟩ := bind_eq_ok_iff.1 h
      obtain ⟨later, hlater, h⟩ := bind_eq_ok_iff.1 h
      obtain ⟨hvisits, rfl⟩ := List.append_eq_nil_iff.1 (Except.ok.inj h)
      obtain ⟨rfl, hnone⟩ := Node.visits_eq_nil_iff.1 hvisits
      exact ⟨⟨hown, attached, hattached, hnone⟩, hlater⟩
    · rintro ⟨⟨hown, attached, hattached, hnone⟩, hlater⟩
      rw [hown, ok_bind, hattached, ok_bind, hlater, ok_bind,
        Node.visits_eq_nil_iff.2 ⟨rfl, hnone⟩, List.append_nil]

/-- Nothing comes of criteria if and only if no node carries an entry, at any depth. -/
theorem compiled_eq_none_iff (hfinish : ∀ cs, finish cs = none ↔ cs.count = 0) (c : Criteria) :
    pass.compiled finish c = .ok none ↔ ∀ n ∈ c.allNodes, pass.entries n = [] := by
  induction c using Criteria.induction with
  | step ns ih =>
    -- No clause is lost between the visits and the query.
    have hvisits : pass.compiled finish ⟨ns⟩ = .ok none ↔ pass.visits finish ns = .ok [] := by
      rw [compiled_mk, bind_eq_ok_iff]
      constructor
      · rintro ⟨vs, hvs, hnone⟩
        rw [Except.ok.injEq, hfinish, count_arrange, List.length_eq_zero_iff] at hnone
        rw [hvs, hnone]
      · intro hvs
        refine ⟨[], hvs, ?_⟩
        rw [Except.ok.injEq, hfinish, count_arrange, List.length_nil]
    rw [hvisits, visits_eq_nil_iff, Criteria.forall_allNodes]
    exact forall₂_congr fun n hn => and_congr_right fun _ => forall₂_congr fun c hc => ih n hn c hc

end Pass

namespace Criteria

lemma nodesEmpty_cons (node : Node) (rest : List Node) :
    nodesEmpty (node :: rest) = (node.queryEntries.isEmpty && node.filterEntries.isEmpty &&
      allEmpty node.subCriteria && nodesEmpty rest) := by
  cases node
  rw [nodesEmpty]

lemma allEmpty_iff (cs : List Criteria) :
    allEmpty cs = true ↔ ∀ c ∈ cs, c.isEmpty = true := by
  induction cs with
  | nil => simp [allEmpty]
  | cons c cs ih => simp [allEmpty, ih]

lemma nodesEmpty_iff (ns : List Node) :
    nodesEmpty ns = true ↔ ∀ n ∈ ns, (n.queryEntries = [] ∧ n.filterEntries = []) ∧
      ∀ c ∈ n.subCriteria, c.isEmpty = true := by
  induction ns with
  | nil => simp [nodesEmpty]
  | cons n ns ih => simp [nodesEmpty_cons, allEmpty_iff, ih]

lemma isEmpty_iff (c : Criteria) :
    c.isEmpty = true ↔ ∀ n ∈ c.allNodes, n.queryEntries = [] ∧ n.filterEntries = [] := by
  induction c using induction with
  | step ns ih =>
    rw [isEmpty, nodesEmpty_iff, forall_allNodes]
    exact forall₂_congr fun n hn => and_congr_right fun _ => forall₂_congr fun c hc => ih n hn c hc

/-- A compilation answers that there is nothing to match if and only if no node, at any depth,
carries an entry of its kind.  Criteria are empty if and only if both compilations succeed and
answer this. -/
theorem compile_eq_none_iff (config : Config) (c : Criteria) :
    ((c.compileQuery config).result = .ok none ↔ ∀ n ∈ c.allNodes, n.queryEntries = []) ∧
      ((c.compileFilter config).result = .ok none ↔ ∀ n ∈ c.allNodes, n.filterEntries = []) ∧
      (c.isEmpty = true ↔
        ∃ compiled, c.compile config = .ok compiled ∧ compiled.isEmpty = true) := by
  have hquery : (c.compileQuery config).result = .ok none ↔
      ∀ n ∈ c.allNodes, n.queryEntries = [] := by
    rw [compileQuery, Compile.result_run]
    exact (Pass.query config).compiled_eq_none_iff _ Clauses.collapse_eq_none_iff c
  have hfilter : (c.compileFilter config).result = .ok none ↔
      ∀ n ∈ c.allNodes, n.filterEntries = [] := by
    rw [compileFilter, Compile.result_run]
    exact (Pass.filter config).compiled_eq_none_iff _ Clauses.collapse_eq_none_iff c
  refine ⟨hquery, hfilter, ?_⟩
  rw [isEmpty_iff, forall₂_and, ← hquery, ← hfilter]
  constructor
  · rintro ⟨hq, hf⟩
    exact ⟨⟨none, none⟩, by rw [compile, hq, hf]; rfl, rfl⟩
  · rintro ⟨⟨q, f⟩, hcompile, hempty⟩
    obtain ⟨q', hq, hcompile⟩ := bind_eq_ok_iff.1 hcompile
    obtain ⟨f', hf, hcompile⟩ := bind_eq_ok_iff.1 hcompile
    obtain ⟨rfl, rfl⟩ := Compiled.mk.inj (Except.ok.inj hcompile)
    obtain ⟨rfl, rfl⟩ : q' = none ∧ f' = none := by simpa [Compiled.isEmpty] using hempty
    exact ⟨hq, hf⟩

end Criteria

end SearchCriteria
