/-
# Compilation sees no more than a projection

A pass meets nodes that have no part in what it compiles: they carry no entry of its kind, and
neither does anything attached to them.  Such nodes are not even taken for the first of a chain
when a clause is held back, and data that a pass does not read cannot lead a clause elsewhere.  So
the pass gives the same result, be it a query or an error, for criteria and for their projection,
and what has the same projection cannot be told apart by a result.

* `Pass.Sees` says which view a pass takes of criteria;
* `visits_cons_of_not_carries` is the step over a node that has no part in the compilation;
* `rel_visits_projectNodes` compares the visits of a chain and of its projection, and
  `compiled_project` the results.
-/
import SearchCriteria.Proofs.Compile.Emptiness
import SearchCriteria.Proofs.Criteria.Projection

namespace SearchCriteria

open Outcome

/-- What a pass asks of a visit when it puts the clause in its place. -/
structure Mark where
  /-- Whether the clause comes from the node's entries. -/
  isOwn : Bool
  clause : Query
  negating : Bool
  /-- The occurrence of the node's clauses. -/
  occur : Occur

namespace Pass

variable (pass : Pass)

/-- What the pass asks of a visit. -/
def mark (visit : Visit) : Mark :=
  ⟨visit.isOwn, visit.clause, visit.owner.negating, pass.occur visit.owner⟩

variable {pass} in
lemma take_congr {v w : Visit} (h : pass.mark v = pass.mark w) (walk : Walk) :
    pass.take walk v = pass.take walk w := by
  obtain ⟨hown, hclause, hnegating, hoccur⟩ := Mark.mk.inj h
  rw [take, take, hown, hclause, hnegating, hoccur]

variable {pass} in
lemma arrange_congr {vs ws : List Visit} (h : vs.map pass.mark = ws.map pass.mark) :
    pass.arrange vs = pass.arrange ws := by
  have hfold : ∀ walk : Walk, vs.foldl pass.take walk = ws.foldl pass.take walk := by
    induction vs generalizing ws with
    | nil =>
      intro walk
      rw [List.map_nil, eq_comm, List.map_eq_nil_iff] at h
      rw [h]
    | cons v vs ih =>
      intro walk
      rw [List.map_cons, eq_comm, List.map_eq_cons_iff] at h
      obtain ⟨w, ws, rfl, hmark, hrest⟩ := h
      rw [List.foldl_cons, List.foldl_cons, ih hrest.symm, take_congr hmark.symm]
  rw [arrange, arrange, hfold]

/-- A pass sees a view of criteria if it compiles the entries that count there, and nothing that
is erased makes a difference to it. -/
structure Sees (view : View) : Prop where
  entries : ∀ n, pass.entries n = view.entries n
  /-- What is erased has no part in the clause of a node. -/
  ownClause : ∀ n cs, pass.ownClause { view.erase n with subCriteria := cs } = pass.ownClause n
  /-- What is erased has no part in the occurrence of a node's clauses. -/
  occur : ∀ n cs, pass.occur { view.erase n with subCriteria := cs } = pass.occur n
  negating : ∀ n, (view.erase n).negating = n.negating

lemma query_sees (config : Config) : (query config).Sees .query where
  entries _ := rfl
  ownClause _ _ := rfl
  occur _ _ := rfl
  negating _ := rfl

lemma filter_sees (config : Config) : (filter config).Sees .filter where
  entries _ := rfl
  ownClause n _ := by
    -- The clause of a filter entry names the field and does not ask for its kind.
    have hleaf : ∀ (field : Field) (kind : FieldKind),
        Compile.filterLeaf config { field with kind := kind } =
          Compile.filterLeaf config field := fun _ _ => rfl
    cases hfield : n.field with
    | none => simp [ownClause, filter, View.filter, hfield, Node.fieldName]
    | some field => simp [ownClause, filter, View.filter, hfield, hleaf, finish]
  occur _ _ := rfl
  negating _ := rfl

variable {pass} {view : View} {finish : Clauses Query → Option Query}

section NotCarrying

variable (hsees : pass.Sees view) (hfinish : ∀ cs, finish cs = none ↔ cs.count = 0)

include hsees hfinish

/-- Nothing comes of criteria that carry no entry. -/
lemma compiled_of_not_carries {c : Criteria} (h : view.carries c = false) :
    pass.compiled finish c = .ok none := by
  rw [compiled_eq_none_iff pass finish hfinish]
  intro n hn
  rw [hsees.entries]
  exact view.carries_eq_false_iff.1 h n hn

/-- A node that carries no entry is passed over, wherever it stands in a chain. -/
lemma visits_cons_of_not_carries {n : Node} (h : view.carriesAt n = false) (ns : List Node) :
    pass.visits finish (n :: ns) = pass.visits finish ns := by
  obtain ⟨hentries, hattached⟩ := view.carriesAt_eq_false_iff.1 h
  have hown : pass.ownClause n = .ok none := by
    rw [ownClause_eq_none_iff, hsees.entries, hentries]
  obtain ⟨rs, hrs, hnone⟩ := (pass.compiledAll_eq_none_iff finish n.subCriteria).2
    fun c hc => compiled_of_not_carries hsees hfinish (hattached c hc)
  have hnil : n.visits none rs = [] := Node.visits_eq_nil_iff.2 ⟨rfl, hnone⟩
  rw [visits_cons, hown, ok_bind, hrs, ok_bind, hnil]
  exact bind_ok _

end NotCarrying

section Projection

variable (hsees : pass.Sees view)

/-- Visits whose clauses are put in the same places. -/
def SameMarks (pass : Pass) (vs ws : List Visit) : Prop :=
  vs.map pass.mark = ws.map pass.mark

include hsees in
/-- The clauses of a node keep their places in the projection, where the same comes of what is
attached to it. -/
lemma sameMarks_projectAt (n : Node) (own : Option Query) {attached attached' : List (Option Query)}
    (h : attached.filterMap id = attached'.filterMap id) :
    pass.SameMarks ((view.projectAt n).visits own attached) (n.visits own attached') := by
  have hmark : ∀ (isOwn : Bool) (q : Query),
      pass.mark ⟨view.projectAt n, isOwn, q⟩ = pass.mark ⟨n, isOwn, q⟩ := by
    intro isOwn q
    have hoccur : pass.occur (view.projectAt n) = pass.occur n := hsees.occur n _
    have hnegating : (view.projectAt n).negating = n.negating := hsees.negating n
    rw [mark, mark, hoccur, hnegating]
  rw [SameMarks, Node.visits, Node.visits, h]
  simp only [List.map_append, List.map_map, Function.comp_def, hmark]

variable (hfinish : ∀ cs, finish cs = none ↔ cs.count = 0)

include hsees hfinish

/-- The same comes of criteria attached to a node and of their projections, but for those of which
nothing comes. -/
lemma rel_compiledAll_projectAll {cs : List Criteria}
    (ih : ∀ c ∈ cs, pass.compiled finish (view.project c) = pass.compiled finish c) :
    Outcome.Rel (fun rs ss => rs.filterMap id = ss.filterMap id)
      (pass.compiledAll finish (view.projectAll cs)) (pass.compiledAll finish cs) := by
  induction cs with
  | nil =>
    rw [View.projectAll_nil, compiledAll_nil]
    exact .ok rfl
  | cons c cs ihs =>
    obtain ⟨hc, hcs⟩ := List.forall_mem_cons.1 ih
    rw [View.projectAll_cons, compiledAll_cons]
    cases hcarries : view.carries c with
    | true =>
      rw [if_pos rfl, compiledAll_cons, hc]
      cases pass.compiled finish c with
      | error e => exact .error e
      | ok r =>
        refine (ihs hcs).bind fun rs ss hrest => .ok ?_
        rw [List.filterMap_cons, List.filterMap_cons, hrest]
    | false =>
      -- On the left `c` is left out; on the right nothing comes of it.
      rw [if_neg Bool.false_ne_true, compiled_of_not_carries hsees hfinish hcarries, ok_bind,
        ← bind_ok (pass.compiledAll finish (view.projectAll cs))]
      exact (ihs hcs).bind fun rs ss hrest => .ok hrest

/-- A chain and its projection have visits that are put in the same places. -/
lemma rel_visits_projectNodes {ns : List Node}
    (ih : ∀ n ∈ ns, ∀ c ∈ n.subCriteria,
      pass.compiled finish (view.project c) = pass.compiled finish c) :
    Outcome.Rel pass.SameMarks (pass.visits finish (view.projectNodes ns))
      (pass.visits finish ns) := by
  induction ns with
  | nil =>
    rw [View.projectNodes_nil, visits_nil]
    exact .ok rfl
  | cons n ns ihs =>
    obtain ⟨hn, hns⟩ := List.forall_mem_cons.1 ih
    rw [View.projectNodes_cons]
    cases hcarries : view.carriesAt n with
    | true =>
      have hown : pass.ownClause (view.projectAt n) = pass.ownClause n := hsees.ownClause n _
      rw [if_pos rfl, visits_cons, visits_cons, hown]
      cases pass.ownClause n with
      | error e => exact .error e
      | ok own =>
        refine (rel_compiledAll_projectAll hsees hfinish hn).bind fun rs ss hattached => ?_
        refine (ihs hns).bind fun vs ws hlater => .ok ?_
        rw [SameMarks, List.map_append, List.map_append, hlater,
          sameMarks_projectAt hsees n own hattached]
    | false =>
      rw [if_neg Bool.false_ne_true, visits_cons_of_not_carries hsees hfinish hcarries]
      exact ihs hns

/-- A pass gives the same result for criteria and for what it sees of them. -/
theorem compiled_project (c : Criteria) :
    pass.compiled finish (view.project c) = pass.compiled finish c := by
  induction c using Criteria.induction with
  | step ns ih =>
    have hvisits := rel_visits_projectNodes hsees hfinish fun n hn c hc => ih n hn c hc
    rw [View.project_mk, compiled_mk, compiled_mk]
    generalize pass.visits finish (view.projectNodes ns) = x at hvisits
    generalize pass.visits finish ns = y at hvisits
    cases hvisits with
    | ok h => rw [ok_bind, ok_bind, arrange_congr h]
    | error e => rfl

end Projection

end Pass

namespace Criteria

/-- The score mode of nested clauses is all that a compilation for the query asks of a
configuration. -/
lemma compileQuery_congr {config config' : Config}
    (h : config.nestedScoreMode = config'.nestedScoreMode) (c : Criteria) :
    c.compileQuery config = c.compileQuery config' := by
  have hpass : Pass.query config = Pass.query config' := by
    rw [Pass.query, Pass.query, h]
  rw [compileQuery, compileQuery, hpass]

lemma compileQuery_queryProjection (config : Config) (c : Criteria) :
    (c.queryProjection.compileQuery config).result = (c.compileQuery config).result := by
  rw [compileQuery, compileQuery, Compile.result_run, Compile.result_run]
  exact Pass.compiled_project (Pass.query_sees config) Clauses.collapse_eq_none_iff c

lemma compileFilter_filterProjection (config : Config) (c : Criteria) :
    (c.filterProjection.compileFilter config).result = (c.compileFilter config).result := by
  rw [compileFilter, compileFilter, Compile.result_run, Compile.result_run]
  exact Pass.compiled_project (Pass.filter_sees config) Clauses.collapse_eq_none_iff c

lemma project_eq_of_changes {view : View} {c d : Criteria}
    (h : Relation.ReflTransGen view.Change c d) : view.project c = view.project d := by
  induction h with
  | refl => rfl
  | tail _ hlast ih => rw [ih, View.project_eq_of_change hlast]

/-- Criteria with the same query projection have the same query or the same error, under
configurations with the same score mode, and criteria with the same filter projection have the
same filter or the same error.  So whatever changes where a view does not see it, and however
often: it changes neither what comes of the criteria nor why nothing does. -/
theorem compile_eq_of_projection_eq (c d : Criteria) :
    (c.queryProjection = d.queryProjection → ∀ config config' : Config,
      config.nestedScoreMode = config'.nestedScoreMode →
        (c.compileQuery config).result = (d.compileQuery config').result) ∧
      (c.filterProjection = d.filterProjection → ∀ config : Config,
        (c.compileFilter config).result = (d.compileFilter config).result) ∧
      (Relation.ReflTransGen View.query.Change c d → ∀ config : Config,
        (c.compileQuery config).result = (d.compileQuery config).result) ∧
      (Relation.ReflTransGen View.filter.Change c d → ∀ config : Config,
        (c.compileFilter config).result = (d.compileFilter config).result) := by
  have hquery : c.queryProjection = d.queryProjection → ∀ config : Config,
      (c.compileQuery config).result = (d.compileQuery config).result := by
    intro h config
    rw [← compileQuery_queryProjection, h, compileQuery_queryProjection]
  have hfilter : c.filterProjection = d.filterProjection → ∀ config : Config,
      (c.compileFilter config).result = (d.compileFilter config).result := by
    intro h config
    rw [← compileFilter_filterProjection, h, compileFilter_filterProjection]
  refine ⟨fun h config config' hmode => ?_, hfilter, fun h => hquery (project_eq_of_changes h),
    fun h => hfilter (project_eq_of_changes h)⟩
  rw [compileQuery_congr hmode c]
  exact hquery h config'

def eitherField : Criteria :=
  ((on (.named "a")).present.or (.named "b")).present

/-- The same alternatives behind a negated group without entries, and with a bad filter entry. -/
def eitherFieldBehind : Criteria :=
  ((((anchorOr.attach [on (.named "c")]).not.and (.named "a")).present.or
    (.named "b")).present.within (.text "nowhere") (.text "1km"))

/-- The group is not taken for the first node: the query is the same combination of alternatives,
although the filter fails. -/
theorem compileQuery_eitherFieldBehind :
    eitherFieldBehind.queryProjection = eitherField.queryProjection ∧
      (eitherFieldBehind.compileQuery {}).result =
        (eitherField.compileQuery { geoDistanceType := .arc }).result ∧
      (eitherField.compileQuery { geoDistanceType := .arc }).result = .ok (some (.bool {
        should := [.leaf (.present "a"), .leaf (.present "b")] } none)) ∧
      (eitherFieldBehind.compileFilter {}).result.toOption = none := by
  have hprojection : eitherFieldBehind.queryProjection = eitherField.queryProjection := rfl
  have hsame := (compile_eq_of_projection_eq eitherFieldBehind eitherField).1 hprojection {}
    { geoDistanceType := .arc } rfl
  exact ⟨hprojection, hsame, rfl, rfl⟩

end Criteria

end SearchCriteria
