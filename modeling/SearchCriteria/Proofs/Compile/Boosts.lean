/-
# Boosts decorate queries

A node's boost goes to the clause that joins the leaves of its entries, before the clause is put
under the path of the field.  The clause may be any kind of query then, and a query that only asks
whether a field is there drops the boost.  Everything that happens to the clause later leaves the
boost where it is.

* `Criteria.eraseBoosts`: criteria without the boosts of their nodes;
* `Node.boostSites`: the boost that a node contributes to a query, if it does;
* `compileQuery_boosts`: compiling and erasing boosts commute, the filter does not depend on boosts,
  and the boosts of a query are those that the nodes contribute.
-/
import SearchCriteria.Criteria.Builder
import SearchCriteria.Proofs.Compile.Contributions
import SearchCriteria.Proofs.Compile.Emptiness
import SearchCriteria.Proofs.Compile.NormalForm
import SearchCriteria.Proofs.Compile.Refusal
import SearchCriteria.Proofs.Query.Boosts

namespace SearchCriteria

open Numeric Outcome

/-! ## Clauses and their boosts -/

namespace Query

def isPresence : Query → Bool
  | leaf (.present _) => true
  | _ => false

/-- Only the clause of a single entry may be one that asks whether a field is there. -/
lemma isPresence_join_iff {leaves : List Query} :
    (Pass.join leaves).isPresence ↔ ∃ name, leaves = [leaf (.present name)] := by
  match leaves with
  | [leaf l] => cases l <;> simp [Pass.join, isPresence]
  | [bool cs b] => simp [Pass.join, isPresence]
  | [nested path q mode] => simp [Pass.join, isPresence]
  | [] => simp [Pass.join, isPresence]
  | _ :: _ :: _ => simp [Pass.join, isPresence]

lemma IsFlat.unboosted {leafOk : Leaf → Prop} {q : Query} (h : q.IsFlat leafOk fun _ => False) :
    q.Unboosted :=
  fun p hp => Option.eq_none_iff_forall_ne_some.2 fun b hb => (h p hp).1.1 b hb

/-- The clause of entries for the query carries a boost that it is given, unless it only asks
whether a field is there. -/
lemma IsFlat.boostSites_withBoost {q : Query} (h : q.IsFlat Leaf.InQuery fun _ => False)
    (paths : List String) (b : Binary32) :
    (q.withBoost b).boostSites paths = if q.isPresence then [] else [⟨paths, b, q⟩] := by
  have hunboosted := h.unboosted
  obtain ⟨⟨-, hregular⟩, hflat⟩ := h q (self_mem_parts q)
  cases q with
  | leaf l =>
    have hnone := Leaf.setBoost_none_eq_self (hunboosted _ (self_mem_parts _))
    rw [withBoost, boostSites_leaf, Leaf.setBoost_setBoost, hnone]
    cases l with
    | geoDistance q => cases hregular
    | geoBox q => cases hregular
    | _ => rfl
  | bool cs b' =>
    obtain rfl : b' = none := hunboosted _ (self_mem_parts _)
    have hclauses : cs.toList.flatMap (boostSites paths) = [] :=
      List.flatMap_eq_nil_iff.2 fun q hq =>
        Unboosted.boostSites_eq_nil ((forall_parts_bool.1 hunboosted).2 q hq) paths
    rw [withBoost, boostSites_bool, hclauses]
    rfl
  | nested path q mode => cases hflat

end Query

namespace Reading

lemma eraseBoosts_boosted (boost : Option Binary32) (q : Query) :
    (boosted boost q).eraseBoosts = q.eraseBoosts := by
  cases boost with
  | none => rfl
  | some b => exact q.eraseBoosts_withBoost b

lemma eraseBoosts_under (mode : ScoreMode) (path : Option String) (q : Query) :
    (under mode path q).eraseBoosts = under mode path q.eraseBoosts := by
  cases path with
  | none => rfl
  | some path => exact Query.eraseBoosts_nested path q mode

lemma boostSites_under (paths : List String) (mode : ScoreMode) (path : Option String) (q : Query) :
    (under mode path q).boostSites paths = q.boostSites (paths ++ path.toList) := by
  cases path with
  | none => rw [under, Option.toList_none, List.append_nil]
  | some path => exact Query.boostSites_nested paths path q mode

end Reading

/-! ## Own clauses -/

namespace Node

/-- The clause that joins the leaves of the query entries, if there are some. -/
def queryClause? (n : Node) : Option Query :=
  n.field.bind fun field =>
    Reading.together (Reading.leaves (Compile.queryLeaf field) n.queryEntries)

/-- The boost that a node contributes to a query: it stands on the clause that joins the leaves of
the query entries, under the path of the field, unless this clause only asks whether the field is
there. -/
def boostSites (n : Node) : List BoostSite :=
  match n.boost, n.queryClause? with
  | some b, some clause =>
    if clause.isPresence then [] else [⟨(n.field.bind (·.path)).toList, b, clause⟩]
  | _, _ => []

lemma isFlat_queryClause {n : Node} {q : Query} (h : n.queryClause? = some q) :
    q.IsFlat Leaf.InQuery fun _ => False := by
  obtain ⟨field, -, htogether⟩ := Option.bind_eq_some_iff.1 h
  refine Query.isFlat_of_together htogether fun a ha => ?_
  obtain ⟨entry, -, hsome⟩ := List.mem_filterMap.1 ha
  exact (Compile.isFlat_queryLeaf (eq_ok_of_toOption hsome)).mono fun l hl => hl.1

end Node

namespace Pass

variable {config : Config} {n : Node}

/-- A node's own clause is the clause of its entries with the boost of the node, under the path of
its field. -/
lemma eq_map_queryClause {own : Option Query} (h : (query config).ownClause n = .ok own) :
    own = n.queryClause?.map fun clause =>
      Reading.under config.nestedScoreMode (n.field.bind (·.path))
        (Reading.boosted n.boost clause) := by
  rw [Reading.eq_under_of_ownClause h, Node.queryClause?]
  cases n.field <;> rfl

lemma boostSites_ownClause {own : Option Query} (h : (query config).ownClause n = .ok own) :
    own.toList.flatMap (Query.boostSites []) = n.boostSites := by
  rw [eq_map_queryClause h, Node.boostSites]
  cases hclause : n.queryClause? with
  | none => cases n.boost <;> rfl
  | some clause =>
    have hflat := Node.isFlat_queryClause hclause
    rw [Option.map_some, Option.toList_some, List.flatMap_singleton, Reading.boostSites_under,
      List.nil_append]
    cases n.boost with
    | none => exact hflat.unboosted.boostSites_eq_nil _
    | some b => exact hflat.boostSites_withBoost _ b

/-- Without the boost of the node, the own clause has no boost and is otherwise the same. -/
lemma rel_ownClause_eraseBoost (n : Node) (cs : List Criteria) :
    Outcome.Rel (Option.Rel fun q q' => q.eraseBoosts = q') ((query config).ownClause n)
      ((query config).ownClause { n with boost := none, subCriteria := cs }) := by
  -- An own clause fails on the entries, which are the same.
  refine .of_error?_eq (by rw [error?_ownClause, error?_ownClause]; rfl) fun own own' h h' => ?_
  have hclause : ({ n with boost := none, subCriteria := cs } : Node).queryClause? =
      n.queryClause? := rfl
  rw [eq_map_queryClause h, eq_map_queryClause h', hclause]
  cases hclause : n.queryClause? with
  | none => exact .none
  | some clause =>
    refine .some ?_
    rw [Reading.eraseBoosts_under, Reading.eraseBoosts_boosted,
      (Node.isFlat_queryClause hclause).unboosted.eraseBoosts_eq_self]
    rfl

end Pass

/-! ## Results -/

namespace Criteria

/-- The criteria without the boosts of their nodes. -/
def eraseBoosts (c : Criteria) : Criteria :=
  c.mapNodes fun n => { n with boost := none }

/-- The criteria without the boosts of nodes that have no entries for the query. -/
def eraseIdleBoosts (c : Criteria) : Criteria :=
  c.mapNodes fun n => if n.queryEntries = [] then { n with boost := none } else n

variable {config : Config} {c : Criteria}

lemma compileQuery_eraseBoosts : (c.eraseBoosts.compileQuery config).result =
    (c.compileQuery config).result.map (Option.map Query.eraseBoosts) := by
  have hnodes : c.Alike ((Pass.query config).Agree (.query config) fun q q' => q.eraseBoosts = q')
      c.eraseBoosts :=
    alike_mapNodes fun n _ cs => ⟨Pass.rel_ownClause_eraseBoost n cs, rfl, rfl⟩
  rw [compileQuery, compileQuery, Compile.result_run, Compile.result_run]
  exact Pass.compiled_map_of_alike (fun cs => Query.eraseBoosts_bool cs none) rfl hnodes

lemma compileFilter_eraseBoosts :
    (c.eraseBoosts.compileFilter config).result = (c.compileFilter config).result := by
  have hnodes : c.Alike ((Pass.filter config).Agree (.filter config) Eq) c.eraseBoosts :=
    alike_mapNodes fun n _ cs => Pass.agree_of_eq rfl rfl rfl
  rw [compileFilter, compileFilter, Compile.result_run, Compile.result_run]
  exact (Pass.compiled_eq_of_alike rfl hnodes).symm

lemma perm_boostSites {q : Query} (h : (c.compileQuery config).result = .ok (some q)) :
    (q.boostSites []).Perm (c.allNodes.flatMap Node.boostSites) := by
  rw [compileQuery, Compile.result_run] at h
  have hbool : ∀ cs, (Query.bool cs none).boostSites [] = cs.toList.flatMap (Query.boostSites []) :=
    fun cs => Query.boostSites_bool [] cs none
  have hperm := Pass.perm_compiled hbool h fun n _ own => Pass.boostSites_ownClause
  rwa [Option.toList_some, List.flatMap_singleton] at hperm

lemma compileQuery_eraseIdleBoosts :
    (c.eraseIdleBoosts.compileQuery config).result = (c.compileQuery config).result := by
  have hnodes : c.Alike ((Pass.query config).Agree (.query config) Eq) c.eraseIdleBoosts := by
    refine alike_mapNodes fun n _ cs => ?_
    split
    case isTrue hentries =>
      have hown : ∀ m : Node, m.queryEntries = [] → (Pass.query config).ownClause m = .ok none :=
        fun m => ((Pass.query config).ownClause_eq_none_iff m).2
      exact Pass.agree_of_eq ((hown n hentries).trans
        (hown { n with boost := none, subCriteria := cs } hentries).symm) rfl rfl
    case isFalse => exact Pass.agree_of_eq rfl rfl rfl
  rw [compileQuery, compileQuery, Compile.result_run, Compile.result_run]
  exact (Pass.compiled_eq_of_alike rfl hnodes).symm

/-- In a compilation that succeeds, the clause of a node with entries for the query joins a leaf for
each of them, and the own clause of the node is this clause with the boost, under the path. -/
lemma ownClause_of_compileQuery {r : Option Query} (h : (c.compileQuery config).result = .ok r)
    {n : Node} (hn : n ∈ c.allNodes) (hentries : n.queryEntries ≠ []) :
    ∃ field leaves, n.field = some field ∧
      n.queryEntries.mapM (Compile.queryLeaf field) = .ok leaves ∧
      n.queryClause? = some (Pass.join leaves) ∧
      (Pass.query config).ownClause n = .ok (some (Reading.under config.nestedScoreMode field.path
        (Reading.boosted n.boost (Pass.join leaves)))) := by
  rw [compileQuery] at h
  obtain ⟨field, leaves, hfield, hleaves⟩ := Pass.exists_leaves h hn hentries
  refine ⟨field, leaves, hfield, hleaves, ?_,
    Pass.ownClause_of_leaves (.query config) hfield hentries hleaves⟩
  rw [Node.queryClause?, hfield]
  exact Reading.together_leaves hleaves hentries

/-- Boosts decorate the clauses of nodes, and nothing else.

* Compiling a query and erasing boosts commute, also where the compilation fails.
* A filter does not depend on boosts.
* The boosts in a query are those that its nodes contribute, one each: every node with entries for
  the query and a boost contributes the boost, on the clause that joins the leaves of its entries
  and under the path of its field, unless the clause only asks whether a field is there.
* That clause is the leaf of the only entry or the combination of all leaves, so only the clause of
  a lone entry can ask no more.  The node's own clause is this clause with the boost, under the
  path.
* The boosts of nodes without entries for the query have no effect. -/
theorem compileQuery_boosts (config : Config) (c : Criteria) :
    (c.eraseBoosts.compileQuery config).result =
      (c.compileQuery config).result.map (Option.map Query.eraseBoosts) ∧
    (∀ d : Criteria, d.eraseBoosts = c.eraseBoosts →
      (d.compileFilter config).result = (c.compileFilter config).result) ∧
    (∀ q, (c.compileQuery config).result = .ok (some q) →
      (q.boostSites []).Perm (c.allNodes.flatMap Node.boostSites)) ∧
    (∀ r, (c.compileQuery config).result = .ok r → ∀ n ∈ c.allNodes, n.queryEntries ≠ [] →
      ∃ field leaves, n.field = some field ∧
        n.queryEntries.mapM (Compile.queryLeaf field) = .ok leaves ∧
        n.queryClause? = some (Pass.join leaves) ∧
        ((Pass.join leaves).isPresence ↔ ∃ name, leaves = [.leaf (.present name)]) ∧
        (Pass.query config).ownClause n = .ok (some (Reading.under config.nestedScoreMode field.path
          (Reading.boosted n.boost (Pass.join leaves))))) ∧
    (c.eraseIdleBoosts.compileQuery config).result = (c.compileQuery config).result := by
  refine ⟨compileQuery_eraseBoosts, fun d h => ?_, fun q => perm_boostSites,
    fun r h n hn hentries => ?_, compileQuery_eraseIdleBoosts⟩
  · rw [← compileFilter_eraseBoosts, h, compileFilter_eraseBoosts]
  · obtain ⟨field, leaves, hfield, hleaves, hclause, hown⟩ :=
      ownClause_of_compileQuery h hn hentries
    exact ⟨field, leaves, hfield, hleaves, hclause, Query.isPresence_join_iff, hown⟩

/-- Two entries about nested documents, with a boost. -/
def boostedName : Node :=
  { Node.bare (some ⟨"name", some "people", .analyzed⟩) .and with
    boost := some (.ofInt _ 2)
    queryEntries := [.flag .present, .of .regexp (.text "al.*")] }

/-- A chain of boosted nodes: two entries about nested documents, a lone question for a field, a
lone entry with a combination for its clause, and a group. -/
def boostedChain : Criteria :=
  ⟨[boostedName,
    { Node.bare (some (.named "age")) .and with
      boost := some (.ofInt _ 3), queryEntries := [.flag .present] },
    { Node.bare (some (.named "mail")) .and with
      boost := some (.ofInt _ 4), queryEntries := [.flag .empty] },
    { Node.bare none .and with
      boost := some (.ofInt _ 5), subCriteria := [(on (.named "home")).notEmpty] }]⟩

def nameClauses : Clauses Query :=
  { must := [.leaf (.present "name"), .leaf (.regexp ⟨"name", "al.*", none⟩)] }

def mailClauses : Clauses Query where
  must := [.leaf (.present "mail")]
  mustNot := [.leaf (.wildcard ⟨"mail", "*", none⟩)]

/-- The boosts of the two entries together and of the combination are in the query, the others are
not. -/
theorem compileQuery_boostedChain :
    ∃ q, (boostedChain.compileQuery {}).result = .ok (some q) ∧
      (q.boostSites []).Perm [
        ⟨["people"], .ofInt _ 2, .bool nameClauses none⟩,
        ⟨[], .ofInt _ 4, .bool mailClauses none⟩] ∧
      (boostedChain.eraseBoosts.compileQuery {}).result = .ok (some q.eraseBoosts) ∧
      (boostedChain.eraseIdleBoosts.compileQuery {}).result = .ok (some q) ∧
      (boostedChain.eraseBoosts.compileFilter {}).result = (boostedChain.compileFilter {}).result ∧
      ∃ field leaves, boostedName.field = some field ∧
        boostedName.queryEntries.mapM (Compile.queryLeaf field) = .ok leaves ∧
        boostedName.queryClause? = some (Pass.join leaves) ∧
        (Pass.query {}).ownClause boostedName =
          .ok (some (.nested "people" ((Pass.join leaves).withBoost (.ofInt _ 2)) .avg)) := by
  have hrun : (boostedChain.compileQuery {}).result = .ok (some (.bool { must := [
      .nested "people" (.bool nameClauses (some (.ofInt _ 2))) .avg,
      .leaf (.present "age"),
      .bool mailClauses (some (.ofInt _ 4)),
      .leaf (.wildcard ⟨"home", "*", none⟩)] } none)) := by
    rw [compileQuery, Compile.result_run]
    rfl
  obtain ⟨herase, hfilter, hsites, hclauses, hidle⟩ := compileQuery_boosts {} boostedChain
  have hname : boostedName ∈ boostedChain.allNodes := by
    rw [boostedChain, allNodes_mk]
    exact List.mem_cons_self
  obtain ⟨field, leaves, hfield, hleaves, hclause, -, hown⟩ :=
    hclauses _ hrun boostedName hname (List.cons_ne_nil _ _)
  obtain rfl := Option.some.inj hfield
  exact ⟨_, hrun, hsites _ hrun, by rw [herase, hrun]; rfl, hidle.trans hrun, hfilter _ rfl,
    _, leaves, hfield, hleaves, hclause, hown⟩

end Criteria

end SearchCriteria
