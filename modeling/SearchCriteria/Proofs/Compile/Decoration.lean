/-
# Paths and configurations decorate results

The path of a node's field puts the node's own clause into a query on nested documents, and a
configuration says which score mode such queries have and which distance type the distances have.
Neither decides anything: not which entries are refused, nor which clauses there are, nor where they
go.

* `Pass.clause?`: the clause of a node before it is put under the path;
* `Pass.wrappers` and `Pass.leafSites`: what the node contributes to the queries on nested documents
  and to the leaf clauses of a result;
* `Pass.map_ownClause`: own clauses go along with what changes leaf clauses and paths;
* `compile_decorates`: configuring a result and erasing its queries on nested documents commute with
  compiling, and these queries are those that the nodes contribute, one each.
-/
import SearchCriteria.Proofs.Compile.Contributions
import SearchCriteria.Proofs.Compile.NormalForm
import SearchCriteria.Proofs.Compile.Refusal
import SearchCriteria.Proofs.Query.Rebuilding

namespace SearchCriteria

open Numeric Outcome

/-! ## Clauses of nodes -/

namespace Reading

variable {onLeaf : Leaf → Leaf} {onNested : String → Query → ScoreMode → Query}

lemma rebuild_boosted (hset : ∀ b l, onLeaf (l.setBoost b) = (onLeaf l).setBoost b)
    (boost : Option Binary32) {q : Query} (h : q.Unnested) :
    (boosted boost q).rebuild onLeaf onNested = boosted boost (q.rebuild onLeaf onNested) := by
  cases boost with
  | none => rfl
  | some b => exact Query.rebuild_withBoost hset h b

lemma unnested_boosted (boost : Option Binary32) {q : Query} (h : q.Unnested) :
    (boosted boost q).Unnested := by
  cases boost with
  | none => exact h
  | some b => exact h.withBoost b

end Reading

namespace Query

lemma rebuild_join (onLeaf : Leaf → Leaf) (onNested : String → Query → ScoreMode → Query)
    (qs : List Query) :
    (Pass.join qs).rebuild onLeaf onNested = Pass.join (qs.map (rebuild onLeaf onNested)) := by
  match qs with
  | [] => exact rebuild_bool onLeaf onNested { must := [] } none
  | [q] => rfl
  | q :: q' :: rest => exact rebuild_bool onLeaf onNested { must := q :: q' :: rest } none

lemma unnested_join {qs : List Query} (h : ∀ q ∈ qs, q.Unnested) : (Pass.join qs).Unnested := by
  have hbool : ∀ qs : List Query, (∀ q ∈ qs, q.Unnested) →
      (bool { must := qs } none).Unnested := by
    refine fun qs h => forall_parts_bool.2 ⟨rfl, fun q hq => h q ?_⟩
    simpa [Clauses.toList] using hq
  cases qs with
  | nil => exact hbool [] h
  | cons q rest =>
    cases rest with
    | nil => exact h q (List.mem_singleton_self q)
    | cons q' rest => exact hbool _ h

lemma IsFlat.unnested {leafOk : Leaf → Prop} {boostOk : Binary32 → Prop} {q : Query}
    (h : q.IsFlat leafOk boostOk) : q.Unnested :=
  fun p hp => (h p hp).2

end Query

namespace Pass

/-- If one pass makes leaves and clauses that a function takes to those of another pass, at nodes
with the same entries and corresponding fields, then the function takes the own clause of the one to
that of the other, and both fail alike. -/
lemma map_ownClause {pass pass' : Pass} {n m : Node} {g : Query → Query} (toField : Field → Field)
    (hentries : pass'.entries m = pass.entries n) (hfield : m.field = n.field.map toField)
    (hleaf : ∀ field entry, (pass.leaf field entry).map g = pass'.leaf (toField field) entry)
    (hfinish : ∀ field leaves, (pass.entries n).mapM (pass.leaf field) = .ok leaves →
      g (pass.finish n field leaves) = pass'.finish m (toField field) (leaves.map g)) :
    (pass.ownClause n).map (Option.map g) = pass'.ownClause m := by
  rw [ownClause, ownClause, hentries]
  cases hpass : pass.entries n with
  | nil => rfl
  | cons first rest =>
    rw [Node.fieldName, Node.fieldName, hfield]
    cases n.field with
    | none => rfl
    | some field =>
      have hleaves := map_mapM (pass.leaf field) g (first :: rest)
      rw [funext (hleaf field)] at hleaves
      simp only [Option.map_some, ← hleaves, map_bind]
      cases hmapM : (first :: rest).mapM (pass.leaf field) with
      | error e => rfl
      | ok leaves =>
        have hclause := hfinish field leaves (by rw [hpass, hmapM])
        simp only [ok_bind, Except.map, Option.map_some, hclause]

/-- Rebuilding takes own clauses to own clauses, if it takes leaves to leaves and goes along with
paths. -/
lemma rebuild_ownClause {pass pass' : Pass} {n m : Node} {onLeaf : Leaf → Leaf}
    {onNested : String → Query → ScoreMode → Query} (toField : Field → Field)
    (hentries : pass'.entries m = pass.entries n) (hfield : m.field = n.field.map toField)
    (hboost : pass'.boost m = pass.boost n)
    (hset : ∀ b l, onLeaf (l.setBoost b) = (onLeaf l).setBoost b)
    (hunder : ∀ (field : Field) q, (Reading.under pass.mode field.path q).rebuild onLeaf onNested =
      Reading.under pass'.mode (toField field).path (q.rebuild onLeaf onNested))
    (hunnested : ∀ field entry q, pass.leaf field entry = .ok q → q.Unnested)
    (hleaf : ∀ field entry, (pass.leaf field entry).map (Query.rebuild onLeaf onNested) =
      pass'.leaf (toField field) entry) :
    (pass.ownClause n).map (Option.map (Query.rebuild onLeaf onNested)) = pass'.ownClause m := by
  refine map_ownClause toField hentries hfield hleaf fun field leaves hleaves => ?_
  have hjoin : (join leaves).Unnested := Query.unnested_join fun q hq => by
    rw [← filterMap_of_mapM hleaves] at hq
    obtain ⟨entry, -, hsome⟩ := List.mem_filterMap.1 hq
    exact hunnested field entry q (eq_ok_of_toOption hsome)
  rw [finish_eq, finish_eq, hunder, Reading.rebuild_boosted hset _ hjoin, Query.rebuild_join,
    hboost]

end Pass

/-! ## Leaf clauses of entries -/

/-- The field of the same name that is not in nested documents. -/
def Field.erasePath (field : Field) : Field :=
  { field with path := none }

namespace Compile

variable {field : Field} {entry : Entry} {q : Query}

lemma unnested_queryLeaf (h : queryLeaf field entry = .ok q) : q.Unnested := by
  have hflat : q.IsFlat (FitsEntry entry) fun _ => True := isFlat_queryLeaf h
  exact hflat.unnested

lemma unnested_filterLeaf {config : Config} (h : filterLeaf config field entry = .ok q) :
    q.Unnested := by
  have hflat : q.IsFlat (Leaf.AsksForPlaces config) fun _ => True := isFlat_filterLeaf h
  exact hflat.unnested

lemma map_eraseNesting {x : Except CriteriaError Query} (h : ∀ q, x = .ok q → q.Unnested) :
    x.map Query.eraseNesting = x := by
  cases x with
  | error e => rfl
  | ok q => exact congrArg Except.ok ((h q rfl).rebuild_eq_self fun _ _ => rfl)

/-- There is nothing for a configuration to set in a query leaf. -/
lemma queryLeaf_configured (config : Config) (field : Field) (entry : Entry) :
    (queryLeaf field entry).map (Query.configured config) = queryLeaf field entry := by
  cases h : queryLeaf field entry with
  | error e => rfl
  | ok q =>
    have hflat : q.IsFlat (FitsEntry entry) fun _ => True := isFlat_queryLeaf h
    refine congrArg Except.ok (hflat.unnested.rebuild_eq_self fun l hl => ?_)
    have hquery : l.InQuery := (hflat _ hl).1.2.1
    cases l <;> first | rfl | cases hquery

lemma itemTexts_erasePath (field : Field) (entry : Entry) (vs : List Value) :
    entry.itemTexts field.erasePath vs = entry.itemTexts field vs := by
  induction vs with
  | nil => rfl
  | cons v vs ih => rw [Entry.itemTexts, Entry.itemTexts, ih]; rfl

/-- A query leaf names the field, and does not ask for its path. -/
lemma queryLeaf_erasePath (field : Field) (entry : Entry) :
    queryLeaf field.erasePath entry = queryLeaf field entry := by
  have hvalues : ∀ negated, valuesLeaf field.erasePath entry negated =
      valuesLeaf field entry negated := by
    intro negated
    simp only [valuesLeaf, itemTexts_erasePath]
    rfl
  simp only [queryLeaf, hvalues]
  rfl

lemma filterLeaf_erasePath (config : Config) (field : Field) (entry : Entry) :
    filterLeaf config field.erasePath entry = filterLeaf config field entry := rfl

/-- A configuration sets the distance type of a filter leaf, and nothing else. -/
lemma filterLeaf_configured (config : Config) (field : Field) (entry : Entry) :
    (filterLeaf {} field entry).map (Query.configured config) = filterLeaf config field entry := by
  unfold filterLeaf
  cases entry.operator with
  | within =>
    rw [map_bind]
    refine bind_congr fun items => ?_
    obtain ⟨center, radius⟩ := items
    simp only [map_bind]
    refine bind_congr fun l => bind_congr fun text => ?_
    exact congrArg Except.ok (Query.rebuild_leaf _ _ _)
  | boundingBox =>
    rw [map_bind]
    refine bind_congr fun items => ?_
    obtain ⟨topLeft, bottomRight⟩ := items
    simp only [map_bind]
    refine bind_congr fun top => bind_congr fun bottom => bind_congr fun box => ?_
    exact congrArg Except.ok (Query.rebuild_leaf _ _ _)
  | _ => rfl

end Compile

/-! ## What nodes contribute -/

/-- The path of nested documents that a node's own clause is put under, if there is one. -/
def Node.path? (n : Node) : Option String :=
  n.field.bind (·.path)

namespace Pass

variable {pass : Pass} {n : Node}

/-- The clause of a node before it is put under a path: it joins the leaves of the entries, and has
the boost of the node. -/
def clause? (pass : Pass) (n : Node) : Option Query :=
  n.field.bind fun field =>
    (Reading.together (Reading.leaves (pass.leaf field) (pass.entries n))).map
      (Reading.boosted (pass.boost n))

/-- What a node contributes to the queries on nested documents: one, if its field has a path, around
its whole clause. -/
def wrappers (pass : Pass) (n : Node) : List Query :=
  match n.path?, pass.clause? n with
  | some path, some clause => [.nested path clause pass.mode]
  | _, _ => []

/-- What a node contributes to the leaf clauses: those of its clause, under the path of its field
and no other. -/
def leafSites (pass : Pass) (n : Node) : List LeafSite :=
  (pass.clause? n).toList.flatMap (Query.leafSites n.path?.toList)

/-- A node's own clause is its clause under its path. -/
lemma eq_map_clause {own : Option Query} (h : pass.ownClause n = .ok own) :
    own = (pass.clause? n).map (Reading.under pass.mode n.path?) := by
  rw [Reading.eq_under_of_ownClause h, clause?, Node.path?]
  cases n.field with
  | none => rfl
  | some field => simp only [Option.bind_some, Option.map_map, Function.comp_def]

lemma clause?_of_no_entries (h : pass.entries n = []) : pass.clause? n = none := by
  rw [clause?, h]
  cases n.field <;> rfl

/-- The clause joins the leaves of all entries. -/
lemma clause?_of_leaves {field : Field} {leaves : List Query} (hfield : n.field = some field)
    (hentries : pass.entries n ≠ [])
    (hleaves : (pass.entries n).mapM (pass.leaf field) = .ok leaves) :
    pass.clause? n = some (Reading.boosted (pass.boost n) (join leaves)) := by
  rw [clause?, hfield, Option.bind_some, Reading.together_leaves hleaves hentries, Option.map_some]

/-- A clause that is not put under a path yet is not about nested documents. -/
lemma unnested_clause (hunnested : ∀ field entry q, pass.leaf field entry = .ok q → q.Unnested)
    {q : Query} (h : pass.clause? n = some q) : q.Unnested := by
  obtain ⟨field, -, hclause⟩ := Option.bind_eq_some_iff.1 h
  obtain ⟨clause, htogether, rfl⟩ := Option.map_eq_some_iff.1 hclause
  refine Reading.unnested_boosted _ ?_
  have hne : Reading.leaves (pass.leaf field) (pass.entries n) ≠ [] := by
    intro hnil
    rw [hnil] at htogether
    cases htogether
  rw [Reading.together_eq_join hne] at htogether
  rw [← Option.some.inj htogether]
  refine Query.unnested_join fun q hq => ?_
  obtain ⟨entry, -, hsome⟩ := List.mem_filterMap.1 hq
  exact hunnested field entry q (eq_ok_of_toOption hsome)

/-- The queries on nested documents in a node's own clause are those that the node contributes. -/
lemma nestedParts_ownClause
    (hunnested : ∀ field entry q, pass.leaf field entry = .ok q → q.Unnested) {own : Option Query}
    (h : pass.ownClause n = .ok own) : own.toList.flatMap Query.nestedParts = pass.wrappers n := by
  rw [eq_map_clause h, wrappers]
  cases hclause : pass.clause? n with
  | none => cases n.path? <;> rfl
  | some clause =>
    have hnil := (unnested_clause hunnested hclause).nestedParts_eq_nil
    rw [Option.map_some, Option.toList_some, List.flatMap_singleton]
    cases n.path? with
    | none => exact hnil
    | some path => rw [Reading.under, Query.nestedParts_nested, hnil]

/-- The leaf clauses in a node's own clause are those that the node contributes. -/
lemma leafSites_ownClause {own : Option Query} (h : pass.ownClause n = .ok own) :
    own.toList.flatMap (Query.leafSites []) = pass.leafSites n := by
  rw [eq_map_clause h, leafSites]
  cases pass.clause? n with
  | none => rfl
  | some clause =>
    rw [Option.map_some, Option.toList_some, Option.toList_some, List.flatMap_singleton,
      List.flatMap_singleton]
    cases n.path? with
    | none => rfl
    | some path => exact Query.leafSites_nested [] path clause _

end Pass

/-! ## Results -/

namespace Criteria

/-- The criteria without the paths of their fields. -/
def erasePaths (c : Criteria) : Criteria :=
  c.mapNodes fun n => { n with field := n.field.map Field.erasePath }

end Criteria

/-- How paths and configurations show in what a pass compiles criteria into: as decoration. -/
structure Decorates (pass : Config → Pass)
    (compile : Config → Criteria → Except CriteriaError (Option Query)) : Prop where
  /-- A configuration sets the score modes and the distance types of the result that the default
  configuration gives, and changes nothing else. -/
  configured : ∀ config c,
    compile config c = (compile {} c).map (Option.map (Query.configured config))
  /-- Without the paths of the fields, the result is the same without its queries on nested
  documents. -/
  erasePaths : ∀ config c,
    compile config c.erasePaths = (compile config c).map (Option.map Query.eraseNesting)
  /-- The queries on nested documents, at any depth of a result, are those that the nodes
  contribute, one each. -/
  nestedParts : ∀ config c q, compile config c = .ok (some q) →
    q.nestedParts.Perm (c.allNodes.flatMap (pass config).wrappers)
  /-- Each leaf clause of a result stands under the path of the node that it comes from, and under
  no path of a node that this node is attached to. -/
  leafSites : ∀ config c q, compile config c = .ok (some q) →
    (q.leafSites []).Perm (c.allNodes.flatMap (pass config).leafSites)
  /-- The clause of a node with entries joins a leaf for each of them, and has the node's boost. -/
  clause : ∀ config c r, compile config c = .ok r → ∀ n ∈ c.allNodes, (pass config).entries n ≠ [] →
    ∃ field leaves, n.field = some field ∧
      ((pass config).entries n).mapM ((pass config).leaf field) = .ok leaves ∧
      (pass config).clause? n =
        some (Reading.boosted ((pass config).boost n) (Pass.join leaves))
  /-- A node without entries has no clause. -/
  noClause : ∀ config n, (pass config).entries n = [] → (pass config).clause? n = none

/-- Paths and configurations decorate what a pass makes, if they decorate own clauses and lead no
clause elsewhere. -/
lemma Pass.decorates {pass : Config → Pass}
    (hconfigured : ∀ config n, ((pass {}).ownClause n).map (Option.map (Query.configured config)) =
      (pass config).ownClause n)
    (herase : ∀ config n cs, ((pass config).ownClause n).map (Option.map Query.eraseNesting) =
      (pass config).ownClause { n with field := n.field.map Field.erasePath, subCriteria := cs })
    (hfirst : ∀ config, (pass {}).holdsFirst = (pass config).holdsFirst)
    (hoccur : ∀ config n, (pass {}).occur n = (pass config).occur n)
    (hfield : ∀ config n field cs,
      (pass config).occur n = (pass config).occur { n with field := field, subCriteria := cs })
    (hunnested : ∀ config field entry q, (pass config).leaf field entry = .ok q → q.Unnested) :
    Decorates pass fun config c => (Compile.run (pass config) c).result where
  configured config c := by
    rw [Compile.result_run, Compile.result_run]
    exact compiled_map_of_alike (fun cs => Query.rebuild_bool _ _ cs none) (hfirst config)
      (Criteria.alike_self fun n _ => agree_of_map_eq (hconfigured config n) (hoccur config n) rfl)
  erasePaths config c := by
    rw [Compile.result_run, Compile.result_run]
    exact compiled_map_of_alike (fun cs => Query.rebuild_bool _ _ cs none) rfl
      (Criteria.alike_mapNodes fun n _ cs =>
        agree_of_map_eq (herase config n cs) (hfield config n _ cs) rfl)
  nestedParts config c q h := by
    rw [Compile.result_run] at h
    have hperm := perm_compiled (fun cs => Query.nestedParts_bool cs none) h
      fun n _ own => nestedParts_ownClause (hunnested config)
    rwa [Option.toList_some, List.flatMap_singleton] at hperm
  leafSites config c q h := by
    rw [Compile.result_run] at h
    have hperm := perm_compiled (fun cs => Query.leafSites_bool [] cs none) h
      fun n _ own => leafSites_ownClause
    rwa [Option.toList_some, List.flatMap_singleton] at hperm
  clause config c r h n hn hentries := by
    obtain ⟨field, leaves, hfield, hleaves⟩ := exists_leaves h hn hentries
    exact ⟨field, leaves, hfield, hleaves, clause?_of_leaves hfield hentries hleaves⟩
  noClause config n := clause?_of_no_entries

/-! ## The two targets -/

namespace Reading

lemma configured_under (config : Config) (mode : ScoreMode) (path : Option String) (q : Query) :
    (under mode path q).configured config =
      under config.nestedScoreMode path (q.configured config) := by
  cases path with
  | none => rfl
  | some path => exact Query.rebuild_nested _ _ path q mode

lemma eraseNesting_under (mode : ScoreMode) (path : Option String) (q : Query) :
    (under mode path q).eraseNesting = q.eraseNesting := by
  cases path with
  | none => rfl
  | some path => exact Query.rebuild_nested _ _ path q mode

end Reading

namespace Pass

lemma configured_query (config : Config) (n : Node) :
    ((query {}).ownClause n).map (Option.map (Query.configured config)) =
      (query config).ownClause n :=
  rebuild_ownClause id rfl (Option.map_id_apply).symm rfl (Leaf.configured_setBoost config)
    (fun field => Reading.configured_under config _ field.path)
    (fun _ _ _ => Compile.unnested_queryLeaf) (Compile.queryLeaf_configured config)

lemma configured_filter (config : Config) (n : Node) :
    ((filter {}).ownClause n).map (Option.map (Query.configured config)) =
      (filter config).ownClause n :=
  rebuild_ownClause id rfl (Option.map_id_apply).symm rfl (Leaf.configured_setBoost config)
    (fun field => Reading.configured_under config _ field.path)
    (fun _ _ _ => Compile.unnested_filterLeaf) (Compile.filterLeaf_configured config)

lemma eraseNesting_query (config : Config) (n : Node) (cs : List Criteria) :
    ((query config).ownClause n).map (Option.map Query.eraseNesting) =
      (query config).ownClause
        { n with field := n.field.map Field.erasePath, subCriteria := cs } :=
  rebuild_ownClause Field.erasePath rfl rfl rfl (fun _ _ => rfl)
    (fun field => Reading.eraseNesting_under _ field.path)
    (fun _ _ _ => Compile.unnested_queryLeaf) fun field entry =>
      (Compile.map_eraseNesting fun _ => Compile.unnested_queryLeaf).trans
        (Compile.queryLeaf_erasePath field entry).symm

lemma eraseNesting_filter (config : Config) (n : Node) (cs : List Criteria) :
    ((filter config).ownClause n).map (Option.map Query.eraseNesting) =
      (filter config).ownClause
        { n with field := n.field.map Field.erasePath, subCriteria := cs } :=
  rebuild_ownClause Field.erasePath rfl rfl rfl (fun _ _ => rfl)
    (fun field => Reading.eraseNesting_under _ field.path)
    (fun _ _ _ => Compile.unnested_filterLeaf) fun field entry =>
      (Compile.map_eraseNesting fun _ => Compile.unnested_filterLeaf).trans
        (Compile.filterLeaf_erasePath config field entry).symm

end Pass

/-- Both for queries and for filters, paths and configurations decorate results: a configuration
sets score modes and distance types, a path puts the clause of its node into a query on nested
documents, once, and neither of them changes anything else. -/
theorem Criteria.compile_decorates :
    (Decorates Pass.query fun config c => (c.compileQuery config).result) ∧
      Decorates Pass.filter fun config c => (c.compileFilter config).result :=
  ⟨Pass.decorates Pass.configured_query Pass.eraseNesting_query (fun _ => rfl) (fun _ _ => rfl)
      (fun _ _ _ _ => rfl) fun _ _ _ _ => Compile.unnested_queryLeaf,
    Pass.decorates Pass.configured_filter Pass.eraseNesting_filter (fun _ => rfl) (fun _ _ => rfl)
      (fun _ _ _ _ => rfl) fun _ _ _ _ => Compile.unnested_filterLeaf⟩

/-- What is attached to a node about nested documents is not put under the path of the node. -/
example : (((Criteria.on ⟨"name", some "people", .analyzed⟩).present.attach
    [(Criteria.on (.named "age")).present]).compileQuery {}).result = .ok (some (.bool { must := [
      .nested "people" (.leaf (.present "name")) .avg, .leaf (.present "age")] } none)) := rfl

end SearchCriteria
