/-
# What a compiled filter says of the criteria

The declarative reading of criteria as a filter.  It lists the visits of a chain, as the reading
of a query does, but sorts them by another rule:

* a node's own clause joins the leaves of its filter entries, and is put under the path of the
  node's field; a boost does not count in a filter;
* no clause is set aside;
* every clause goes, in visiting order, to the clauses that may not match if its owner is negated,
  else to the alternatives if its owner is one, else to those that have to match.

No clauses are no filter, one clause that is not among those that may not match is a filter as it
is, and anything else is a combination of the three lists.

Main statement: a compilation that succeeds answers this reading, at every depth.  In it, whatever
a negated node contributes may not match, and stays inside the combination of its chain; and
sorting keeps the order in every list, and neither loses nor doubles a clause.
-/
import SearchCriteria.Proofs.Compile.Reading

namespace SearchCriteria

open Numeric

namespace Reading

/-! ## Sorting visits -/

/-- A node's own clause in a filter. -/
def filterClause (config : Config) (node : Node) : Option Query :=
  node.field.bind fun field =>
    (together (leaves (Compile.filterLeaf config field) node.filterEntries)).map fun clause =>
      under config.nestedScoreMode field.path clause

/-- The clauses of a filter chain in their places. -/
def filterClauses (visits : List Visit) : Clauses Query where
  must := (visits.filter fun v => !v.owner.negating && !v.owner.isOr).map (·.clause)
  should := (visits.filter fun v => !v.owner.negating && v.owner.isOr).map (·.clause)
  mustNot := (visits.filter fun v => v.owner.negating).map (·.clause)

variable (config : Config)

lemma filterOccur_eq_must (node : Node) :
    decide ((Pass.filter config).occur node = .must) = (!node.negating && !node.isOr) := by
  cases h : node.isOr <;> cases hn : node.negating <;> simp [Pass.filter, h, hn]

lemma filterOccur_eq_should (node : Node) :
    decide ((Pass.filter config).occur node = .should) = (!node.negating && node.isOr) := by
  cases h : node.isOr <;> cases hn : node.negating <;> simp [Pass.filter, h, hn]

lemma filterOccur_eq_mustNot (node : Node) :
    decide ((Pass.filter config).occur node = .mustNot) = node.negating := by
  cases h : node.isOr <;> cases hn : node.negating <;> simp [Pass.filter, h, hn]

lemma arrange_filter (vs : List Visit) : (Pass.filter config).arrange vs = filterClauses vs := by
  have hfold := (Pass.filter config).foldl_take_of_not_holdsFirst rfl vs {}
  rw [Pass.foldl_route] at hfold
  simp only [filterOccur_eq_must, filterOccur_eq_should, filterOccur_eq_mustNot,
    List.nil_append] at hfold
  rw [Pass.arrange, hfold]
  rfl

/-- The own clause of a node has no boost in a filter. -/
lemma filterClause_of_compiled {node : Node} {own : Option Query}
    (h : (Pass.filter config).ownClause node = .ok own) : own = filterClause config node :=
  eq_under_of_ownClause h

/-! ## What becomes of the clauses -/

lemma sublist_filterClauses (vs : List Visit) (o : Occur) :
    ((filterClauses vs).of o).Sublist (vs.map (·.clause)) := by
  cases o <;> exact List.filter_sublist.map _

/-- A clause that may not match keeps its combination. -/
lemma outcome_of_mem_mustNot {cs : Clauses Query} {q : Query} (h : q ∈ cs.mustNot) :
    cs.outcome = some (.bool cs none) := by
  have hcount : cs.count ≠ 0 := by
    have hlength := List.length_pos_of_mem h
    rw [Clauses.count]
    omega
  rw [Clauses.outcome, if_neg hcount, if_neg fun hlone => List.ne_nil_of_mem h hlone.2]

end Reading

open Reading

namespace Criteria

/-- The reading of criteria as a filter. -/
def filterReading (config : Config) (criteria : Criteria) : Option Query :=
  Reading.read (filterClause config) filterClauses criteria

/-- The visits of a chain in the reading as a filter. -/
def filterVisits (config : Config) (criteria : Criteria) : List Visit :=
  visits (filterClause config) filterClauses criteria.chain

lemma filterReading_eq_outcome (config : Config) (c : Criteria) :
    c.filterReading config = (filterClauses (c.filterVisits config)).outcome := by
  obtain ⟨ns⟩ := c
  exact read_mk _ _ ns

/-- Both the own clause of a node and the readings of what is attached to it are visits that the
node owns. -/
lemma exists_filterVisit {config : Config} {c : Criteria} {n : Node} (hn : n ∈ c.chain) {q : Query}
    (hq : filterClause config n = some q ∨
      ∃ sub ∈ n.subCriteria, sub.filterReading config = some q) :
    ∃ v ∈ c.filterVisits config, v.owner = n ∧ v.clause = q := by
  have hvisit : ∀ v : Visit, v ∈ n.visits (filterClause config n)
      (readAll (filterClause config) filterClauses n.subCriteria) → v ∈ c.filterVisits config :=
    fun v hv => (mem_visits _ _).2 ⟨n, hn, hv⟩
  obtain hown | ⟨sub, hsub, hread⟩ := hq
  · exact ⟨⟨n, true, q⟩, hvisit _ (Node.mem_visits.2 ⟨rfl, .inl ⟨rfl, hown⟩⟩), rfl, rfl⟩
  · refine ⟨⟨n, false, q⟩, hvisit _ (Node.mem_visits.2 ⟨rfl, .inr ⟨rfl, ?_⟩⟩), rfl, rfl⟩
    rw [readAll_eq_map, ← hread]
    exact List.mem_map_of_mem hsub

/-- How the reading of a chain as a filter treats what the nodes of the chain contribute. -/
structure SortsFilters (config : Config) (c : Criteria) : Prop where
  /-- The own clause of a negated node, and each filter attached to it, is among the clauses that
  may not match, in a combination that is there to hold it. -/
  negated : ∀ n ∈ c.chain, n.negating = true → ∀ q,
    (filterClause config n = some q ∨ ∃ sub ∈ n.subCriteria, sub.filterReading config = some q) →
      ∃ cs, c.filterReading config = some (.bool cs none) ∧ q ∈ cs.mustNot
  /-- All visits are sorted, and none twice. -/
  perm : (filterClauses (c.filterVisits config)).toList.Perm
    ((c.filterVisits config).map (·.clause))
  /-- Every list is in visiting order. -/
  sublist : ∀ o, ((filterClauses (c.filterVisits config)).of o).Sublist
    ((c.filterVisits config).map (·.clause))

lemma sortsFilters (config : Config) (c : Criteria) : c.SortsFilters config where
  negated := by
    intro n hn hnegating q hq
    obtain ⟨v, hv, rfl, rfl⟩ := exists_filterVisit hn hq
    have hmem : v.clause ∈ (filterClauses (c.filterVisits config)).mustNot :=
      List.mem_map_of_mem (List.mem_filter.2 ⟨hv, hnegating⟩)
    exact ⟨_, by rw [filterReading_eq_outcome, outcome_of_mem_mustNot hmem], hmem⟩
  perm := by
    rw [← arrange_filter config]
    exact (Pass.filter config).perm_arrange _
  sublist := sublist_filterClauses _

/-- A compilation for the filter that succeeds answers the reading of the criteria, which keeps
what is negated apart and sorts in order, in the criteria and in all that are attached to it. -/
theorem compileFilter_eq_reading (config : Config) (criteria : Criteria) (r : Option Query)
    (h : (criteria.compileFilter config).result = .ok r) :
    r = criteria.filterReading config ∧ ∀ c : Criteria, c.SortsFilters config := by
  refine ⟨?_, sortsFilters config⟩
  rw [compileFilter, Compile.result_run] at h
  exact read_of_compiled (fun _ _ => filterClause_of_compiled config) (arrange_filter config) h

/-- Neither near one place nor near another. -/
def nearNeither : Criteria :=
  (anchorOr.attach [(((on (.named "a")).within (.text "u0") (.text "1km")).or (.named "b")).within
    (.text "u1") (.text "2km")]).not

/-- The negated alternative may not match, and the lone group keeps its combination. -/
theorem compileFilter_nearNeither :
    (nearNeither.compileFilter {}).result = .ok (nearNeither.filterReading {}) ∧
      nearNeither.filterReading {} = some (.bool {
        mustNot := [.bool {
          must := [.leaf (.geoDistance ⟨"a", "1km", .plane, .geohash "u0"⟩)]
          should := [.leaf (.geoDistance ⟨"b", "2km", .plane, .geohash "u1"⟩)] } none] } none) := by
  have hrun : (nearNeither.compileFilter {}).result = .ok (some (.bool {
      mustNot := [.bool {
        must := [.leaf (.geoDistance ⟨"a", "1km", .plane, .geohash "u0"⟩)]
        should := [.leaf (.geoDistance ⟨"b", "2km", .plane, .geohash "u1"⟩)] } none] } none)) := rfl
  obtain ⟨hread, -⟩ := compileFilter_eq_reading {} nearNeither _ hrun
  exact ⟨by rw [hrun, hread], hread.symm⟩

end Criteria

end SearchCriteria
