/-
# What a compiled query says of the criteria

The declarative reading of criteria as a query.  It lists the visits of a chain and sorts them:

* a node's own clause joins the leaves of its entries, gets the node's boost, and is put under the
  path of the node's field;
* the first own clause of the chain is set aside;
* every other clause goes, in visiting order, to the alternatives if its owner is one, else to the
  clauses that may not match if its owner is negated, else to those that have to match;
* the clause set aside goes in front: of the alternatives if all other clauses are alternatives,
  else of the clauses that may not match if its node is negated, else of those that have to match.

No clauses are no query, one clause that is not in the last list is a query as it is, and anything
else is a combination of the three lists.

Main statement: a compilation that succeeds answers this reading, at every depth.
-/
import Mathlib.Data.List.Basic
import SearchCriteria.Criteria.Builder
import SearchCriteria.Proofs.Compile.Visits

namespace SearchCriteria

open Numeric Outcome

/-! ## Queries of clauses -/

/-- The query of sorted clauses. -/
def Clauses.outcome (cs : Clauses Query) : Option Query :=
  if cs.count = 0 then none
  else if cs.count = 1 ∧ cs.mustNot = [] then (cs.must ++ cs.should).head?
  else some (.bool cs none)

/-- One clause that is not among those that may not match stands alone in its list. -/
lemma Clauses.eq_of_lone {cs : Clauses Query} (hcount : cs.count = 1) (hmustNot : cs.mustNot = []) :
    (∃ q, cs = { must := [q] }) ∨ ∃ q, cs = { should := [q] } := by
  obtain ⟨must, should, mustNot⟩ := cs
  obtain rfl : mustNot = [] := hmustNot
  match must, should, hcount with
  | [q], [], _ => exact .inl ⟨q, rfl⟩
  | [], [q], _ => exact .inr ⟨q, rfl⟩
  | [], [], h => simp [count] at h
  | _ :: _, _ :: _, h => simp [count] at h; omega
  | _ :: _ :: _, [], h => simp [count] at h
  | [], _ :: _ :: _, h => simp [count] at h

lemma Clauses.collapse_eq_outcome (cs : Clauses Query) : cs.collapse = cs.outcome := by
  unfold collapse
  split
  · rfl
  · rfl
  · rfl
  · rename_i hnone hmust hshould
    have hcount : cs.count ≠ 0 := by
      intro h
      obtain ⟨must, should, mustNot⟩ := cs
      simp only [count, Nat.add_eq_zero_iff, List.length_eq_zero_iff] at h
      obtain ⟨⟨rfl, rfl⟩, rfl⟩ := h
      exact hnone rfl
    have hlone : ¬(cs.count = 1 ∧ cs.mustNot = []) := by
      rintro ⟨h, hm⟩
      obtain ⟨q, rfl⟩ | ⟨q, rfl⟩ := eq_of_lone h hm
      · exact hmust q rfl
      · exact hshould q rfl
    rw [outcome, if_neg hcount, if_neg hlone]

/-! ## Own clauses -/

namespace Reading

/-- The leaves of the entries that have one. -/
def leaves (leaf : Entry → Except CriteriaError Query) (entries : List Entry) : List Query :=
  entries.filterMap fun entry => (leaf entry).toOption

/-- A lone clause as it is, or several clauses that all have to match. -/
def together : List Query → Option Query
  | [] => none
  | [q] => some q
  | qs => some (.bool { must := qs } none)

/-- A clause with the boost of its node. -/
def boosted : Option Binary32 → Query → Query
  | none, q => q
  | some b, q => q.withBoost b

/-- A clause under the path of its node's field. -/
def under (mode : ScoreMode) : Option String → Query → Query
  | none, q => q
  | some path, q => .nested path q mode

/-- A node's own clause in a query. -/
def ownClause (config : Config) (node : Node) : Option Query :=
  node.field.bind fun field =>
    (together (leaves (Compile.queryLeaf field) node.queryEntries)).map fun clause =>
      under config.nestedScoreMode field.path (boosted node.boost clause)

/-! ## Sorting visits -/

/-- The clauses of a query chain in their places. -/
def queryClauses (visits : List Visit) : Clauses Query :=
  let others := visits.eraseP (·.isOwn)
  let sorted : Clauses Query := {
    must := (others.filter fun v => !v.owner.isOr && !v.owner.negating).map (·.clause)
    should := (others.filter fun v => v.owner.isOr).map (·.clause)
    mustNot := (others.filter fun v => !v.owner.isOr && v.owner.negating).map (·.clause) }
  match visits.find? (·.isOwn) with
  | none => sorted
  | some aside =>
    if sorted.should ≠ [] ∧ sorted.must = [] ∧ sorted.mustNot = [] then
      { sorted with should := aside.clause :: sorted.should }
    else if aside.owner.negating then
      { sorted with mustNot := aside.clause :: sorted.mustNot }
    else { sorted with must := aside.clause :: sorted.must }

variable (own : Node → Option Query) (arrange : List Visit → Clauses Query)

mutual

/-- The reading of a chain, given the own clauses of nodes and the places of visits. -/
def read : Criteria → Option Query
  | ⟨chain⟩ => (arrange (visits chain)).outcome

/-- The visits of a chain, the criteria attached to its nodes being read. -/
def visits : List Node → List Visit
  | [] => []
  | ⟨field, conjunction, negating, boost, queryEntries, filterEntries, subs⟩ :: rest =>
    let node : Node :=
      ⟨field, conjunction, negating, boost, queryEntries, filterEntries, subs⟩
    node.visits (own node) (readAll subs) ++ visits rest

/-- The readings of several chains. -/
def readAll : List Criteria → List (Option Query)
  | [] => []
  | criteria :: rest => read criteria :: readAll rest

end

lemma read_mk (chain : List Node) :
    read own arrange ⟨chain⟩ = (arrange (visits own arrange chain)).outcome := by
  rw [read]

@[simp] lemma visits_nil : visits own arrange [] = [] := by
  rw [visits]

@[simp] lemma visits_cons (node : Node) (rest : List Node) :
    visits own arrange (node :: rest) =
      node.visits (own node) (readAll own arrange node.subCriteria) ++
        visits own arrange rest := by
  cases node
  rw [visits]

lemma readAll_eq_map (cs : List Criteria) :
    readAll own arrange cs = cs.map (read own arrange) := by
  induction cs with
  | nil => rw [readAll, List.map_nil]
  | cons c cs ih => rw [readAll, ih, List.map_cons]

lemma mem_visits {ns : List Node} {v : Visit} :
    v ∈ visits own arrange ns ↔
      ∃ n ∈ ns, v ∈ n.visits (own n) (readAll own arrange n.subCriteria) := by
  induction ns with
  | nil => simp
  | cons n ns ih => simp [ih]

end Reading

lemma Node.mem_visits {node : Node} {own : Option Query} {attached : List (Option Query)}
    {v : Visit} :
    v ∈ node.visits own attached ↔ v.owner = node ∧
      (v.isOwn = true ∧ own = some v.clause ∨ v.isOwn = false ∧ some v.clause ∈ attached) := by
  obtain ⟨owner, isOwn, clause⟩ := v
  cases isOwn <;> simp [visits, eq_comm, and_comm]

/-! ## Own clauses of a pass -/

namespace Pass

variable (pass : Pass)

lemma finish_eq (n : Node) (field : Field) (leaves : List Query) :
    pass.finish n field leaves =
      Reading.under pass.mode field.path (Reading.boosted (pass.boost n) (join leaves)) := by
  rw [finish]
  cases pass.boost n <;> cases field.path <;> rfl

/-- Where all entries of a node have leaves, its own clause joins them. -/
lemma ownClause_of_leaves {n : Node} {field : Field} {leaves : List Query}
    (hfield : n.field = some field) (hentries : pass.entries n ≠ [])
    (hleaves : (pass.entries n).mapM (pass.leaf field) = .ok leaves) :
    pass.ownClause n = .ok (some (Reading.under pass.mode field.path
      (Reading.boosted (pass.boost n) (join leaves)))) := by
  rw [ownClause, ← finish_eq]
  cases he : pass.entries n with
  | nil => exact absurd he hentries
  | cons first rest =>
    rw [he] at hleaves
    simp only [hfield, hleaves, ok_bind]

end Pass

/-! ## The places of visits -/

namespace Pass

variable (pass : Pass)

/-- Puts the clause of a visit behind those of its owner's occurrence. -/
def route (cs : Clauses Query) (visit : Visit) : Clauses Query :=
  cs.push (pass.occur visit.owner) visit.clause

/-- Routing visits appends to each list the visits of that occurrence, in order. -/
lemma of_foldl_route (vs : List Visit) (cs : Clauses Query) (o : Occur) :
    (vs.foldl pass.route cs).of o =
      cs.of o ++ (vs.filter fun v => pass.occur v.owner = o).map (·.clause) := by
  induction vs generalizing cs with
  | nil => simp
  | cons v vs ih =>
    rw [List.foldl_cons, ih, route]
    by_cases h : pass.occur v.owner = o
    · subst h
      simp
    · rw [Clauses.of_push_ne _ (Ne.symm h)]
      simp [h]

lemma foldl_route (vs : List Visit) (cs : Clauses Query) :
    vs.foldl pass.route cs = {
      must := cs.must ++ (vs.filter fun v => pass.occur v.owner = .must).map (·.clause)
      should := cs.should ++ (vs.filter fun v => pass.occur v.owner = .should).map (·.clause)
      mustNot := cs.mustNot ++
        (vs.filter fun v => pass.occur v.owner = .mustNot).map (·.clause) } := by
  have hmust := pass.of_foldl_route vs cs .must
  have hshould := pass.of_foldl_route vs cs .should
  have hmustNot := pass.of_foldl_route vs cs .mustNot
  generalize vs.foldl pass.route cs = ds at hmust hshould hmustNot
  obtain ⟨must, should, mustNot⟩ := ds
  simp only [Clauses.of] at hmust hshould hmustNot
  rw [hmust, hshould, hmustNot]

/-- Once a clause is held back, all others are routed. -/
lemma foldl_take_of_held (vs : List Visit) (held : Query × Bool) (cs : Clauses Query) :
    vs.foldl pass.take ⟨some held, cs⟩ = ⟨some held, vs.foldl pass.route cs⟩ := by
  induction vs generalizing cs with
  | nil => rfl
  | cons v vs ih =>
    have h : pass.take ⟨some held, cs⟩ v = ⟨some held, pass.route cs v⟩ := by
      simp [take, route]
    rw [List.foldl_cons, List.foldl_cons, h, ih]

/-- A pass that holds back clauses takes the first own one out of the visits. -/
lemma foldl_take_of_holdsFirst (hold : pass.holdsFirst = true) (vs : List Visit)
    (cs : Clauses Query) :
    vs.foldl pass.take ⟨none, cs⟩ =
      ⟨(vs.find? (·.isOwn)).map fun v => (v.clause, v.owner.negating),
        (vs.eraseP (·.isOwn)).foldl pass.route cs⟩ := by
  induction vs generalizing cs with
  | nil => rfl
  | cons v vs ih =>
    -- The first own clause is held back here, or is still to come.
    by_cases hown : v.isOwn = true
    · have h : pass.take ⟨none, cs⟩ v = ⟨some (v.clause, v.owner.negating), cs⟩ := by
        simp [take, hold, hown]
      rw [List.foldl_cons, h, foldl_take_of_held]
      simp [hown]
    · have h : pass.take ⟨none, cs⟩ v = ⟨none, pass.route cs v⟩ := by
        simp [take, route, hown]
      rw [List.foldl_cons, h, ih]
      simp [hown]

/-- A pass that holds back nothing routes all visits. -/
lemma foldl_take_of_not_holdsFirst (hold : pass.holdsFirst = false) (vs : List Visit)
    (cs : Clauses Query) :
    vs.foldl pass.take ⟨none, cs⟩ = ⟨none, vs.foldl pass.route cs⟩ := by
  induction vs generalizing cs with
  | nil => rfl
  | cons v vs ih =>
    have h : pass.take ⟨none, cs⟩ v = ⟨none, pass.route cs v⟩ := by
      simp [take, route, hold]
    rw [List.foldl_cons, h, ih, List.foldl_cons]

end Pass

namespace Reading

lemma occur_eq_must (config : Config) (node : Node) :
    decide ((Pass.query config).occur node = .must) = (!node.isOr && !node.negating) := by
  cases h : node.isOr <;> cases hn : node.negating <;> simp [Pass.query, h, hn]

lemma occur_eq_should (config : Config) (node : Node) :
    decide ((Pass.query config).occur node = .should) = node.isOr := by
  cases h : node.isOr <;> cases hn : node.negating <;> simp [Pass.query, h, hn]

lemma occur_eq_mustNot (config : Config) (node : Node) :
    decide ((Pass.query config).occur node = .mustNot) = (!node.isOr && node.negating) := by
  cases h : node.isOr <;> cases hn : node.negating <;> simp [Pass.query, h, hn]

/-- The pass for the query puts visits where the reading has them. -/
lemma arrange_query (config : Config) (vs : List Visit) :
    (Pass.query config).arrange vs = queryClauses vs := by
  have hfold := (Pass.query config).foldl_take_of_holdsFirst rfl vs {}
  rw [Pass.foldl_route] at hfold
  simp only [occur_eq_must, occur_eq_should, occur_eq_mustNot, List.nil_append] at hfold
  rw [Pass.arrange, hfold, queryClauses]
  cases vs.find? (·.isOwn) with
  | none => rfl
  | some aside =>
    simp only [Option.map_some, Walk.arranged, Walk.heldOccur, Clauses.isShouldOnly_iff]
    split_ifs <;> rfl

/-! ## The reading of a compilation that succeeds -/

lemma together_eq_join {qs : List Query} (h : qs ≠ []) : together qs = some (Pass.join qs) := by
  match qs, h with
  | [q], _ => rfl
  | _ :: _ :: _, _ => rfl

lemma together_leaves {leaf : Entry → Except CriteriaError Query} {entries : List Entry}
    {qs : List Query} (h : entries.mapM leaf = .ok qs) (hne : entries ≠ []) :
    together (leaves leaf entries) = some (Pass.join qs) := by
  rw [leaves, filterMap_of_mapM h, together_eq_join (ne_nil_of_mapM h hne)]

/-- What a pass makes of a node's entries: their leaves together, with the boost of the node, under
the path of its field. -/
lemma eq_under_of_ownClause {pass : Pass} {node : Node} {own : Option Query}
    (h : pass.ownClause node = .ok own) :
    own = node.field.bind fun field =>
      (together (leaves (pass.leaf field) (pass.entries node))).map fun clause =>
        under pass.mode field.path (boosted (pass.boost node) clause) := by
  rw [Pass.ownClause] at h
  cases he : pass.entries node with
  | nil =>
    rw [he] at h
    cases hf : node.field with
    | none => simpa using h.symm
    | some field => simpa [leaves, together] using h.symm
  | cons first rest =>
    rw [he] at h
    cases hf : node.field with
    | none => simp [hf] at h
    | some field =>
      simp only [hf] at h
      obtain ⟨qs, hqs, h⟩ := bind_eq_ok_iff.1 h
      rw [← Except.ok.inj h, Option.bind_some, together_leaves hqs (List.cons_ne_nil _ _),
        Pass.finish_eq, Option.map_some]

lemma ownClause_of_compiled {config : Config} {node : Node} {own : Option Query}
    (h : (Pass.query config).ownClause node = .ok own) : own = ownClause config node :=
  eq_under_of_ownClause h

section Compiled

variable {pass : Pass} {own : Node → Option Query} {arrange : List Visit → Clauses Query}
  (hown : ∀ node r, pass.ownClause node = .ok r → r = own node)
  (harrange : ∀ vs, pass.arrange vs = arrange vs)

/-- Criteria attached to a node, given that each of them is read as it is compiled. -/
lemma readAll_of_compiledAll {cs : List Criteria}
    (ih : ∀ c ∈ cs, ∀ r, pass.compiled Clauses.collapse c = .ok r → r = read own arrange c)
    {rs : List (Option Query)} (h : pass.compiledAll Clauses.collapse cs = .ok rs) :
    rs = readAll own arrange cs := by
  rw [readAll_eq_map]
  induction cs generalizing rs with
  | nil =>
    rw [Pass.compiledAll_nil] at h
    exact (Except.ok.inj h).symm
  | cons c cs ihs =>
    obtain ⟨hc, hcs⟩ := List.forall_mem_cons.1 ih
    rw [Pass.compiledAll_cons] at h
    obtain ⟨r, hr, h⟩ := bind_eq_ok_iff.1 h
    obtain ⟨rest, hrest, h⟩ := bind_eq_ok_iff.1 h
    rw [← Except.ok.inj h, hc r hr, ihs hcs hrest, List.map_cons]

include hown in
/-- The visits of a chain, given that all criteria attached to its nodes are read as they are
compiled. -/
lemma visits_of_compiled {ns : List Node}
    (ih : ∀ n ∈ ns, ∀ c ∈ n.subCriteria,
      ∀ r, pass.compiled Clauses.collapse c = .ok r → r = read own arrange c)
    {vs : List Visit} (h : pass.visits Clauses.collapse ns = .ok vs) :
    vs = visits own arrange ns := by
  induction ns generalizing vs with
  | nil =>
    rw [Pass.visits_nil] at h
    rw [← Except.ok.inj h, visits_nil]
  | cons n ns ihs =>
    obtain ⟨hn, hns⟩ := List.forall_mem_cons.1 ih
    rw [Pass.visits_cons] at h
    obtain ⟨r, hr, h⟩ := bind_eq_ok_iff.1 h
    obtain ⟨rs, hrs, h⟩ := bind_eq_ok_iff.1 h
    obtain ⟨later, hlater, h⟩ := bind_eq_ok_iff.1 h
    rw [← Except.ok.inj h, visits_cons, hown n r hr, readAll_of_compiledAll hn hrs,
      ihs hns hlater]

include hown harrange in
/-- A compilation that succeeds answers the reading, for every pass whose own clauses and places
are those of the reading. -/
theorem read_of_compiled {c : Criteria} {r : Option Query}
    (h : pass.compiled Clauses.collapse c = .ok r) : r = read own arrange c := by
  induction c using Criteria.induction generalizing r with
  | step ns ih =>
    rw [Pass.compiled_mk] at h
    obtain ⟨vs, hvs, h⟩ := bind_eq_ok_iff.1 h
    have hvisits : vs = visits own arrange ns :=
      visits_of_compiled hown (fun n hn c hc r hr => ih n hn c hc hr) hvs
    rw [← Except.ok.inj h, Clauses.collapse_eq_outcome, harrange, hvisits, read_mk]

end Compiled

end Reading

/-- The reading of criteria as a query. -/
def Criteria.queryReading (config : Config) (criteria : Criteria) : Option Query :=
  Reading.read (Reading.ownClause config) Reading.queryClauses criteria

/-- A compilation for the query that succeeds answers the reading of the criteria. -/
theorem Criteria.compileQuery_eq_reading (config : Config) (criteria : Criteria)
    (r : Option Query) (h : (criteria.compileQuery config).result = .ok r) :
    r = criteria.queryReading config := by
  rw [compileQuery, Compile.result_run] at h
  exact Reading.read_of_compiled (fun _ _ => Reading.ownClause_of_compiled)
    (Reading.arrange_query config) h

/-- A group of two alternatives in front of a negated node and an alternative. -/
def Criteria.groupFirst : Criteria :=
  ((anchor.attach [((on (.named "a")).present.or (.named "b")).present]).and
    (.named "c")).present.not.or (.named "d") |>.present

/-- The group is not held back although it comes first; the first own clause is, and goes to the
clauses that may not match. -/
theorem Criteria.compileQuery_groupFirst :
    (groupFirst.compileQuery {}).result = .ok (groupFirst.queryReading {}) ∧
      groupFirst.queryReading {} = some (.bool {
        must := [.bool { should := [.leaf (.present "a"), .leaf (.present "b")] } none]
        should := [.leaf (.present "d")]
        mustNot := [.leaf (.present "c")] } none) := by
  have hrun : (groupFirst.compileQuery {}).result = .ok (some (.bool {
      must := [.bool { should := [.leaf (.present "a"), .leaf (.present "b")] } none]
      should := [.leaf (.present "d")]
      mustNot := [.leaf (.present "c")] } none)) := rfl
  have hread := compileQuery_eq_reading {} groupFirst _ hrun
  exact ⟨by rw [hrun, hread], hread.symm⟩

end SearchCriteria
