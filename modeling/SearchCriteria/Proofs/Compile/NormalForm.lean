/-
# Compiled queries are in normal form

Combinations come about in several places: the entries of a node are joined, some operators
compare by a combination of their own, clauses are negated, and the clauses of a chain end in a
combination.  Boosts and paths are put on top of some of them, and what comes of one chain becomes
a clause of another.

* `isFlat_queryLeaf` and `isFlat_filterLeaf`: the clause of an entry is in normal form;
* `isNormal_ownClause`: so is the own clause of a node;
* `isNormal_of_compiled`: and so is what a chain is compiled into.

The values in a compiled query are those of the entries, and its boosts are those of the nodes.
-/
import SearchCriteria.Proofs.Compile.Places
import SearchCriteria.Proofs.Compile.Simulation
import SearchCriteria.Proofs.Query.NormalForm

namespace SearchCriteria

open Numeric Outcome

/-! ## Values of entries -/

/-- The items of a list, or the value itself. -/
def Value.items : Value → List Value
  | list values => values
  | v => [v]

/-- The values that an entry compares with, one by one. -/
def Entry.items (entry : Entry) : List Value :=
  entry.value.toList.flatMap Value.items

lemma Value.items_of_isScalar {v : Value} (h : v.isScalar = true) : v.items = [v] := by
  cases v <;> first | rfl | cases h

lemma Entry.mem_items {entry : Entry} {v w : Value} (hvalue : entry.value = some w)
    (hv : v ∈ w.items) : v ∈ entry.items := by
  rw [items, hvalue]
  simpa using hv

/-! ## Ranges -/

namespace RangeLeaf

lemma bound_eq_some {v w : Value} (h : (v.isNull || v.isScalar) = true) (hw : bound v = some w) :
    w = v ∧ v.isScalar = true := by
  unfold bound at hw
  split_ifs at hw with hnull
  simp only [Bool.not_eq_true] at hnull
  rw [hnull, Bool.false_or] at h
  exact ⟨(Option.some.inj hw).symm, h⟩

lemma isProper_of_bounds_eq {r : RangeLeaf} {v : Value} (hv : v.isScalar = true)
    (hone : r.bounds = [v]) : r.IsProper := by
  have hlength : r.bounds.length = 1 := by rw [hone, List.length_singleton]
  simp only [bounds, List.length_append] at hlength
  -- Two bounds at one end would be two bounds.
  have hends : ∀ o o' : Option Value,
      o.toList.length + o'.toList.length ≤ 1 → o = none ∨ o' = none := by
    intro o o' h
    cases o <;> cases o' <;> simp at h ⊢
  refine ⟨by simp [hone], hends _ _ (by omega), hends _ _ (by omega), ?_⟩
  rw [hone]
  exact List.forall_mem_singleton.2 hv

end RangeLeaf

lemma Leaf.AsksForPlaces.inFilter {config : Config} {l : Leaf} (h : l.AsksForPlaces config) :
    l.InFilter := by
  cases l with
  | geoDistance q => exact Location.isValid_iff.2 h.1
  | geoBox q => exact ⟨Location.isValid_iff.2 h.1, Location.isValid_iff.2 h.2.1⟩
  | _ => exact h

namespace Compile

variable {field : Field} {entry : Entry} {q : Query} {boostOk : Binary32 → Prop}

/-! ## Clauses for the query -/

/-- A leaf clause for the query whose values are those of an entry. -/
def FitsEntry (entry : Entry) (l : Leaf) : Prop :=
  l.InQuery ∧ ∀ v ∈ l.values, v ∈ entry.items

lemma isFlat_queryString (text : String) (defaultOperator : Option MatchOperator)
    (analyzeWildcard : Bool) :
    (queryString field text defaultOperator analyzeWildcard).IsFlat (FitsEntry entry) boostOk :=
  Query.isFlat_leaf ⟨⟨field.name, rfl⟩, nofun⟩ rfl

lemma isFlat_present : (present field).IsFlat (FitsEntry entry) boostOk :=
  Query.isFlat_leaf ⟨trivial, nofun⟩ rfl

lemma isFlat_anyValue : (anyValue field).IsFlat (FitsEntry entry) boostOk :=
  Query.isFlat_leaf ⟨trivial, nofun⟩ rfl

lemma isFlat_escapedLeaf {wrap : String → Query} (h : escapedLeaf field entry wrap = .ok q)
    (hwrap : ∀ text, (wrap text).IsFlat (FitsEntry entry) boostOk) :
    q.IsFlat (FitsEntry entry) boostOk := by
  obtain ⟨text, rfl⟩ := escapedLeaf_eq_ok h
  exact hwrap text

lemma isFlat_textLeaf {wrap : String → Query} (h : textLeaf field entry wrap = .ok q)
    (hwrap : ∀ text, (wrap text).IsFlat (FitsEntry entry) boostOk) :
    q.IsFlat (FitsEntry entry) boostOk := by
  obtain ⟨text, rfl⟩ := textLeaf_eq_ok h
  exact hwrap text

/-- The range of an entry with one bound has that bound only. -/
lemma isFlat_boundLeaf {set : RangeLeaf → Value → RangeLeaf}
    (h : boundLeaf field entry set = .ok q)
    (hset : ∀ v, v.isScalar = true → (set (.unbounded field.name) v).bounds = [v])
    (hboost : ∀ v, (set (.unbounded field.name) v).boost = none) :
    q.IsFlat (FitsEntry entry) boostOk := by
  obtain ⟨v, hvalue, hscalar, rfl⟩ := boundLeaf_eq_ok h
  have hbounds := hset v hscalar
  refine Query.isFlat_leaf ⟨RangeLeaf.isProper_of_bounds_eq hscalar hbounds, ?_⟩ (hboost v)
  rw [Leaf.values, hbounds, List.forall_mem_singleton]
  exact Entry.mem_items hvalue (by rw [Value.items_of_isScalar hscalar]; exact .head _)

/-- Of the two bounds of a range, those that are not null are there. -/
lemma isFlat_rangeLeaf (h : rangeLeaf field entry = .ok q) :
    q.IsFlat (FitsEntry entry) boostOk := by
  obtain ⟨lower, upper, hvalue, hlower, hupper, hboth, rfl⟩ := rangeLeaf_eq_ok h
  have hbounds : (((RangeLeaf.unbounded field.name).withGte lower).withLte upper).bounds =
      (RangeLeaf.bound upper).toList ++ (RangeLeaf.bound lower).toList := by
    simp [RangeLeaf.bounds, RangeLeaf.withGte, RangeLeaf.withLte, RangeLeaf.unbounded]
  have hmem : ∀ v ∈ (RangeLeaf.bound upper).toList ++ (RangeLeaf.bound lower).toList,
      v ∈ [lower, upper] ∧ v.isScalar = true := by
    intro v hv
    rw [List.mem_append, Option.mem_toList, Option.mem_toList] at hv
    obtain hv | hv := hv
    · obtain ⟨rfl, hscalar⟩ := RangeLeaf.bound_eq_some hupper hv
      exact ⟨by simp, hscalar⟩
    · obtain ⟨rfl, hscalar⟩ := RangeLeaf.bound_eq_some hlower hv
      exact ⟨by simp, hscalar⟩
  refine Query.isFlat_leaf ⟨⟨?_, .inl rfl, .inl rfl, ?_⟩, ?_⟩ rfl
  · rw [hbounds]
    unfold RangeLeaf.bound
    cases hl : lower.isNull <;> cases hu : upper.isNull <;> simp [hl, hu] at hboth ⊢
  · rw [hbounds]
    exact fun v hv => (hmem v hv).2
  · rw [Leaf.values, hbounds]
    exact fun v hv => Entry.mem_items hvalue (hmem v hv).1

/-- The values of a keyword field are there, and other fields have a query string. -/
lemma isFlat_valuesLeaf {negated : Bool} (h : valuesLeaf field entry negated = .ok q) :
    q.IsFlat (FitsEntry entry) boostOk := by
  obtain ⟨values, texts, hvalue, hne, htexts, rfl⟩ := valuesLeaf_eq_ok h
  cases hkeyword : field.isKeyword with
  | false =>
    rw [if_neg Bool.false_ne_true]
    exact isFlat_queryString _ _ _
  | true =>
    rw [if_pos rfl]
    have hterms : (Query.leaf (.exactly ⟨field.name, values, none⟩)).IsFlat (FitsEntry entry)
        boostOk := by
      refine Query.isFlat_leaf ⟨⟨hne, Value.isScalar_of_mapM htexts⟩, ?_⟩ rfl
      exact fun v hv => Entry.mem_items hvalue hv
    cases negated with
    | false => exact hterms
    | true => exact hterms.negation

lemma isFlat_presentLeaf (h : presentLeaf field entry = .ok q) :
    q.IsFlat (FitsEntry entry) boostOk := by
  obtain rfl | rfl := presentLeaf_eq_ok h
  · exact isFlat_present
  · exact isFlat_present.negation

/-- The clause of an entry for the query is in normal form, and its values are those of the
entry. -/
theorem isFlat_queryLeaf (h : queryLeaf field entry = .ok q) :
    q.IsFlat (FitsEntry entry) boostOk := by
  unfold queryLeaf at h
  cases hop : entry.operator <;> rw [hop] at h
  case equals => exact isFlat_escapedLeaf h fun _ => isFlat_queryString _ _ _
  case contains => exact isFlat_escapedLeaf h fun _ => isFlat_queryString _ _ _
  case startsWith => exact isFlat_escapedLeaf h fun _ => isFlat_queryString _ _ _
  case endsWith => exact isFlat_escapedLeaf h fun _ => isFlat_queryString _ _ _
  case expression => exact isFlat_textLeaf h fun _ => isFlat_queryString _ _ _
  case less =>
    refine isFlat_boundLeaf h (fun v hv => ?_) fun v => rfl
    simp [RangeLeaf.bounds, RangeLeaf.withLt, RangeLeaf.unbounded, RangeLeaf.bound_of_isScalar hv]
  case lessEqual =>
    refine isFlat_boundLeaf h (fun v hv => ?_) fun v => rfl
    simp [RangeLeaf.bounds, RangeLeaf.withLte, RangeLeaf.unbounded, RangeLeaf.bound_of_isScalar hv]
  case greater =>
    refine isFlat_boundLeaf h (fun v hv => ?_) fun v => rfl
    simp [RangeLeaf.bounds, RangeLeaf.withGt, RangeLeaf.unbounded, RangeLeaf.bound_of_isScalar hv]
  case greaterEqual =>
    refine isFlat_boundLeaf h (fun v hv => ?_) fun v => rfl
    simp [RangeLeaf.bounds, RangeLeaf.withGte, RangeLeaf.unbounded, RangeLeaf.bound_of_isScalar hv]
  case between => exact isFlat_rangeLeaf h
  case fuzzy => exact isFlat_textLeaf h fun _ => Query.isFlat_leaf ⟨trivial, nofun⟩ rfl
  case matchesAny => exact isFlat_textLeaf h fun _ => Query.isFlat_leaf ⟨trivial, nofun⟩ rfl
  case matchesAll => exact isFlat_textLeaf h fun _ => Query.isFlat_leaf ⟨trivial, nofun⟩ rfl
  case oneOf => exact isFlat_valuesLeaf h
  case noneOf => exact isFlat_valuesLeaf h
  case regexp => exact isFlat_textLeaf h fun _ => Query.isFlat_leaf ⟨trivial, nofun⟩ rfl
  case present => exact isFlat_presentLeaf h
  case empty =>
    rw [← Except.ok.inj h]
    refine Query.isFlat_bool (.inl (by simp [Clauses.count])) ?_
    exact List.forall_mem_cons.2 ⟨isFlat_present, List.forall_mem_singleton.2 isFlat_anyValue⟩
  case notEmpty =>
    rw [← Except.ok.inj h]
    exact isFlat_anyValue
  case within => cases h
  case boundingBox => cases h

/-! ## Clauses for the filter -/

/-- The clause of an entry for the filter is in normal form, and asks for places. -/
theorem isFlat_filterLeaf {config : Config} (h : filterLeaf config field entry = .ok q) :
    q.IsFlat (Leaf.AsksForPlaces config) boostOk := by
  obtain ⟨l, hplaces, rfl⟩ := filterLeaf_eq_ok_iff.1 h
  refine Query.isFlat_leaf hplaces.asksForPlaces ?_
  cases hplaces <;> rfl

end Compile

/-! ## Clauses of nodes and chains -/

namespace Pass

variable {pass : Pass} {leafOk : Leaf → Prop} {boostOk : Binary32 → Prop} {q : Query}

/-- A node's own clause is in normal form if the clauses of its entries are, and its boost is in
order. -/
lemma isNormal_ownClause {node : Node} (h : pass.ownClause node = .ok (some q))
    (hleaf : ∀ field, ∀ entry ∈ pass.entries node, ∀ a, pass.leaf field entry = .ok a →
      a.IsFlat leafOk boostOk)
    (hset : ∀ l b, leafOk l → leafOk (l.setBoost b))
    (hboost : ∀ b, pass.boost node = some b → boostOk b) : q.IsNormal leafOk boostOk := by
  have hown := Reading.eq_under_of_ownClause h
  rw [eq_comm, Option.bind_eq_some_iff] at hown
  obtain ⟨field, -, hown⟩ := hown
  obtain ⟨clause, htogether, rfl⟩ := Option.map_eq_some_iff.1 hown
  have hleaves : ∀ a ∈ Reading.leaves (pass.leaf field) (pass.entries node),
      a.IsFlat leafOk boostOk := by
    intro a ha
    obtain ⟨entry, hentry, hsome⟩ := List.mem_filterMap.1 ha
    exact hleaf field entry hentry a (eq_ok_of_toOption hsome)
  exact ((Query.isFlat_of_together htogether hleaves).boosted (fun l => hset l _) hboost).under _ _

/-- What the clauses of a chain are compiled into is in normal form if the own clauses of all
nodes are. -/
theorem isNormal_of_compiled {c : Criteria} (h : pass.compiled Clauses.collapse c = .ok (some q))
    (hown : ∀ n ∈ c.allNodes, ∀ a, pass.ownClause n = .ok (some a) → a.IsNormal leafOk boostOk) :
    q.IsNormal leafOk boostOk := by
  -- The pass is compared with itself, and both results are in normal form.
  have hrel : Outcome.Rel (Option.Rel fun a b => a.IsNormal leafOk boostOk ∧ a = b)
      (pass.compiled Clauses.collapse c) (pass.compiled Clauses.collapse c) := by
    refine rel_compiled (.refl pass) (fun cs ds hcs => ?_) c fun n hn => ?_
    · obtain ⟨hclauses, rfl⟩ := hcs.forall_mem_and_eq
      cases hq : cs.collapse with
      | none => exact .none
      | some a => exact .some ⟨Query.isNormal_of_collapse hq hclauses, rfl⟩
    · cases hn' : pass.ownClause n with
      | error e => exact .error e
      | ok own =>
        cases own with
        | none => exact .ok .none
        | some a => exact .ok (.some ⟨hown n hn a hn', rfl⟩)
  rw [h] at hrel
  obtain ⟨⟨hq, -⟩⟩ := hrel
  exact hq

end Pass

/-! ## The two targets -/

namespace Criteria

/-- The values of the query entries, one by one, at every depth. -/
def queryItems (criteria : Criteria) : List Value :=
  criteria.allNodes.flatMap fun node => node.queryEntries.flatMap Entry.items

variable {config : Config} {c : Criteria} {q : Query}

/-- A compiled query is in normal form.  Its values are those of the query entries, and its boosts
are those of the nodes. -/
theorem isNormal_of_compileQuery (h : (c.compileQuery config).result = .ok (some q)) :
    q.IsNormal (fun l => l.InQuery ∧ ∀ v ∈ l.values, v ∈ c.queryItems)
      fun b => ∃ n ∈ c.allNodes, n.boost = some b := by
  rw [compileQuery, Compile.result_run] at h
  refine Pass.isNormal_of_compiled h fun n hn a ha => ?_
  refine Pass.isNormal_ownClause ha (fun field entry hentry a ha => ?_) (fun l b hl => ?_)
    fun b hb => ⟨n, hn, hb⟩
  · have hitems : ∀ v ∈ entry.items, v ∈ c.queryItems := fun v hv =>
      List.mem_flatMap.2 ⟨n, hn, List.mem_flatMap.2 ⟨entry, hentry, hv⟩⟩
    exact (Compile.isFlat_queryLeaf ha).mono fun l hl => ⟨hl.1, fun v hv => hitems v (hl.2 v hv)⟩
  · rw [Leaf.inQuery_setBoost, Leaf.values_setBoost]
    exact hl

/-- A compiled filter is in normal form, asks for places and has no boost. -/
theorem places_of_compileFilter (h : (c.compileFilter config).result = .ok (some q)) :
    q.IsNormal (Leaf.AsksForPlaces config) fun _ => False := by
  rw [compileFilter, Compile.result_run] at h
  refine Pass.isNormal_of_compiled h fun n hn a ha => ?_
  refine Pass.isNormal_ownClause ha (fun field entry _ a ha => Compile.isFlat_filterLeaf ha)
    (fun l b hl => ?_) nofun
  cases l <;> exact hl

/-- A compiled filter is in normal form, and has no boost. -/
theorem isNormal_of_compileFilter (h : (c.compileFilter config).result = .ok (some q)) :
    q.IsNormal Leaf.InFilter fun _ => False :=
  (places_of_compileFilter h).mono fun _ hl => hl.inFilter

end Criteria

end SearchCriteria
