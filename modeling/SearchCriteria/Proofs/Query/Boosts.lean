/-
# Boosts in queries

Where boosts stand in a query, and the query without them.

* `eraseBoosts`: the query without its boosts, at every depth;
* `boostSites`: the boosts of a query at every depth, each with the clause that carries it and the
  paths of nested documents around this clause;
* `Unboosted`: there is no boost, so that nothing is erased and there is no site.
-/
import SearchCriteria.Proofs.Query.Parts

namespace SearchCriteria

open Numeric

namespace Leaf

@[simp] lemma setBoost_setBoost (b b' : Option Binary32) (l : Leaf) :
    (l.setBoost b').setBoost b = l.setBoost b := by
  cases l <;> rfl

lemma setBoost_none_eq_self {l : Leaf} (h : l.boost = none) : l.setBoost none = l := by
  cases l <;> first | rfl | (simp only [boost] at h; simp only [setBoost, ← h])

end Leaf

/-- A boost in a query. -/
structure BoostSite where
  /-- The paths of nested documents around the clause, the outer ones first. -/
  paths : List String
  /-- The boost. -/
  boost : Binary32
  /-- The clause that carries the boost, without it. -/
  clause : Query

namespace Query

mutual

/-- The query without its boosts, at every depth. -/
def eraseBoosts : Query → Query
  | leaf l => leaf (l.setBoost none)
  | bool ⟨must, should, mustNot⟩ _ =>
    bool ⟨eraseBoostsOf must, eraseBoostsOf should, eraseBoostsOf mustNot⟩ none
  | nested path q mode => nested path (eraseBoosts q) mode

/-- Several queries without their boosts. -/
def eraseBoostsOf : List Query → List Query
  | [] => []
  | q :: qs => eraseBoosts q :: eraseBoostsOf qs

end

mutual

/-- The boosts in a query that stands under some paths of nested documents. -/
def boostSites (paths : List String) : Query → List BoostSite
  | leaf l => l.boost.toList.map fun b => ⟨paths, b, leaf (l.setBoost none)⟩
  | bool ⟨must, should, mustNot⟩ boost =>
    (boost.toList.map fun b => ⟨paths, b, bool ⟨must, should, mustNot⟩ none⟩) ++
      (boostSitesOf paths must ++ boostSitesOf paths should ++ boostSitesOf paths mustNot)
  | nested path q _ => boostSites (paths ++ [path]) q

/-- The boosts in several queries. -/
def boostSitesOf (paths : List String) : List Query → List BoostSite
  | [] => []
  | q :: qs => boostSites paths q ++ boostSitesOf paths qs

end

lemma eraseBoostsOf_eq_map (qs : List Query) : eraseBoostsOf qs = qs.map eraseBoosts := by
  induction qs with
  | nil => rw [eraseBoostsOf, List.map_nil]
  | cons q qs ih => rw [eraseBoostsOf, ih, List.map_cons]

@[simp] lemma eraseBoosts_leaf (l : Leaf) : (leaf l).eraseBoosts = leaf (l.setBoost none) := by
  rw [eraseBoosts]

@[simp] lemma eraseBoosts_bool (cs : Clauses Query) (b : Option Binary32) :
    (bool cs b).eraseBoosts = bool ⟨cs.must.map eraseBoosts, cs.should.map eraseBoosts,
      cs.mustNot.map eraseBoosts⟩ none := by
  obtain ⟨must, should, mustNot⟩ := cs
  rw [eraseBoosts, eraseBoostsOf_eq_map, eraseBoostsOf_eq_map, eraseBoostsOf_eq_map]

@[simp] lemma eraseBoosts_nested (path : String) (q : Query) (mode : ScoreMode) :
    (nested path q mode).eraseBoosts = nested path q.eraseBoosts mode := by
  rw [eraseBoosts]

lemma boostSitesOf_eq_flatMap (paths : List String) (qs : List Query) :
    boostSitesOf paths qs = qs.flatMap (boostSites paths) := by
  induction qs with
  | nil => rw [boostSitesOf, List.flatMap_nil]
  | cons q qs ih => rw [boostSitesOf, ih, List.flatMap_cons]

@[simp] lemma boostSites_leaf (paths : List String) (l : Leaf) :
    (leaf l).boostSites paths =
      l.boost.toList.map fun b => ⟨paths, b, leaf (l.setBoost none)⟩ := by
  rw [boostSites]

@[simp] lemma boostSites_bool (paths : List String) (cs : Clauses Query) (b : Option Binary32) :
    (bool cs b).boostSites paths =
      (b.toList.map fun b => ⟨paths, b, bool cs none⟩) ++ cs.toList.flatMap (boostSites paths) := by
  obtain ⟨must, should, mustNot⟩ := cs
  rw [boostSites, boostSitesOf_eq_flatMap, boostSitesOf_eq_flatMap, boostSitesOf_eq_flatMap,
    Clauses.toList, List.flatMap_append, List.flatMap_append]

@[simp] lemma boostSites_nested (paths : List String) (path : String) (q : Query)
    (mode : ScoreMode) :
    (nested path q mode).boostSites paths = q.boostSites (paths ++ [path]) := by
  rw [boostSites]

/-! ## Queries without boosts -/

/-- There is no boost, at any depth. -/
def Unboosted (q : Query) : Prop :=
  ∀ p ∈ q.parts, p.boost = none

/-- Nothing is erased where there is no boost. -/
lemma Unboosted.eraseBoosts_eq_self {q : Query} (h : q.Unboosted) : q.eraseBoosts = q := by
  induction q using Query.induction with
  | leaf l =>
    have hl : l.boost = none := forall_parts_leaf.1 h
    rw [eraseBoosts_leaf, Leaf.setBoost_none_eq_self hl]
  | bool cs b ih =>
    obtain ⟨hb, hclauses⟩ := forall_parts_bool.1 h
    have hsame : ∀ q ∈ cs.toList, q.eraseBoosts = q := fun q hq => ih q hq (hclauses q hq)
    obtain ⟨must, should, mustNot⟩ := cs
    obtain rfl : b = none := hb
    simp only [Clauses.toList, List.forall_mem_append] at hsame
    rw [eraseBoosts_bool, List.map_congr_left hsame.1.1, List.map_congr_left hsame.1.2,
      List.map_congr_left hsame.2, List.map_id', List.map_id', List.map_id']
  | nested path q mode ih => rw [eraseBoosts_nested, ih (forall_parts_nested.1 h).2]

lemma Unboosted.boostSites_eq_nil {q : Query} (h : q.Unboosted) (paths : List String) :
    q.boostSites paths = [] := by
  induction q using Query.induction generalizing paths with
  | leaf l =>
    have hl : l.boost = none := forall_parts_leaf.1 h
    rw [boostSites_leaf, hl]
    rfl
  | bool cs b ih =>
    obtain ⟨hb, hclauses⟩ := forall_parts_bool.1 h
    obtain rfl : b = none := hb
    rw [boostSites_bool]
    exact List.flatMap_eq_nil_iff.2 fun q hq => ih q hq (hclauses q hq) paths
  | nested path q mode ih => rw [boostSites_nested, ih (forall_parts_nested.1 h).2]

/-- A boost that is given to a query is erased with all others. -/
lemma eraseBoosts_withBoost (b : Binary32) (q : Query) :
    (q.withBoost b).eraseBoosts = q.eraseBoosts := by
  cases q with
  | leaf l => rw [withBoost, eraseBoosts_leaf, eraseBoosts_leaf, Leaf.setBoost_setBoost]
  | bool cs b' => rw [withBoost, eraseBoosts_bool, eraseBoosts_bool]
  | nested path q mode => rfl

end Query

end SearchCriteria
