/-
# Rebuilding queries

A query is rebuilt from its leaf clauses upwards: every leaf clause is replaced, a query on nested
documents is made anew of what it holds, and combinations stay as they are.

* `rebuild`: the general form, and `configured` and `eraseNesting`, its two uses: the first puts the
  score mode and the distance type of a configuration everywhere, the second leaves only what
  queries on nested documents hold;
* `Unnested`: nothing is about nested documents, at any depth;
* `nestedParts`: the parts that are about nested documents;
* `leafSites`: the leaf clauses of a query, each with the paths of nested documents around it.
-/
import SearchCriteria.Proofs.Query.Parts

namespace SearchCriteria

open Numeric

/-- A leaf clause with the distance type of a configuration. -/
def Leaf.configured (config : Config) : Leaf → Leaf
  | geoDistance q => geoDistance { q with distanceType := config.geoDistanceType }
  | l => l

/-- A leaf clause in a query, with what is around it. -/
structure LeafSite where
  /-- The paths of nested documents around the clause, the outer ones first. -/
  paths : List String
  /-- The clause. -/
  leaf : Leaf

namespace Query

section Rebuild

variable (onLeaf : Leaf → Leaf) (onNested : String → Query → ScoreMode → Query)

mutual

/-- The query with its leaf clauses replaced and its queries on nested documents made anew. -/
def rebuild : Query → Query
  | leaf l => leaf (onLeaf l)
  | bool ⟨must, should, mustNot⟩ b =>
    bool ⟨rebuildAll must, rebuildAll should, rebuildAll mustNot⟩ b
  | nested path q mode => onNested path (rebuild q) mode

/-- Several queries, rebuilt one by one. -/
def rebuildAll : List Query → List Query
  | [] => []
  | q :: qs => rebuild q :: rebuildAll qs

end

lemma rebuildAll_eq_map (qs : List Query) :
    rebuildAll onLeaf onNested qs = qs.map (rebuild onLeaf onNested) := by
  induction qs with
  | nil => rw [rebuildAll, List.map_nil]
  | cons q qs ih => rw [rebuildAll, ih, List.map_cons]

@[simp] lemma rebuild_leaf (l : Leaf) : rebuild onLeaf onNested (leaf l) = leaf (onLeaf l) := by
  rw [rebuild]

@[simp] lemma rebuild_bool (cs : Clauses Query) (b : Option Binary32) :
    rebuild onLeaf onNested (bool cs b) = bool (cs.map (rebuild onLeaf onNested)) b := by
  obtain ⟨must, should, mustNot⟩ := cs
  rw [rebuild, rebuildAll_eq_map, rebuildAll_eq_map, rebuildAll_eq_map, Clauses.map]

@[simp] lemma rebuild_nested (path : String) (q : Query) (mode : ScoreMode) :
    rebuild onLeaf onNested (nested path q mode) =
      onNested path (rebuild onLeaf onNested q) mode := by
  rw [rebuild]

end Rebuild

/-- The query with the score mode and the distance type of a configuration wherever there is one. -/
def configured (config : Config) : Query → Query :=
  rebuild (Leaf.configured config) fun path q _ => nested path q config.nestedScoreMode

/-- The query with every query on nested documents replaced by the query that it holds. -/
def eraseNesting : Query → Query :=
  rebuild id fun _ q _ => q

mutual

/-- The leaf clauses of a query that stands under some paths of nested documents. -/
def leafSites (paths : List String) : Query → List LeafSite
  | leaf l => [⟨paths, l⟩]
  | bool ⟨must, should, mustNot⟩ _ =>
    leafSitesOf paths must ++ leafSitesOf paths should ++ leafSitesOf paths mustNot
  | nested path q _ => leafSites (paths ++ [path]) q

/-- The leaf clauses of several queries. -/
def leafSitesOf (paths : List String) : List Query → List LeafSite
  | [] => []
  | q :: qs => leafSites paths q ++ leafSitesOf paths qs

end

lemma leafSitesOf_eq_flatMap (paths : List String) (qs : List Query) :
    leafSitesOf paths qs = qs.flatMap (leafSites paths) := by
  induction qs with
  | nil => rw [leafSitesOf, List.flatMap_nil]
  | cons q qs ih => rw [leafSitesOf, ih, List.flatMap_cons]

@[simp] lemma leafSites_bool (paths : List String) (cs : Clauses Query) (b : Option Binary32) :
    (bool cs b).leafSites paths = cs.toList.flatMap (leafSites paths) := by
  obtain ⟨must, should, mustNot⟩ := cs
  rw [leafSites, leafSitesOf_eq_flatMap, leafSitesOf_eq_flatMap, leafSitesOf_eq_flatMap,
    Clauses.toList, List.flatMap_append, List.flatMap_append]

@[simp] lemma leafSites_nested (paths : List String) (path : String) (q : Query)
    (mode : ScoreMode) : (nested path q mode).leafSites paths = q.leafSites (paths ++ [path]) := by
  rw [leafSites]

/-- The parts of a query that are about nested documents. -/
def nestedParts (q : Query) : List Query :=
  q.parts.filter isNested

@[simp] lemma nestedParts_bool (cs : Clauses Query) (b : Option Binary32) :
    (bool cs b).nestedParts = cs.toList.flatMap nestedParts := by
  rw [nestedParts, parts_bool, List.filter_cons_of_neg (by simp [isNested]), List.filter_flatMap]
  rfl

@[simp] lemma nestedParts_nested (path : String) (q : Query) (mode : ScoreMode) :
    (nested path q mode).nestedParts = nested path q mode :: q.nestedParts := by
  rw [nestedParts, parts_nested, List.filter_cons_of_pos rfl, nestedParts]

/-! ## Queries that are not about nested documents -/

/-- Nothing is about nested documents, at any depth. -/
def Unnested (q : Query) : Prop :=
  ∀ p ∈ q.parts, p.isNested = false

lemma Unnested.nestedParts_eq_nil {q : Query} (h : q.Unnested) : q.nestedParts = [] :=
  List.filter_eq_nil_iff.2 fun p hp => by simp [h p hp]

lemma Unnested.withBoost {q : Query} (h : q.Unnested) (b : Binary32) :
    (q.withBoost b).Unnested := by
  refine forall_parts_withBoost h ?_
  cases q with
  | leaf l => rfl
  | bool cs b' => rfl
  | nested path q mode => exact h _ (self_mem_parts _)

/-- Rebuilding changes nothing where it changes no leaf clause and nothing is nested. -/
lemma Unnested.rebuild_eq_self {onLeaf : Leaf → Leaf}
    {onNested : String → Query → ScoreMode → Query} {q : Query} (h : q.Unnested)
    (hleaf : ∀ l, leaf l ∈ q.parts → onLeaf l = l) :
    rebuild onLeaf onNested q = q := by
  induction q using Query.induction with
  | leaf l => rw [rebuild_leaf, hleaf l (self_mem_parts _)]
  | bool cs b ih =>
    have hclauses := (forall_parts_bool.1 h).2
    rw [rebuild_bool, Clauses.map_eq_self fun q hq => ih q hq (hclauses q hq) fun l hl => ?_]
    refine hleaf l ?_
    rw [parts_bool]
    exact .tail _ (List.mem_flatMap.2 ⟨q, hq, hl⟩)
  | nested path q mode => cases h _ (self_mem_parts _)

/-- A boost and a rebuilding do not get into each other's way where nothing is nested. -/
lemma rebuild_withBoost {onLeaf : Leaf → Leaf} {onNested : String → Query → ScoreMode → Query}
    (hset : ∀ b l, onLeaf (l.setBoost b) = (onLeaf l).setBoost b) {q : Query} (h : q.Unnested)
    (b : Binary32) :
    rebuild onLeaf onNested (q.withBoost b) = (rebuild onLeaf onNested q).withBoost b := by
  cases q with
  | leaf l => rw [withBoost, rebuild_leaf, rebuild_leaf, hset, withBoost]
  | bool cs b' => rw [withBoost, rebuild_bool, rebuild_bool, withBoost]
  | nested path q mode => cases h _ (self_mem_parts _)

end Query

lemma Leaf.configured_setBoost (config : Config) (b : Option Binary32) (l : Leaf) :
    (l.setBoost b).configured config = (l.configured config).setBoost b := by
  cases l <;> rfl

end SearchCriteria
