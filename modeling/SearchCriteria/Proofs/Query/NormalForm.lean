/-
# The normal form of queries

A query is in normal form if, at every depth,

* a combination has at least two clauses, or a lone one that may not match;
* a query on nested documents holds no query on nested documents;
* leaf clauses and boosts satisfy what is asked of them.

What is asked of leaf clauses depends on the purpose of the query.  In a query for the score, ranges
and lists of values compare with scalars, and nothing is geographic; in a filter everything is.
-/
import SearchCriteria.Proofs.Compile.Accepted
import SearchCriteria.Proofs.Compile.Reading
import SearchCriteria.Proofs.Query.Parts

namespace SearchCriteria

open Numeric

/-! ## Leaf clauses -/

/-- The bounds of a range. -/
def RangeLeaf.bounds (r : RangeLeaf) : List Value :=
  r.lt.toList ++ r.lte.toList ++ r.gt.toList ++ r.gte.toList

/-- A range has a bound, at most one at each end, and all bounds are scalars; null is none. -/
structure RangeLeaf.IsProper (r : RangeLeaf) : Prop where
  /-- There is a bound. -/
  bounded : r.bounds ≠ []
  /-- The upper end has no two bounds. -/
  upper : r.lt = none ∨ r.lte = none
  /-- The lower end has no two bounds. -/
  lower : r.gt = none ∨ r.gte = none
  /-- Bounds are scalars. -/
  scalar : ∀ v ∈ r.bounds, v.isScalar = true

namespace Leaf

/-- The values that a leaf clause compares with. -/
def values : Leaf → List Value
  | range r => r.bounds
  | exactly q => q.values
  | _ => []

/-- What is asked of the leaf clauses of a query for the score: there is one field to search,
ranges are proper, lists of values have values, all of them scalars, and no clause is
geographic. -/
def InQuery : Leaf → Prop
  | queryString q => ∃ field, q.fields = [field]
  | range r => r.IsProper
  | exactly q => q.values ≠ [] ∧ ∀ v ∈ q.values, v.isScalar = true
  | geoDistance _ => False
  | geoBox _ => False
  | _ => True

/-- What is asked of the leaf clauses of a filter: they are geographic, and the locations are
valid. -/
def InFilter : Leaf → Prop
  | geoDistance q => q.location.IsValid
  | geoBox q => q.topLeft.IsValid ∧ q.bottomRight.IsValid
  | _ => False

lemma inQuery_setBoost {boost : Option Binary32} {l : Leaf} :
    (l.setBoost boost).InQuery ↔ l.InQuery := by
  cases l with
  | range r =>
    constructor
    · exact fun ⟨bounded, upper, lower, scalar⟩ => ⟨bounded, upper, lower, scalar⟩
    · exact fun ⟨bounded, upper, lower, scalar⟩ => ⟨bounded, upper, lower, scalar⟩
  | _ => rfl

@[simp] lemma values_setBoost (boost : Option Binary32) (l : Leaf) :
    (l.setBoost boost).values = l.values := by
  cases l <;> rfl

/-- A boost that a clause has after it was set is the one that was set. -/
lemma eq_of_boost_setBoost {boost : Option Binary32} {l : Leaf} {b : Binary32}
    (h : (l.setBoost boost).boost = some b) : boost = some b := by
  cases l <;> first | exact h | cases h

end Leaf

/-! ## Queries -/

/-- Clauses that are worth a combination: two or more, or a lone one that may not match. -/
def Clauses.IsCombination {α : Type} (cs : Clauses α) : Prop :=
  2 ≤ cs.count ∨ ∃ a, cs = { mustNot := [a] }

lemma Clauses.isCombination_of_not_lone {α : Type} {cs : Clauses α} (hnone : cs.count ≠ 0)
    (hlone : ¬(cs.count = 1 ∧ cs.mustNot = [])) : cs.IsCombination := by
  by_cases htwo : 2 ≤ cs.count
  · exact .inl htwo
  · obtain ⟨must, should, mustNot⟩ := cs
    simp only [count] at hnone hlone htwo
    -- One clause is left, and it is in the last list.
    have hmustNot : mustNot.length ≠ 0 := fun h =>
      hlone ⟨by omega, List.length_eq_zero_iff.1 h⟩
    obtain rfl : must = [] := List.length_eq_zero_iff.1 (by omega)
    obtain rfl : should = [] := List.length_eq_zero_iff.1 (by omega)
    obtain ⟨a, rfl⟩ := List.length_eq_one_iff.1 (show mustNot.length = 1 by omega)
    exact .inr ⟨a, rfl⟩

namespace Query

/-- What a normal form asks of a query, the queries aside that it holds. -/
def IsRegular (leafOk : Leaf → Prop) (boostOk : Binary32 → Prop) (q : Query) : Prop :=
  (∀ b, q.boost = some b → boostOk b) ∧
    match q with
    | leaf l => leafOk l
    | bool cs _ => cs.IsCombination
    | nested _ inner _ => ∀ p ∈ inner.parts, p.isNested = false

/-- A query is in normal form. -/
def IsNormal (leafOk : Leaf → Prop) (boostOk : Binary32 → Prop) (q : Query) : Prop :=
  ∀ p ∈ q.parts, p.IsRegular leafOk boostOk

/-- A query is in normal form and is not about nested documents, at any depth. -/
def IsFlat (leafOk : Leaf → Prop) (boostOk : Binary32 → Prop) (q : Query) : Prop :=
  ∀ p ∈ q.parts, p.IsRegular leafOk boostOk ∧ p.isNested = false

variable {leafOk : Leaf → Prop} {boostOk : Binary32 → Prop}

lemma IsFlat.isNormal {q : Query} (h : q.IsFlat leafOk boostOk) : q.IsNormal leafOk boostOk :=
  fun p hp => (h p hp).1

lemma IsRegular.mono {leafOk' : Leaf → Prop} {q : Query} (h : q.IsRegular leafOk boostOk)
    (hleaf : ∀ l, leafOk l → leafOk' l) : q.IsRegular leafOk' boostOk := by
  obtain ⟨hboost, hregular⟩ := h
  refine ⟨hboost, ?_⟩
  cases q with
  | leaf l => exact hleaf l hregular
  | bool cs b => exact hregular
  | nested path inner mode => exact hregular

lemma IsNormal.mono {leafOk' : Leaf → Prop} {q : Query} (h : q.IsNormal leafOk boostOk)
    (hleaf : ∀ l, leafOk l → leafOk' l) : q.IsNormal leafOk' boostOk :=
  fun p hp => (h p hp).mono hleaf

lemma IsFlat.mono {leafOk' : Leaf → Prop} {q : Query} (h : q.IsFlat leafOk boostOk)
    (hleaf : ∀ l, leafOk l → leafOk' l) : q.IsFlat leafOk' boostOk :=
  fun p hp => ⟨(h p hp).1.mono hleaf, (h p hp).2⟩

lemma isFlat_leaf {l : Leaf} (hl : leafOk l) (hboost : l.boost = none) :
    (leaf l).IsFlat leafOk boostOk := by
  refine forall_parts_leaf.2 ⟨⟨fun b hb => ?_, hl⟩, rfl⟩
  rw [boost, hboost] at hb
  cases hb

lemma isRegular_bool {cs : Clauses Query} (hcs : cs.IsCombination) :
    (bool cs none).IsRegular leafOk boostOk :=
  ⟨nofun, hcs⟩

lemma isFlat_bool {cs : Clauses Query} (hcs : cs.IsCombination)
    (h : ∀ q ∈ cs.toList, q.IsFlat leafOk boostOk) : (bool cs none).IsFlat leafOk boostOk :=
  forall_parts_bool.2 ⟨⟨isRegular_bool hcs, rfl⟩, h⟩

lemma IsFlat.negation {q : Query} (h : q.IsFlat leafOk boostOk) :
    q.negation.IsFlat leafOk boostOk :=
  isFlat_bool (.inr ⟨q, rfl⟩) (List.forall_mem_singleton.2 h)

/-- The query of sorted clauses is in normal form if they are. -/
lemma isNormal_of_collapse {cs : Clauses Query} {q : Query} (hq : cs.collapse = some q)
    (h : ∀ a ∈ cs.toList, a.IsNormal leafOk boostOk) : q.IsNormal leafOk boostOk := by
  rw [Clauses.collapse_eq_outcome, Clauses.outcome] at hq
  split_ifs at hq with hnone hlone
  · obtain ⟨a, rfl⟩ | ⟨a, rfl⟩ := Clauses.eq_of_lone hlone.1 hlone.2
    · obtain rfl : a = q := Option.some.inj hq
      exact h a (List.mem_singleton_self a)
    · obtain rfl : a = q := Option.some.inj hq
      exact h a (List.mem_singleton_self a)
  · rw [← Option.some.inj hq]
    exact forall_parts_bool.2 ⟨isRegular_bool (Clauses.isCombination_of_not_lone hnone hlone), h⟩

/-! ## Own clauses -/

lemma isFlat_of_together {qs : List Query} {q : Query} (hq : Reading.together qs = some q)
    (h : ∀ a ∈ qs, a.IsFlat leafOk boostOk) : q.IsFlat leafOk boostOk := by
  match qs, hq with
  | [a], hq =>
    rw [← Option.some.inj hq]
    exact h a (List.mem_singleton_self a)
  | a :: b :: rest, hq =>
    rw [← Option.some.inj hq]
    refine isFlat_bool (.inl ?_) fun q hq => h q (by simpa [Clauses.toList] using hq)
    simp [Clauses.count]

/-- A boost that is in order may be given to a clause, if leaf clauses do not mind. -/
lemma IsFlat.boosted {boost : Option Binary32} {q : Query} (h : q.IsFlat leafOk boostOk)
    (hset : ∀ l, leafOk l → leafOk (l.setBoost boost)) (hboost : ∀ b, boost = some b → boostOk b) :
    (Reading.boosted boost q).IsFlat leafOk boostOk := by
  cases boost with
  | none => exact h
  | some b =>
    refine forall_parts_withBoost h ?_
    obtain ⟨⟨hown, hregular⟩, hflat⟩ := h q (self_mem_parts q)
    cases q with
    | leaf l =>
      exact ⟨⟨fun b' hb' => hboost b' (Leaf.eq_of_boost_setBoost hb'), hset l hregular⟩, rfl⟩
    | bool cs b' => exact ⟨⟨hboost, hregular⟩, rfl⟩
    | nested path q mode => cases hflat

/-- A clause without nested documents may be put under a path. -/
lemma IsFlat.under {q : Query} (h : q.IsFlat leafOk boostOk) (mode : ScoreMode)
    (path : Option String) : (Reading.under mode path q).IsNormal leafOk boostOk := by
  cases path with
  | none => exact h.isNormal
  | some path => exact forall_parts_nested.2 ⟨⟨nofun, fun p hp => (h p hp).2⟩, h.isNormal⟩

end Query

end SearchCriteria
