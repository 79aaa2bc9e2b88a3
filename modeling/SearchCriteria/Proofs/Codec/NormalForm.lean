/-
# Compiled queries in JSON

The JSON text of a query in normal form says nothing that it could leave out: nowhere in it is
`null`, and no array is without items.  The only exceptions are numbers that JSON has no text for,
so that they have to be finite.  In a filter they are, because its locations are valid.

Main statement: compiled queries and filters are in normal form, and therefore full in JSON.
-/
import SearchCriteria.Codec.Query
import SearchCriteria.Criteria.Builder
import SearchCriteria.Proofs.Compile.NormalForm
import SearchCriteria.Proofs.Json.Parts

namespace SearchCriteria

open Numeric

/-! ## Values and places -/

/-- A scalar is written as something, if it is not a number without text. -/
lemma Value.isFull_encode {v : Value} (h : v.isScalar = true)
    (hfinite : ∀ x, v = .float x → x.isFinite = true) : v.encode.IsFull := by
  cases v with
  | bool b => rw [encode]; exact Json.isFull_bool b
  | integer n => rw [encode]; exact Json.isFull_integer _
  | float x => rw [encode]; exact Json.isFull_float (hfinite x rfl)
  | dateTime t => rw [encode]; exact Json.isFull_text _
  | text s => rw [encode]; exact Json.isFull_text s
  | null => cases h
  | point p => cases h
  | distance d => cases h
  | list values => cases h

lemma GeoPoint.InRange.isFinite {p : GeoPoint} (h : p.InRange) :
    p.lat.isFinite = true ∧ p.lon.isFinite = true := by
  obtain ⟨lat, lon⟩ := p
  obtain ⟨hlat, hlon⟩ := h
  have hinfinite : ∀ negative, (Binary.infinity negative : Binary64).isBetween (-90) 90 = false ∧
      (Binary.infinity negative : Binary64).isBetween (-180) 180 = false := by
    decide +kernel
  constructor
  · cases lat with
    | nan => cases hlat
    | infinity negative => exact absurd hlat (by simp [(hinfinite negative).1])
    | finite => rfl
  · cases lon with
    | nan => cases hlon
    | infinity negative => exact absurd hlon (by simp [(hinfinite negative).2])
    | finite => rfl

lemma Location.IsValid.isFull_encode {l : Location} (h : l.IsValid) : l.encode.IsFull := by
  cases l with
  | point p =>
    obtain ⟨hlat, hlon⟩ := GeoPoint.InRange.isFinite h
    refine Json.isFull_object (List.forall_mem_cons.2 ⟨Json.isFull_float hlat, ?_⟩)
    exact List.forall_mem_singleton.2 (Json.isFull_float hlon)
  | geohash hash => exact Json.isFull_object (List.forall_mem_singleton.2 (Json.isFull_text hash))

/-! ## Leaf clauses -/

lemma isFull_boostMember {boost : Option Binary32}
    (h : ∀ b, boost = some b → b.isFinite = true) : ∀ m ∈ boostMember boost, m.2.IsFull :=
  Json.isFull_optionalMember fun b hb => Json.isFull_single (h b hb)

/-- A bound of a range is a member that is full, if it is there. -/
lemma RangeLeaf.isFull_bound {r : RangeLeaf} {key : String} {bound : Option Value}
    (hproper : r.IsProper) (hfinite : ∀ x, .float x ∈ r.bounds → x.isFinite = true)
    (hbound : ∀ v, bound = some v → v ∈ r.bounds) :
    ∀ m ∈ Json.optionalMember key Value.encode bound, m.2.IsFull := by
  refine Json.isFull_optionalMember fun v hv => ?_
  refine Value.isFull_encode (hproper.scalar v (hbound v hv)) fun x hx => hfinite x ?_
  rw [← hx]
  exact hbound v hv

/-- A range is full: bounds that are not there are left out. -/
lemma RangeLeaf.isFull_encode {r : RangeLeaf} (hproper : r.IsProper)
    (hfinite : ∀ x, .float x ∈ r.bounds → x.isFinite = true)
    (hboost : ∀ b, r.boost = some b → b.isFinite = true) : r.encode.IsFull := by
  refine Json.isFull_object ?_
  simp only [List.forall_mem_append, List.forall_mem_singleton]
  refine ⟨⟨⟨⟨⟨Json.isFull_text _, ?lt⟩, ?lte⟩, ?gt⟩, ?gte⟩, isFull_boostMember hboost⟩
  all_goals
    refine isFull_bound hproper hfinite fun v hv => ?_
    simp [bounds, hv]

lemma TermsLeaf.isFull_encode {q : TermsLeaf} (hne : q.values ≠ [])
    (hscalar : ∀ v ∈ q.values, v.isScalar = true)
    (hfinite : ∀ x, .float x ∈ q.values → x.isFinite = true)
    (hboost : ∀ b, q.boost = some b → b.isFinite = true) : q.encode.IsFull := by
  refine Json.isFull_object ?_
  simp only [List.forall_mem_append, List.forall_mem_cons]
  refine ⟨⟨Json.isFull_text _, Json.isFull_array (by simpa using hne) ?_, List.forall_mem_nil _⟩,
    isFull_boostMember hboost⟩
  refine List.forall_mem_map.2 fun v hv => Value.isFull_encode (hscalar v hv) fun x hx => ?_
  exact hfinite x (by rw [← hx]; exact hv)

lemma QueryStringLeaf.isFull_encode {q : QueryStringLeaf} {field : String}
    (hfields : q.fields = [field]) (hboost : ∀ b, q.boost = some b → b.isFinite = true) :
    q.encode.IsFull := by
  refine Json.isFull_object ?_
  simp only [List.forall_mem_append, List.forall_mem_cons]
  refine ⟨⟨⟨⟨?_, Json.isFull_text _, List.forall_mem_nil _⟩, ?_⟩, ?_⟩, isFull_boostMember hboost⟩
  · rw [hfields]
    exact Json.isFull_array (by simp) (List.forall_mem_singleton.2 (Json.isFull_text _))
  · exact Json.isFull_optionalMember fun o _ => Json.isFull_text _
  · split
    · exact List.forall_mem_singleton.2 (Json.isFull_bool true)
    · simp

lemma isFull_texts (texts : List (String × String)) {boost : Option Binary32}
    (hboost : ∀ b, boost = some b → b.isFinite = true) :
    (Json.object (texts.map (fun (key, s) => (key, .text s)) ++ boostMember boost)).IsFull := by
  refine Json.isFull_object (List.forall_mem_append.2 ⟨?_, isFull_boostMember hboost⟩)
  exact List.forall_mem_map.2 fun m _ => Json.isFull_text m.2

/-- A leaf clause of a query for the score or of a filter is full, if its numbers are finite. -/
lemma Leaf.isFull_encode {l : Leaf} (h : l.InQuery ∨ l.InFilter)
    (hfinite : ∀ x, .float x ∈ l.values → x.isFinite = true)
    (hboost : ∀ b, l.boost = some b → b.isFinite = true) : l.encode.IsFull := by
  cases l with
  | queryString q =>
    obtain ⟨field, hfields⟩ := h.resolve_right id
    exact QueryStringLeaf.isFull_encode hfields hboost
  | terms q =>
    exact isFull_texts [("field", q.field), ("query", q.query), ("operator", q.operator.name)]
      hboost
  | range r => exact RangeLeaf.isFull_encode (h.resolve_right id) hfinite hboost
  | present field => exact Json.isFull_object (List.forall_mem_singleton.2 (Json.isFull_text field))
  | wildcard q => exact isFull_texts [("field", q.field), ("pattern", q.pattern)] hboost
  | regexp q => exact isFull_texts [("field", q.field), ("value", q.value)] hboost
  | exactly q =>
    obtain ⟨hne, hscalar⟩ := h.resolve_right id
    exact TermsLeaf.isFull_encode hne hscalar hfinite hboost
  | fuzzy q => exact isFull_texts [("field", q.field), ("value", q.value)] hboost
  | geoDistance q =>
    have hlocation : q.location.IsValid := h.resolve_left id
    refine Json.isFull_object ?_
    simp only [List.forall_mem_cons]
    exact ⟨Json.isFull_text _, Json.isFull_text _, Json.isFull_text _, hlocation.isFull_encode,
      List.forall_mem_nil _⟩
  | geoBox q =>
    obtain ⟨htop, hbottom⟩ : q.topLeft.IsValid ∧ q.bottomRight.IsValid := h.resolve_left id
    refine Json.isFull_object ?_
    simp only [List.forall_mem_cons]
    exact ⟨Json.isFull_text _, htop.isFull_encode, hbottom.isFull_encode, List.forall_mem_nil _⟩

/-! ## Queries -/

namespace Query

/-- The numbers of all leaf clauses are finite, and so are all boosts. -/
def HasFiniteNumbers (q : Query) : Prop :=
  (∀ l, .leaf l ∈ q.parts → ∀ x, .float x ∈ l.values → x.isFinite = true) ∧
    ∀ p ∈ q.parts, ∀ b, p.boost = some b → b.isFinite = true

lemma isFull_clauseMember {key : String} {qs : List Query} (h : ∀ q ∈ qs, q.encode.IsFull) :
    ∀ m ∈ clauseMember key (encodeAll qs), m.2.IsFull := by
  rw [encodeAll_eq_map]
  cases qs with
  | nil => simp [clauseMember]
  | cons q qs =>
    refine List.forall_mem_singleton.2 (Json.isFull_array (by simp) ?_)
    exact List.forall_mem_map.2 h

/-- A query is full if its leaf clauses are, and its boosts are finite. -/
theorem isFull_encode {q : Query}
    (h : ∀ p ∈ q.parts, (∀ l, p = .leaf l → l.encode.IsFull) ∧
      ∀ b, p.boost = some b → b.isFinite = true) : q.encode.IsFull := by
  induction q using Query.induction with
  | leaf l =>
    rw [encode]
    exact Json.isFull_object (List.forall_mem_singleton.2 ((forall_parts_leaf.1 h).1 l rfl))
  | bool cs boost ih =>
    obtain ⟨⟨-, hboost⟩, hclauses⟩ := forall_parts_bool.1 h
    obtain ⟨must, should, mustNot⟩ := cs
    have hfull : ∀ q ∈ must ++ should ++ mustNot, q.encode.IsFull := fun q hq =>
      ih q hq (hclauses q hq)
    simp only [List.forall_mem_append] at hfull
    obtain ⟨⟨hmust, hshould⟩, hmustNot⟩ := hfull
    rw [encode]
    refine Json.isFull_object (List.forall_mem_singleton.2 (Json.isFull_object ?_))
    simp only [List.forall_mem_append]
    exact ⟨⟨⟨isFull_clauseMember hmust, isFull_clauseMember hshould⟩,
      isFull_clauseMember hmustNot⟩, isFull_boostMember hboost⟩
  | nested path inner mode ih =>
    rw [encode]
    refine Json.isFull_object (List.forall_mem_singleton.2 (Json.isFull_object ?_))
    simp only [List.forall_mem_cons]
    exact ⟨Json.isFull_text _, ih (forall_parts_nested.1 h).2, Json.isFull_text _,
      List.forall_mem_nil _⟩

/-- A query in normal form is full, if its numbers are finite. -/
lemma IsNormal.isFull_encode {leafOk : Leaf → Prop} {boostOk : Binary32 → Prop} {q : Query}
    (h : q.IsNormal leafOk boostOk) (hleaf : ∀ l, leafOk l → l.InQuery ∨ l.InFilter)
    (hfinite : q.HasFiniteNumbers) : q.encode.IsFull := by
  refine Query.isFull_encode fun p hp => ⟨?_, hfinite.2 p hp⟩
  rintro l rfl
  exact Leaf.isFull_encode (hleaf l (h _ hp).2) (hfinite.1 l hp) (hfinite.2 _ hp)

/-- The numbers of a filter in normal form are finite: it has neither values nor boosts. -/
lemma IsNormal.hasFiniteNumbers {q : Query} (h : q.IsNormal Leaf.InFilter fun _ => False) :
    q.HasFiniteNumbers := by
  refine ⟨fun l hl x hx => ?_, fun p hp b hb => ((h p hp).1 b hb).elim⟩
  have hfilter : l.InFilter := (h _ hl).2
  cases l with
  | geoDistance q => cases hx
  | geoBox q => cases hx
  | _ => cases hfilter

end Query

namespace Criteria

/-- The numbers that query entries compare with are finite, and so are all boosts. -/
def HasFiniteNumbers (criteria : Criteria) : Prop :=
  (∀ x, .float x ∈ criteria.queryItems → x.isFinite = true) ∧
    ∀ n ∈ criteria.allNodes, ∀ b, n.boost = some b → b.isFinite = true

/-- Whatever is compiled is in normal form.

In a query for the score the leaf clauses are those of `Leaf.InQuery`, their values are values of
query entries, and boosts are boosts of nodes.  If its numbers are finite, its JSON says nowhere
`null` and has no array without items; and its numbers are finite if those of the criteria are.

In a filter the leaf clauses are those of `Leaf.InFilter`, and there are no boosts.  Its JSON says
nowhere `null` and has no array without items. -/
theorem compile_isNormal (config : Config) (c : Criteria) :
    (∀ q, (c.compileQuery config).result = .ok (some q) →
      q.IsNormal (fun l => l.InQuery ∧ ∀ v ∈ l.values, v ∈ c.queryItems)
          (fun b => ∃ n ∈ c.allNodes, n.boost = some b) ∧
        (q.HasFiniteNumbers → q.encode.IsFull) ∧
        (c.HasFiniteNumbers → q.HasFiniteNumbers)) ∧
    ∀ q, (c.compileFilter config).result = .ok (some q) →
      q.IsNormal Leaf.InFilter (fun _ => False) ∧ q.encode.IsFull := by
  constructor
  · intro q hq
    have hnormal := isNormal_of_compileQuery hq
    refine ⟨hnormal, hnormal.isFull_encode fun l hl => .inl hl.1, ?_⟩
    rintro ⟨hvalues, hboosts⟩
    constructor
    · exact fun l hl x hx => hvalues x ((hnormal _ hl).2.2 _ hx)
    · intro p hp b hb
      obtain ⟨n, hn, hnode⟩ := (hnormal p hp).1 b hb
      exact hboosts n hn b hnode
  · intro q hq
    have hnormal := isNormal_of_compileFilter hq
    exact ⟨hnormal, hnormal.isFull_encode (fun l hl => .inr hl) hnormal.hasFiniteNumbers⟩

/-- Cheap offers with a boost that are not sold, in a cell of the grid. -/
def nearOffers : Criteria :=
  ((((((on ⟨"price", some "offers", .analyzed⟩).between .null (.float (.ofInt .binary64 10))).empty
    ).boost (.ofInt .binary32 2)).and ⟨"state", none, .keyword⟩).noneOf [.text "sold"]).within
      (.text "u281z") (.text "5km")

/-- The kinds of queries that the offers are compiled into, and that neither JSON has anything
left out in it. -/
theorem compile_nearOffers : ∃ q f, (nearOffers.compileQuery {}).result = .ok (some q) ∧
    (nearOffers.compileFilter {}).result = .ok (some f) ∧
    q.parts.map Query.typeName =
      ["bool", "nested", "bool", "range", "bool", "exists", "wildcard", "bool", "terms"] ∧
    nearOffers.HasFiniteNumbers ∧ q.encode.IsFull ∧ f.encode.IsFull := by
  have hfinite : nearOffers.HasFiniteNumbers := by
    have hitems : nearOffers.queryItems = [.null, .float (.ofInt .binary64 10), .text "sold"] := rfl
    have hboosts : nearOffers.allNodes.map Node.boost = [some (.ofInt .binary32 2), none] := rfl
    constructor
    · intro x hx
      rw [hitems] at hx
      have hten : x = .ofInt .binary64 10 := by simpa using hx
      rw [hten]
      decide +kernel
    · intro n hn b hb
      have hmem := List.mem_map_of_mem (f := Node.boost) hn
      rw [hboosts, hb] at hmem
      obtain rfl : b = .ofInt .binary32 2 := by simpa using hmem
      decide +kernel
  obtain ⟨hquery, hfilter⟩ := compile_isNormal {} nearOffers
  obtain ⟨-, hfull, hnumbers⟩ := hquery _ rfl
  exact ⟨_, _, rfl, rfl, rfl, hfinite, hfull (hnumbers hfinite), (hfilter _ rfl).2⟩

end Criteria

end SearchCriteria
