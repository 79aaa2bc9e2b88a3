/-
# Queries that are read

The leaf clauses of a query that has been read are carried by JSON, because their values and
locations have been read.  A query is written with no more levels than it was read from, although it
may have been given in a longer form.

Main statements: `yields_query` for queries and `yields_compiled` for compiled criteria.
-/
import SearchCriteria.Proofs.Codec.Compiled
import SearchCriteria.Proofs.Codec.Image.Value

namespace SearchCriteria

open Numeric Outcome

variable {α : Type} {below : Nat}

/-! ## Leaf clauses -/

/-- A leaf clause is carried, and written with no more levels than there are. -/
def Leaf.IsRead (levels : Nat) (l : Leaf) : Prop :=
  l.IsCarried ∧ l.encode.depth ≤ levels

lemma depth_boostMember_le (boost : Option Binary32) (n : Nat) :
    ∀ m ∈ boostMember boost, m.2.depth ≤ n :=
  Json.depth_optionalMember_le fun _ _ => Nat.zero_le n

lemma depth_texts_le (texts : List (String × String)) (boost : Option Binary32) :
    (Json.object (texts.map (fun (key, s) => (key, .text s)) ++ boostMember boost)).depth ≤ 1 := by
  refine Json.depth_object_le (List.forall_mem_append.2 ⟨?_, depth_boostMember_le boost 0⟩)
  exact List.forall_mem_map.2 fun m _ => Nat.zero_le 0

/-- A record takes a level, and a clause that holds neither values nor locations takes no more. -/
lemma yields_flat {shape : Shape α} {wrap : α → Leaf}
    (hnodup : (shape.members.map Member.key).Nodup) (hcarried : ∀ a, (wrap a).IsCarried)
    (hdepth : ∀ a, (wrap a).encode.depth ≤ 1) :
    Yields shape.read fun levels a => (wrap a).IsRead levels := by
  intro levels d a hd h
  obtain ⟨below, rfl, -⟩ := Shape.obtains_of_read hnodup hd h
  exact ⟨hcarried a, Nat.le_trans (hdepth a) (Nat.succ_le_succ (Nat.zero_le below))⟩

lemma yields_queryString :
    Yields QueryStringLeaf.shape.read fun levels q => (Leaf.queryString q).IsRead levels := by
  intro levels d q hd h
  obtain ⟨below, rfl, hq⟩ := Shape.obtains_of_read (by decide) hd h
  obtain ⟨lower, rfl⟩ := hq.exists_lower List.mem_cons_self
  refine ⟨trivial, Json.depth_object_le ?_⟩
  simp only [List.forall_mem_append, List.forall_mem_cons]
  refine ⟨⟨⟨⟨?_, Nat.zero_le _, List.forall_mem_nil _⟩, ?_⟩, ?_⟩, depth_boostMember_le _ _⟩
  · exact Json.depth_array_le (List.forall_mem_map.2 fun s _ => Nat.zero_le lower)
  · exact Json.depth_optionalMember_le fun o _ => Nat.zero_le _
  · split
    · exact List.forall_mem_singleton.2 (Nat.zero_le _)
    · exact List.forall_mem_nil _

lemma yields_match : Yields MatchLeaf.shape.read fun levels q => (Leaf.terms q).IsRead levels :=
  yields_flat (by decide) (fun _ => trivial) fun q =>
    depth_texts_le [("field", q.field), ("query", q.query), ("operator", q.operator.name)] q.boost

lemma yields_present :
    Yields presentShape.read fun levels field => (Leaf.present field).IsRead levels :=
  yields_flat (by decide) (fun _ => trivial) fun field => depth_texts_le [("field", field)] none

lemma yields_wildcard :
    Yields WildcardLeaf.shape.read fun levels q => (Leaf.wildcard q).IsRead levels :=
  yields_flat (by decide) (fun _ => trivial) fun q =>
    depth_texts_le [("field", q.field), ("pattern", q.pattern)] q.boost

lemma yields_regexp : Yields RegexpLeaf.shape.read fun levels q => (Leaf.regexp q).IsRead levels :=
  yields_flat (by decide) (fun _ => trivial) fun q =>
    depth_texts_le [("field", q.field), ("value", q.value)] q.boost

lemma yields_fuzzy : Yields FuzzyLeaf.shape.read fun levels q => (Leaf.fuzzy q).IsRead levels :=
  yields_flat (by decide) (fun _ => trivial) fun q =>
    depth_texts_le [("field", q.field), ("value", q.value)] q.boost

lemma yields_range : Yields RangeLeaf.shape.read fun levels q => (Leaf.range q).IsRead levels := by
  intro levels d q hd h
  obtain ⟨below, rfl, hq⟩ := Shape.obtains_of_read (by decide) hd h
  -- The invariant says the same of all four bounds; a member changes one of them at most.
  have hbounds : (∀ v, q.lt = some v → v ≠ .null ∧ v.IsRead below) ∧
      (∀ v, q.lte = some v → v ≠ .null ∧ v.IsRead below) ∧
      (∀ v, q.gt = some v → v ≠ .null ∧ v.IsRead below) ∧
      (∀ v, q.gte = some v → v ≠ .null ∧ v.IsRead below) := by
    refine hq.induction ⟨nofun, nofun, nofun, nofun⟩ ?_
    simp only [RangeLeaf.shape, List.forall_mem_cons]
    refine ⟨?field, ?lt, ?lte, ?gt, ?gte, ?boost, List.forall_mem_nil _⟩
    case field => exact Member.preserves_any fun _ _ ha => ha
    case lt => exact Member.preserves_of Value.yields_optionalValue fun _ _ ha ho => ⟨ho, ha.2⟩
    case lte =>
      exact Member.preserves_of Value.yields_optionalValue fun _ _ ha ho => ⟨ha.1, ho, ha.2.2⟩
    case gt =>
      exact Member.preserves_of Value.yields_optionalValue fun _ _ ha ho =>
        ⟨ha.1, ha.2.1, ho, ha.2.2.2⟩
    case gte =>
      exact Member.preserves_of Value.yields_optionalValue fun _ _ ha ho =>
        ⟨ha.1, ha.2.1, ha.2.2.1, ho⟩
    case boost => exact Member.preserves_any fun _ _ ha => ha
  obtain ⟨hlt, hlte, hgt, hgte⟩ := hbounds
  constructor
  · intro v hv
    simp only [RangeLeaf.bounds, List.mem_append, Option.mem_toList] at hv
    rcases hv with ((hv | hv) | hv) | hv
    · exact (hlt v hv).imp_right fun hread => hread.1
    · exact (hlte v hv).imp_right fun hread => hread.1
    · exact (hgt v hv).imp_right fun hread => hread.1
    · exact (hgte v hv).imp_right fun hread => hread.1
  · refine Json.depth_object_le ?_
    simp only [List.forall_mem_append, List.forall_mem_singleton]
    refine ⟨⟨⟨⟨⟨Nat.zero_le _, ?_⟩, ?_⟩, ?_⟩, ?_⟩, depth_boostMember_le _ _⟩
    · exact Json.depth_optionalMember_le fun v hv => (hlt v hv).2.2
    · exact Json.depth_optionalMember_le fun v hv => (hlte v hv).2.2
    · exact Json.depth_optionalMember_le fun v hv => (hgt v hv).2.2
    · exact Json.depth_optionalMember_le fun v hv => (hgte v hv).2.2

lemma yields_terms :
    Yields TermsLeaf.shape.read fun levels q => (Leaf.exactly q).IsRead levels := by
  intro levels d q hd h
  obtain ⟨below, rfl, hq⟩ := Shape.obtains_of_read (by decide) hd h
  obtain ⟨lower, rfl⟩ := hq.exists_lower (List.mem_cons_of_mem _ List.mem_cons_self)
  have hvalues : ∀ v ∈ q.values, v.IsRead lower := by
    refine hq.induction (List.forall_mem_nil _) ?_
    simp only [TermsLeaf.shape, List.forall_mem_cons]
    refine ⟨?field, ?values, ?boost, List.forall_mem_nil _⟩
    case field => exact Member.preserves_any fun _ _ ha => ha
    case values => exact Member.preserves_list Value.yields_value fun _ _ _ hvs => hvs
    case boost => exact Member.preserves_any fun _ _ ha => ha
  refine ⟨fun v hv => (hvalues v hv).1, Json.depth_object_le ?_⟩
  simp only [List.forall_mem_append, List.forall_mem_cons]
  refine ⟨⟨Nat.zero_le _, ?_, List.forall_mem_nil _⟩, depth_boostMember_le _ _⟩
  exact Json.depth_array_le (List.forall_mem_map.2 fun v hv => (hvalues v hv).2)

lemma Location.depth_encode (l : Location) : l.encode.depth = 1 := by
  cases l <;> simp [encode, GeoPoint.encode, Json.depth, Json.depthOfMembers]

lemma yields_geoDistance :
    Yields GeoDistanceLeaf.shape.read fun levels q => (Leaf.geoDistance q).IsRead levels := by
  intro levels d q hd h
  obtain ⟨below, rfl, hq⟩ := Shape.obtains_of_read (by decide) hd h
  obtain ⟨d', l, hd', hl⟩ := hq.exists_read
    (List.mem_cons_of_mem _ (List.mem_cons_of_mem _ (List.mem_cons_of_mem _ List.mem_cons_self)))
  have hbelow := (yields_location below d' l hd' hl).2
  rw [Location.depth_encode] at hbelow
  have hlocation : q.location.IsFinite := by
    refine hq.induction trivial ?_
    simp only [GeoDistanceLeaf.shape, List.forall_mem_cons]
    refine ⟨?field, ?distance, ?type, ?location, List.forall_mem_nil _⟩
    case location => exact Member.preserves_of yields_location fun _ _ _ hl => hl.1
    all_goals exact Member.preserves_any fun _ _ ha => ha
  refine ⟨hlocation, Json.depth_object_le ?_⟩
  simp only [List.forall_mem_cons]
  refine ⟨Nat.zero_le _, Nat.zero_le _, Nat.zero_le _, ?_, List.forall_mem_nil _⟩
  rwa [Location.depth_encode]

lemma yields_geoBox :
    Yields GeoBoxLeaf.shape.read fun levels q => (Leaf.geoBox q).IsRead levels := by
  intro levels d q hd h
  obtain ⟨below, rfl, hq⟩ := Shape.obtains_of_read (by decide) hd h
  obtain ⟨d', l, hd', hl⟩ := hq.exists_read (List.mem_cons_of_mem _ List.mem_cons_self)
  have hbelow := (yields_location below d' l hd' hl).2
  rw [Location.depth_encode] at hbelow
  have hcorners : q.topLeft.IsFinite ∧ q.bottomRight.IsFinite := by
    refine hq.induction ⟨trivial, trivial⟩ ?_
    simp only [GeoBoxLeaf.shape, List.forall_mem_cons]
    refine ⟨?field, ?topLeft, ?bottomRight, List.forall_mem_nil _⟩
    case field => exact Member.preserves_any fun _ _ ha => ha
    case topLeft => exact Member.preserves_of yields_location fun _ _ ha hl => ⟨hl.1, ha.2⟩
    case bottomRight => exact Member.preserves_of yields_location fun _ _ ha hl => ⟨ha.1, hl.1⟩
  refine ⟨hcorners, Json.depth_object_le ?_⟩
  simp only [List.forall_mem_cons, Location.depth_encode]
  exact ⟨Nat.zero_le _, hbelow, hbelow, List.forall_mem_nil _⟩

/-! ## Queries -/

namespace Query

/-- All leaf clauses are carried, and the query is written with no more levels than there are. -/
def IsRead (levels : Nat) (q : Query) : Prop :=
  (∀ p ∈ q.parts, ∀ l, p = .leaf l → l.IsCarried) ∧ q.encode.depth ≤ levels

lemma two_le_depth (q : Query) : 2 ≤ q.encode.depth := by
  have hle : ∀ (name : String) (ms : List (String × Json)),
      2 ≤ (Json.object [(name, .object ms)]).depth := by
    intro name ms
    simp only [Json.depth, Json.depthOfMembers]
    omega
  cases q with
  | leaf l => cases l <;> exact hle _ _
  | bool cs boost => exact hle _ _
  | nested path q mode => exact hle _ _

/-- A query that holds a leaf clause takes one level more. -/
lemma yields_leafContent {shape : Shape α} {wrap : α → Leaf}
    (h : Yields shape.read fun levels a => (wrap a).IsRead levels) :
    Yields (fun draft => do
      let a ← shape.read draft
      .ok (leaf (wrap a))) fun below q => q.IsRead (below + 1) := by
  refine h.map ?_
  rintro levels a ⟨hcarried, hdepth⟩
  refine ⟨forall_parts_leaf.2 ?_, ?_⟩
  · rintro l ⟨rfl⟩
    exact hcarried
  · rw [encode]
    exact Json.depth_object_le (List.forall_mem_singleton.2 hdepth)

lemma depth_clauseMember_le {key : String} {qs : List Query}
    (h : ∀ q ∈ qs, ∃ lower, below = lower + 1 ∧ q.IsRead lower) :
    ∀ m ∈ clauseMember key (encodeAll qs), m.2.depth ≤ below := by
  rw [encodeAll_eq_map]
  cases qs with
  | nil => exact List.forall_mem_nil _
  | cons q qs =>
    obtain ⟨lower, rfl, -⟩ := h q List.mem_cons_self
    refine List.forall_mem_singleton.2 (Json.depth_array_le (List.forall_mem_map.2 fun q hq => ?_))
    obtain ⟨lower', hlower, hq⟩ := h q hq
    obtain rfl : lower = lower' := by omega
    exact hq.2

/-- A combination takes two levels more than its clauses. -/
lemma yields_bool {read : Reader Query} (hread : Yields read fun levels q => q.IsRead levels) :
    Yields (boolShape read).read fun below c => (bool c.1 c.2).IsRead (below + 1) := by
  intro levels d c hd h
  obtain ⟨below, rfl, hc⟩ := Shape.obtains_of_read (nodup_boolKeys read) hd h
  have hlist : Yields (readList read) fun levels qs =>
      ∀ q ∈ qs, ∃ lower, levels = lower + 1 ∧ q.IsRead lower := by
    intro levels d qs hd h
    obtain ⟨lower, hlevels, hqs⟩ := yields_readList hread levels d qs hd h
    exact fun q hq => ⟨lower, hlevels, hqs q hq⟩
  have hclauses : ∀ q ∈ c.1.toList, ∃ lower, below = lower + 1 ∧ q.IsRead lower := by
    refine hc.induction (List.forall_mem_nil _) ?_
    simp only [boolShape, Clauses.toList, List.forall_mem_cons, List.forall_mem_append]
    refine ⟨?must, ?should, ?mustNot, ?boost, List.forall_mem_nil _⟩
    case must => exact Member.preserves_of hlist fun _ _ ha hqs => ⟨⟨hqs, ha.1.2⟩, ha.2⟩
    case should => exact Member.preserves_of hlist fun _ _ ha hqs => ⟨⟨ha.1.1, hqs⟩, ha.2⟩
    case mustNot => exact Member.preserves_of hlist fun _ _ ha hqs => ⟨ha.1, hqs⟩
    case boost => exact Member.preserves_any fun _ _ ha => ha
  obtain ⟨cs, boost⟩ := c
  refine ⟨forall_parts_bool.2 ⟨fun _ h => Query.noConfusion h, fun q hq => ?_⟩, ?_⟩
  · obtain ⟨lower, -, hread⟩ := hclauses q hq
    exact hread.1
  · obtain ⟨must, should, mustNot⟩ := cs
    simp only [Clauses.toList, List.forall_mem_append] at hclauses
    rw [encode]
    refine Json.depth_object_le (List.forall_mem_singleton.2 (Json.depth_object_le ?_))
    simp only [List.forall_mem_append]
    exact ⟨⟨⟨depth_clauseMember_le hclauses.1.1, depth_clauseMember_le hclauses.1.2⟩,
      depth_clauseMember_le hclauses.2⟩, depth_boostMember_le boost below⟩

/-- A query on nested documents takes two levels more than the query that it holds. -/
lemma yields_nested {read : Reader Query} (hread : Yields read fun levels q => q.IsRead levels) :
    Yields (nestedShape read).read
      fun below c => (nested c.1 c.2.1 c.2.2).IsRead (below + 1) := by
  intro levels d c hd h
  obtain ⟨below, rfl, hc⟩ := Shape.obtains_of_read (nodup_nestedKeys read) hd h
  obtain ⟨d', q', hd', hq'⟩ := hc.exists_read (List.mem_cons_of_mem _ List.mem_cons_self)
  have hquery : c.2.1.IsRead below := by
    refine hc.induction ?blank ?members
    case blank =>
      -- The blank record holds a query of two levels; the one that has been given has as many.
      have hlevels := Nat.le_trans (two_le_depth q') (hread below d' q' hd' hq').2
      exact ⟨forall_parts_leaf.2 (by rintro l ⟨rfl⟩; trivial), hlevels⟩
    case members =>
      simp only [nestedShape, List.forall_mem_cons]
      refine ⟨?path, ?query, ?mode, List.forall_mem_nil _⟩
      case query => exact Member.preserves_of hread fun _ _ _ hq => hq
      all_goals exact Member.preserves_any fun _ _ ha => ha
  refine ⟨forall_parts_nested.2 ⟨fun _ h => Query.noConfusion h, hquery.1⟩, ?_⟩
  rw [encode]
  refine Json.depth_object_le (List.forall_mem_singleton.2 (Json.depth_object_le ?_))
  simp only [List.forall_mem_cons]
  exact ⟨Nat.zero_le _, hquery.2, Nat.zero_le _, List.forall_mem_nil _⟩

/-- The leaf clauses of a query that is read are carried. -/
theorem yields_query (fuel : Nat) : Yields (readWithin fuel) fun levels q => q.IsRead levels := by
  induction fuel with
  | zero =>
    intro levels d q _ h
    cases h
  | succ fuel ih =>
    refine yields_readChoice ?_
    simp only [variants, List.forall_mem_cons]
    refine ⟨⟨_, _, rfl, ?bool⟩, ⟨_, _, rfl, yields_leafContent yields_queryString⟩,
      ⟨_, _, rfl, yields_leafContent yields_match⟩, ⟨_, _, rfl, yields_leafContent yields_range⟩,
      ⟨_, _, rfl, yields_leafContent yields_present⟩,
      ⟨_, _, rfl, yields_leafContent yields_wildcard⟩,
      ⟨_, _, rfl, yields_leafContent yields_regexp⟩, ⟨_, _, rfl, yields_leafContent yields_terms⟩,
      ⟨_, _, rfl, yields_leafContent yields_fuzzy⟩,
      ⟨_, _, rfl, yields_leafContent yields_geoDistance⟩,
      ⟨_, _, rfl, yields_leafContent yields_geoBox⟩, ⟨_, _, rfl, ?nested⟩, List.forall_mem_nil _⟩
    case bool => exact (yields_bool ih).map fun _ _ hc => hc
    case nested => exact (yields_nested ih).map fun _ _ hc => hc

end Query

/-- The queries of compiled criteria that are read are carried one level below. -/
theorem yields_compiled : Yields Compiled.read fun levels compiled =>
    (∀ q ∈ compiled.queries, ∀ p ∈ q.parts, ∀ l, p = .leaf l → l.IsCarried) ∧
      compiled.encode.depth ≤ levels := by
  intro levels d compiled hd h
  obtain ⟨below, rfl, hc⟩ := Shape.obtains_of_read (by decide) hd h
  have hread : Yields (readOption Query.read) fun levels o => ∀ q, o = some q → q.IsRead levels :=
    yields_readOption (Query.yields_query maxDepth)
  have hqueries : (∀ q, compiled.query = some q → q.IsRead below) ∧
      ∀ q, compiled.filter = some q → q.IsRead below := by
    refine hc.induction ⟨nofun, nofun⟩ ?_
    simp only [Compiled.shape, List.forall_mem_cons]
    refine ⟨?query, ?filter, List.forall_mem_nil _⟩
    case query => exact Member.preserves_of hread fun _ _ ha hq => ⟨hq, ha.2⟩
    case filter => exact Member.preserves_of hread fun _ _ ha hq => ⟨ha.1, hq⟩
  constructor
  · intro q hq
    rcases Compiled.mem_queries.1 hq with hq | hq
    · exact (hqueries.1 q hq).1
    · exact (hqueries.2 q hq).1
  · refine Json.depth_object_le ?_
    simp only [List.forall_mem_cons]
    exact ⟨Json.depth_ofOption_le fun q hq => (hqueries.1 q hq).2,
      Json.depth_ofOption_le fun q hq => (hqueries.2 q hq).2, List.forall_mem_nil _⟩

end SearchCriteria
