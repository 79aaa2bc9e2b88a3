/-
# Queries read back

A query is read from its JSON kind by kind and member by member.  What its leaf clauses leave out
is what they hold anyway; what JSON may change are boosts, values and locations.

Main statement: a query is read from its JSON as itself if nothing of it is changed by JSON, be it
the tree of the query or its text.
-/
import SearchCriteria.Codec.Query
import SearchCriteria.Proofs.Codec.Criteria
import SearchCriteria.Proofs.Json.Records
import SearchCriteria.Proofs.Query.NormalForm

namespace SearchCriteria

open Numeric Outcome

/-! ## Names, boosts and locations -/

lemma MatchOperator.read_name (operator : MatchOperator) :
    read (.text operator.name) = .ok operator :=
  readName_name (by decide) (by cases operator <;> decide)

lemma ScoreMode.read_name (mode : ScoreMode) : read (.text mode.name) = .ok mode :=
  readName_name (by decide) (by cases mode <;> decide)

lemma DistanceType.read_name (type : DistanceType) : read (.text type.name) = .ok type :=
  readName_name (by decide) (by cases type <;> decide)

variable {carrier : Carrier}

/-- A boost comes last, and is left out if there is none. -/
lemma fills_boost {α : Type} {set : α → Option Binary32 → α} {a : α} {boost : Option Binary32}
    (hblank : set a none = a)
    (hboost : ∀ b, boost = some b → readSingle (carrier.single b) = .ok b) :
    Fills carrier [.of "boost" .anywhere (readOption readSingle) set] (boostMember boost) a
      (set a boost) := by
  refine .optional_last hblank fun b hb => ?_
  subst hb
  exact readOption_boost carrier hboost

/-- A bound comes with its key, and is left out if there is none. -/
lemma readOption_bound {v : Value} (hnull : v ≠ .null) (hstable : v.IsStable) :
    readOption Value.read (v.encode.draftWith carrier) = .ok (some v) := by
  have hportable : ∀ w ∈ v.parts, w.isPortable = true := fun w hw => (hstable w hw).1
  rw [readOption_value carrier ⟨hnull, hportable⟩,
    v.reread_eq_self hportable fun w hw => (hstable w hw).2]

/-- The coordinates of a location are finite, if it has some. -/
def Location.IsFinite : Location → Prop
  | point p => p.lat.isFinite = true ∧ p.lon.isFinite = true
  | geohash _ => True

lemma Location.read_draftWith {l : Location} (h : l.IsFinite) :
    read (l.encode.draftWith carrier) = .ok l := by
  cases l with
  | point p =>
    obtain ⟨hlat, hlon⟩ := h
    simp [read, readJson, encode, GeoPoint.encode, Json.draftWith, Json.draftMembersWith,
      Draft.settle, Members.settle, ofJson?, GeoPoint.ofJson?, Json.two?, Json.only?, Json.number?,
      hlat, hlon]
  | geohash hash =>
    simp [read, readJson, encode, Json.draftWith, Json.draftMembersWith, Draft.settle,
      Members.settle, ofJson?, GeoPoint.ofJson?, Json.two?, Json.only?, geohash?, Json.text?]

/-! ## Leaf clauses -/

section Leaves

lemma readAll_texts (texts : List String) :
    (Json.draftItemsWith carrier (texts.map .text)).readAll readText = .ok texts := by
  have h : (Json.draftItemsWith carrier (texts.map .text)).readAll readText =
      .ok (texts.map id) := readAll_draftItemsWith carrier fun _ _ => rfl
  rwa [List.map_id] at h

lemma QueryStringLeaf.read_draftWith {q : QueryStringLeaf}
    (hboost : ∀ b, q.boost = some b → readSingle (carrier.single b) = .ok b) :
    shape.read (q.encode.draftWith carrier) = .ok q := by
  refine Shape.read_of_fills (by decide) ?_
  simp only [List.append_assoc, List.cons_append, List.nil_append]
  refine .given (readAll_texts q.fields) (.given rfl (.optional rfl (fun o _ => ?_) ?_))
  · simp only [Json.draftWith, readOption, MatchOperator.read_name, ok_bind]
  · obtain ⟨fields, query, operator, wildcard, boost⟩ := q
    cases wildcard with
    | false => exact .skip (by decide) (fills_boost rfl hboost)
    | true => exact .given rfl (fills_boost rfl hboost)

lemma MatchLeaf.read_draftWith {q : MatchLeaf}
    (hboost : ∀ b, q.boost = some b → readSingle (carrier.single b) = .ok b) :
    shape.read (q.encode.draftWith carrier) = .ok q := by
  refine Shape.read_of_fills (by decide) ?_
  exact .given rfl (.given rfl (.given (MatchOperator.read_name _) (fills_boost rfl hboost)))

lemma RangeLeaf.read_draftWith {q : RangeLeaf}
    (hbounds : ∀ v ∈ q.bounds, v ≠ .null ∧ v.IsStable)
    (hboost : ∀ b, q.boost = some b → readSingle (carrier.single b) = .ok b) :
    shape.read (q.encode.draftWith carrier) = .ok q := by
  have hbound : ∀ v, v ∈ q.bounds →
      readOption Value.read (v.encode.draftWith carrier) = .ok (some v) :=
    fun v hv => readOption_bound (hbounds v hv).1 (hbounds v hv).2
  refine Shape.read_of_fills (by decide) ?_
  simp only [List.append_assoc, List.cons_append, List.nil_append]
  refine .given rfl ?_
  refine .optional rfl (fun v hv => hbound v (by simp [bounds, hv])) ?_
  refine .optional rfl (fun v hv => hbound v (by simp [bounds, hv])) ?_
  refine .optional rfl (fun v hv => hbound v (by simp [bounds, hv])) ?_
  refine .optional rfl (fun v hv => hbound v (by simp [bounds, hv])) ?_
  exact fills_boost rfl hboost

lemma WildcardLeaf.read_draftWith {q : WildcardLeaf}
    (hboost : ∀ b, q.boost = some b → readSingle (carrier.single b) = .ok b) :
    shape.read (q.encode.draftWith carrier) = .ok q := by
  refine Shape.read_of_fills (by decide) ?_
  exact .given rfl (.given rfl (fills_boost rfl hboost))

lemma RegexpLeaf.read_draftWith {q : RegexpLeaf}
    (hboost : ∀ b, q.boost = some b → readSingle (carrier.single b) = .ok b) :
    shape.read (q.encode.draftWith carrier) = .ok q := by
  refine Shape.read_of_fills (by decide) ?_
  exact .given rfl (.given rfl (fills_boost rfl hboost))

lemma TermsLeaf.read_draftWith {q : TermsLeaf} (hvalues : ∀ v ∈ q.values, v.IsStable)
    (hboost : ∀ b, q.boost = some b → readSingle (carrier.single b) = .ok b) :
    shape.read (q.encode.draftWith carrier) = .ok q := by
  have hread := readAll_draftItemsWith carrier (f := id) fun v hv =>
    Value.read_of_isStable carrier (hvalues v hv)
  rw [List.map_id] at hread
  refine Shape.read_of_fills (by decide) ?_
  exact .given rfl (.given hread (fills_boost rfl hboost))

lemma FuzzyLeaf.read_draftWith {q : FuzzyLeaf}
    (hboost : ∀ b, q.boost = some b → readSingle (carrier.single b) = .ok b) :
    shape.read (q.encode.draftWith carrier) = .ok q := by
  refine Shape.read_of_fills (by decide) ?_
  exact .given rfl (.given rfl (fills_boost rfl hboost))

lemma GeoDistanceLeaf.read_draftWith {q : GeoDistanceLeaf} (h : q.location.IsFinite) :
    shape.read (q.encode.draftWith carrier) = .ok q := by
  refine Shape.read_of_fills (by decide) ?_
  exact .given rfl (.given rfl (.given (DistanceType.read_name _)
    (.given (Location.read_draftWith h) (.done _))))

lemma GeoBoxLeaf.read_draftWith {q : GeoBoxLeaf} (htop : q.topLeft.IsFinite)
    (hbottom : q.bottomRight.IsFinite) : shape.read (q.encode.draftWith carrier) = .ok q := by
  refine Shape.read_of_fills (by decide) ?_
  exact .given rfl (.given (Location.read_draftWith htop)
    (.given (Location.read_draftWith hbottom) (.done _)))

/-- What it takes for a leaf clause to be carried by JSON, its boost aside. -/
def Leaf.IsCarried : Leaf → Prop
  | range q => ∀ v ∈ q.bounds, v ≠ .null ∧ v.IsStable
  | exactly q => ∀ v ∈ q.values, v.IsStable
  | geoDistance q => q.location.IsFinite
  | geoBox q => q.topLeft.IsFinite ∧ q.bottomRight.IsFinite
  | _ => True

/-- A leaf clause that is read by its shape is read under the name of its kind. -/
lemma readChoice_leafVariant {α : Type} {variants : List (Variant Query)} {name : String}
    {shape : Shape α} {wrap : α → Leaf}
    (hlookup : variants.lookup name = some (Query.leafVariant name shape wrap).2) {j : Json} {a : α}
    (h : shape.read (j.draftWith carrier) = .ok a) :
    readChoice variants ((Json.object [(name, j)]).draftWith carrier) = .ok (.leaf (wrap a)) := by
  rw [readChoice_only hlookup]
  simp only [Query.leafVariant, Variant.holding, h, ok_bind]

/-- A leaf clause is read from its JSON as itself if it is carried. -/
lemma Leaf.readChoice_encode {l : Leaf} (h : l.IsCarried)
    (hboost : ∀ b, l.boost = some b → readSingle (carrier.single b) = .ok b)
    (read : Reader Query) :
    readChoice (Query.variants read) ((Query.leaf l).encode.draftWith carrier) =
      .ok (.leaf l) := by
  rw [Query.encode]
  cases l with
  | queryString q => exact readChoice_leafVariant rfl (QueryStringLeaf.read_draftWith hboost)
  | terms q => exact readChoice_leafVariant rfl (MatchLeaf.read_draftWith hboost)
  | range q => exact readChoice_leafVariant rfl (RangeLeaf.read_draftWith h hboost)
  | present field =>
    refine readChoice_leafVariant rfl (Shape.read_of_fills (by decide) ?_)
    exact .given rfl (.done _)
  | wildcard q => exact readChoice_leafVariant rfl (WildcardLeaf.read_draftWith hboost)
  | regexp q => exact readChoice_leafVariant rfl (RegexpLeaf.read_draftWith hboost)
  | exactly q => exact readChoice_leafVariant rfl (TermsLeaf.read_draftWith h hboost)
  | fuzzy q => exact readChoice_leafVariant rfl (FuzzyLeaf.read_draftWith hboost)
  | geoDistance q => exact readChoice_leafVariant rfl (GeoDistanceLeaf.read_draftWith h)
  | geoBox q => exact readChoice_leafVariant rfl (GeoBoxLeaf.read_draftWith h.1 h.2)

end Leaves

/-! ## Queries -/

namespace Query

lemma nodup_boolKeys (read : Reader Query) :
    ((boolShape read).members.map Member.key).Nodup := by
  change ["must", "should", "must_not", "boost"].Nodup
  decide

lemma nodup_nestedKeys (read : Reader Query) :
    ((nestedShape read).members.map Member.key).Nodup := by
  change ["path", "query", "score_mode"].Nodup
  decide

/-- Clauses of one occurrence are left out if there are none. -/
lemma fills_clauses {α : Type} {key : String} {read : Reader Query} {set : α → List Query → α}
    {ms : List (Member α)} {js : List (String × Json)} {a b : α} {qs : List Query}
    (hblank : set a [] = a) (hread : ∀ q ∈ qs, read (q.encode.draftWith carrier) = .ok q)
    (rest : Fills carrier ms js (set a qs) b) :
    Fills carrier (.of key .anywhere (readList read) set :: ms)
      (clauseMember key (encodeAll qs) ++ js) a b := by
  have hall := readAll_draftItemsWith carrier (f := id) hread
  rw [List.map_id, ← encodeAll_eq_map] at hall
  cases qs with
  | nil =>
    rw [hblank] at rest
    exact .skip nofun rest
  | cons q qs => exact .given hall rest

lemma read_bool {read : Reader Query} {cs : Clauses Query} {boost : Option Binary32}
    (hread : ∀ q ∈ cs.toList, read (q.encode.draftWith carrier) = .ok q)
    (hboost : ∀ b, boost = some b → readSingle (carrier.single b) = .ok b) :
    readChoice (variants read) ((bool cs boost).encode.draftWith carrier) =
      .ok (bool cs boost) := by
  obtain ⟨must, should, mustNot⟩ := cs
  simp only [Clauses.toList, List.forall_mem_append] at hread
  obtain ⟨⟨hmust, hshould⟩, hmustNot⟩ := hread
  rw [encode, readChoice_only rfl]
  have hshape : (boolShape read).read ((Json.object (clauseMember "must" (encodeAll must) ++
      clauseMember "should" (encodeAll should) ++ clauseMember "must_not" (encodeAll mustNot) ++
      boostMember boost)).draftWith carrier) = .ok (⟨must, should, mustNot⟩, boost) := by
    refine Shape.read_of_fills (nodup_boolKeys read) ?_
    rw [List.append_assoc, List.append_assoc]
    exact fills_clauses rfl hmust (fills_clauses rfl hshould (fills_clauses rfl hmustNot
      (fills_boost rfl hboost)))
  simp only [hshape, ok_bind]

lemma read_nested {read : Reader Query} {path : String} {q : Query} {mode : ScoreMode}
    (hread : read (q.encode.draftWith carrier) = .ok q) :
    readChoice (variants read) ((nested path q mode).encode.draftWith carrier) =
      .ok (nested path q mode) := by
  rw [encode, readChoice_only rfl]
  have hshape : (nestedShape read).read ((Json.object [("path", .text path), ("query", q.encode),
      ("score_mode", .text mode.name)]).draftWith carrier) = .ok (path, q, mode) := by
    refine Shape.read_of_fills (nodup_nestedKeys read) ?_
    exact .given rfl (.given hread (.given (ScoreMode.read_name mode) (.done _)))
  simp only [hshape, ok_bind]

/-- What it takes for a query to be carried by JSON: the boosts of all its parts are read back, and
all its leaf clauses are carried. -/
def IsCarried (carrier : Carrier) (q : Query) : Prop :=
  ∀ p ∈ q.parts, (∀ b, p.boost = some b → readSingle (carrier.single b) = .ok b) ∧
    ∀ l, p = .leaf l → l.IsCarried

lemma depth_clause_lt {cs : Clauses Query} {q : Query} (hq : q ∈ cs.toList)
    (boost : Option Binary32) : q.encode.depth < (bool cs boost).encode.depth := by
  obtain ⟨must, should, mustNot⟩ := cs
  have hitems : ∀ (key : String) (qs : List Query), q ∈ qs →
      ∃ m ∈ clauseMember key (encodeAll qs), q.encode.depth < m.2.depth := by
    intro key qs hq
    refine ⟨(key, .array (encodeAll qs)), ?_, ?_⟩
    · cases qs with
      | nil => cases hq
      | cons => exact List.mem_singleton_self _
    · have hle := Json.depth_le_depthOfItems (List.mem_map_of_mem (f := encode) hq)
      rw [← encodeAll_eq_map] at hle
      rw [Json.depth]
      omega
  have hmember : ∃ m ∈ clauseMember "must" (encodeAll must) ++
      clauseMember "should" (encodeAll should) ++ clauseMember "must_not" (encodeAll mustNot) ++
      boostMember boost, q.encode.depth < m.2.depth := by
    simp only [Clauses.toList, List.mem_append] at hq
    simp only [List.mem_append]
    rcases hq with (hq | hq) | hq
    · obtain ⟨m, hm, hlt⟩ := hitems "must" must hq
      exact ⟨m, .inl (.inl (.inl hm)), hlt⟩
    · obtain ⟨m, hm, hlt⟩ := hitems "should" should hq
      exact ⟨m, .inl (.inl (.inr hm)), hlt⟩
    · obtain ⟨m, hm, hlt⟩ := hitems "must_not" mustNot hq
      exact ⟨m, .inl (.inr hm), hlt⟩
  obtain ⟨⟨key, j⟩, hm, hlt⟩ := hmember
  have hle := Json.depth_le_depthOfMembers hm
  replace hlt : q.encode.depth < j.depth := hlt
  simp only [encode, Json.depth, Json.depthOfMembers]
  omega

lemma depth_nested_lt (path : String) (q : Query) (mode : ScoreMode) :
    q.encode.depth < (nested path q mode).encode.depth := by
  simp only [encode, Json.depth, Json.depthOfMembers]
  omega

/-- A query that nests no deeper than the levels is read from its JSON as itself if it is
carried. -/
theorem readWithin_draftWith {q : Query} (h : q.IsCarried carrier) (levels : Nat)
    (hdepth : q.encode.depth ≤ levels) :
    readWithin levels (q.encode.draftWith carrier) = .ok q := by
  induction q using Query.induction generalizing levels with
  | leaf l =>
    obtain ⟨hboost, hleaf⟩ := forall_parts_leaf.1 h
    obtain ⟨levels, rfl⟩ : ∃ n, levels = n + 1 := ⟨levels - 1, by
      simp only [encode, Json.depth] at hdepth
      omega⟩
    exact Leaf.readChoice_encode (hleaf l rfl) hboost _
  | bool cs boost ih =>
    obtain ⟨⟨hboost, -⟩, hclauses⟩ := forall_parts_bool.1 h
    obtain ⟨levels, rfl⟩ : ∃ n, levels = n + 1 := ⟨levels - 1, by
      simp only [encode, Json.depth] at hdepth
      omega⟩
    refine read_bool (fun q hq => ih q hq (hclauses q hq) levels ?_) hboost
    have hlt := depth_clause_lt hq boost
    omega
  | nested path q mode ih =>
    have hlt := depth_nested_lt path q mode
    obtain ⟨levels, rfl⟩ : ∃ n, levels = n + 1 := ⟨levels - 1, by omega⟩
    exact read_nested (ih (forall_parts_nested.1 h).2 levels (by omega))

end Query

/-! ## Queries equal to themselves -/

lemma option_beq_self {α : Type} [BEq α] {o : Option α} (h : ∀ a, o = some a → (a == a) = true) :
    (o == o) = true := by
  cases o with
  | none => rfl
  | some a => exact h a rfl

lemma Value.beq_self_of_isStable {v : Value} (h : v.IsStable) : (v == v) = true :=
  v.beq_self_of_portable fun w hw => (h w hw).1

lemma RangeLeaf.beq_self {q : RangeLeaf} (hbounds : ∀ v ∈ q.bounds, v.IsStable)
    (hboost : (q.boost == q.boost) = true) : (q == q) = true := by
  change (q.field == q.field && (q.lt == q.lt && (q.lte == q.lte && (q.gt == q.gt &&
    (q.gte == q.gte && q.boost == q.boost))))) = true
  have hbound : ∀ o : Option Value, (∀ v, o = some v → v ∈ q.bounds) → (o == o) = true :=
    fun o ho => option_beq_self fun v hv => Value.beq_self_of_isStable (hbounds v (ho v hv))
  rw [hbound q.lt fun v hv => by simp [bounds, hv], hbound q.lte fun v hv => by simp [bounds, hv],
    hbound q.gt fun v hv => by simp [bounds, hv], hbound q.gte fun v hv => by simp [bounds, hv],
    hboost, beq_self_eq_true]
  rfl

lemma Location.beq_self {l : Location} (h : l.IsFinite) : (l == l) = true := by
  cases l with
  | point p =>
    change (p.lat == p.lat && p.lon == p.lon) = true
    rw [Value.beq_self_of_isFinite h.1, Value.beq_self_of_isFinite h.2, Bool.and_self]
  | geohash hash =>
    change (hash == hash) = true
    exact beq_self_eq_true hash

/-- Equality compares numbers, so that a leaf clause is equal to itself if it is carried. -/
lemma Leaf.beq_self {l : Leaf} (h : l.IsCarried)
    (hboost : ∀ b, l.boost = some b → (b == b) = true) : (l == l) = true := by
  have hb : (l.boost == l.boost) = true := option_beq_self hboost
  cases l with
  | queryString q =>
    change (q.fields == q.fields && (q.query == q.query &&
      (q.defaultOperator == q.defaultOperator &&
        (q.analyzeWildcard == q.analyzeWildcard && q.boost == q.boost)))) = true
    simpa [boost] using hb
  | terms q =>
    change (q.field == q.field && (q.query == q.query && (q.operator == q.operator &&
      q.boost == q.boost))) = true
    simpa [boost] using hb
  | range q => exact RangeLeaf.beq_self (fun v hv => (h v hv).2) hb
  | present field =>
    change (field == field) = true
    exact beq_self_eq_true field
  | wildcard q =>
    change (q.field == q.field && (q.pattern == q.pattern && q.boost == q.boost)) = true
    simpa [boost] using hb
  | regexp q =>
    change (q.field == q.field && (q.value == q.value && q.boost == q.boost)) = true
    simpa [boost] using hb
  | exactly q =>
    have hvalues := Criteria.list_beq_self fun v hv => Value.beq_self_of_isStable (h v hv)
    change (q.field == q.field && (q.values == q.values && q.boost == q.boost)) = true
    rw [hvalues]
    simpa [boost] using hb
  | fuzzy q =>
    change (q.field == q.field && (q.value == q.value && q.boost == q.boost)) = true
    simpa [boost] using hb
  | geoDistance q =>
    change (q.field == q.field && (q.distance == q.distance && (q.distanceType == q.distanceType &&
      q.location == q.location))) = true
    rw [Location.beq_self h]
    simp
  | geoBox q =>
    change (q.field == q.field && (q.topLeft == q.topLeft && q.bottomRight == q.bottomRight)) = true
    rw [Location.beq_self h.1, Location.beq_self h.2]
    simp

namespace Query

lemma beqAll_self {qs : List Query} (h : ∀ q ∈ qs, (q == q) = true) :
    Query.beqAll qs qs = true := by
  induction qs with
  | nil => rw [Query.beqAll]
  | cons q qs ih =>
    obtain ⟨hq, hqs⟩ := List.forall_mem_cons.1 h
    rw [Query.beqAll, ih hqs, Bool.and_true]
    exact hq

/-- A query is equal to itself if all its leaf clauses are carried and its boosts are numbers. -/
theorem beq_self {q : Query} (h : ∀ p ∈ q.parts, (∀ b, p.boost = some b → (b == b) = true) ∧
    ∀ l, p = .leaf l → l.IsCarried) : (q == q) = true := by
  induction q using Query.induction with
  | leaf l =>
    obtain ⟨hboost, hleaf⟩ := forall_parts_leaf.1 h
    exact Leaf.beq_self (hleaf l rfl) hboost
  | bool cs boost ih =>
    obtain ⟨⟨hboost, -⟩, hclauses⟩ := forall_parts_bool.1 h
    obtain ⟨must, should, mustNot⟩ := cs
    have hall : ∀ q ∈ must ++ should ++ mustNot, (q == q) = true := fun q hq =>
      ih q hq (hclauses q hq)
    simp only [List.forall_mem_append] at hall
    have hself : (boost == boost) = true := option_beq_self hboost
    change (Query.beqAll must must && Query.beqAll should should && Query.beqAll mustNot mustNot &&
      boost == boost) = true
    rw [beqAll_self hall.1.1, beqAll_self hall.1.2, beqAll_self hall.2, hself]
    rfl
  | nested path q mode ih =>
    change (path == path && q == q && mode == mode) = true
    rw [ih (forall_parts_nested.1 h).2]
    simp

end Query

end SearchCriteria
