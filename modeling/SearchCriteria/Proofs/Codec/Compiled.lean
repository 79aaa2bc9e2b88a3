/-
# Compiled criteria written and read back

What compiled criteria are written as says everything about them: what is left out is what reading
puts there by default, and of the values that may stand in a query none is taken for something else
but texts that read as moments.

Main statement: compiled criteria are read back from their text as themselves, and so is each of the
two queries, be it from its text or from its tree, in which 32-bit numbers have been widened.
-/
import SearchCriteria.Proofs.Codec.NormalForm
import SearchCriteria.Proofs.Codec.Query
import SearchCriteria.Proofs.Codec.RoundTrip
import SearchCriteria.Proofs.Numeric.Rounding

namespace SearchCriteria

open Numeric Time Outcome

/-! ## Trees -/

/-- Reads a JSON value that is given as a tree and not as a text. -/
def readTree {α : Type} (read : Reader α) (j : Json) : ReadResult α :=
  read j.draft

/-- What a tree makes of numbers: a 32-bit number is widened. -/
def Carrier.widened : Carrier where
  integer n := .integer n
  single x := if x.isFinite then .float (x.convert .binary64) else .null
  integer_toInt _ := rfl
  limit_integer _ levels := Json.limit_of_scalar (by simp) (by simp) levels
  limit_single x levels := by
    split <;> exact Json.limit_of_scalar (by simp) (by simp) levels

lemma Carrier.widened_single (x : Binary32) : Carrier.widened.single x =
    if x.isFinite then .float (x.convert .binary64) else .null := rfl

namespace Json

mutual

/-- The draft of a widened tree has the numbers of the tree, widened. -/
theorem draft_widen : ∀ j : Json, j.widen.draft = j.draftWith .widened
  | null => by rw [widen, draft, draftWith]
  | bool _ => by rw [widen, draft, draftWith]
  | integer _ => by rw [widen, draft, draftWith, Carrier.widened]
  | float x => by
    rw [widen, draftWith]
    split
    case isTrue h => rw [draft, if_pos h]
    case isFalse => rw [draft]
  | single x => by
    rw [widen, draftWith, Carrier.widened_single]
    split
    case isTrue h => rw [draft, if_pos (Binary.convert_convert_single h).1]
    case isFalse => rw [draft]
  | text _ => by rw [widen, draft, draftWith]
  | array items => by rw [widen, draft, draftWith, draftItems_widenItems items]
  | object members => by rw [widen, draft, draftWith, draftMembers_widenMembers members]

theorem draftItems_widenItems : ∀ items : List Json,
    draftItems (widenItems items) = draftItemsWith .widened items
  | [] => by rw [widenItems, draftItems, draftItemsWith]
  | item :: rest => by
    rw [widenItems, draftItems, draftItemsWith, draft_widen item, draftItems_widenItems rest]

theorem draftMembers_widenMembers : ∀ members : List (String × Json),
    draftMembers (widenMembers members) = draftMembersWith .widened members
  | [] => by rw [widenMembers, draftMembers, draftMembersWith]
  | (key, value) :: rest => by
    rw [widenMembers, draftMembers, draftMembersWith, draft_widen value,
      draftMembers_widenMembers rest]

end

end Json

/-- A finite 32-bit number that has been widened is read as itself. -/
lemma readSingle_widened {x : Binary32} (h : x.isFinite = true) :
    readSingle (Carrier.widened.single x) = .ok x := by
  rw [Carrier.widened_single, if_pos h, readSingle, (Binary.convert_convert_single h).2]

/-! ## What a compilation makes of values -/

/-- The values of a leaf clause of a compiled query are carried, if they are finite and no text
reads as a moment; so are the locations of a filter, which are valid. -/
lemma Leaf.isCarried_of_compiled {l : Leaf} (h : l.InQuery ∨ l.InFilter)
    (hfinite : ∀ x, .float x ∈ l.values → x.isFinite = true)
    (hmoment : ∀ s, .text s ∈ l.values → DateTime.ofText? s = none) : l.IsCarried := by
  have hportable : ∀ v ∈ l.values, v.isScalar = true → v.isPortable = true := by
    intro v hv hscalar
    cases v with
    | float x => exact hfinite x hv
    | text s => exact Option.isNone_iff_eq_none.2 (hmoment s hv)
    | point p => cases hscalar
    | distance d => cases hscalar
    | _ => rfl
  have hstable : ∀ v ∈ l.values, v.isScalar = true → v ≠ .null ∧ v.IsStable := by
    intro v hv hscalar
    refine ⟨?_, Value.isStable_of_isScalar hscalar (hportable v hv hscalar)⟩
    rintro rfl
    cases hscalar
  have hlocation : ∀ place : Location, place.IsValid → place.IsFinite := by
    intro place hvalid
    cases place with
    | point p => exact GeoPoint.InRange.isFinite hvalid
    | geohash hash => trivial
  cases l with
  | range q => exact fun v hv => hstable v hv ((h.resolve_right id).scalar v hv)
  | exactly q => exact fun v hv => (hstable v hv ((h.resolve_right id).2 v hv)).2
  | geoDistance q => exact hlocation _ (h.resolve_left id)
  | geoBox q =>
    obtain ⟨htop, hbottom⟩ : q.topLeft.IsValid ∧ q.bottomRight.IsValid := h.resolve_left id
    exact ⟨hlocation _ htop, hlocation _ hbottom⟩
  | _ => trivial

namespace Compiled

/-- The query and the filter, as far as they are there. -/
def queries (compiled : Compiled) : List Query :=
  compiled.query.toList ++ compiled.filter.toList

lemma mem_queries {compiled : Compiled} {q : Query} :
    q ∈ compiled.queries ↔ compiled.query = some q ∨ compiled.filter = some q := by
  simp [queries]

lemma depth_lt_of_mem {compiled : Compiled} {q : Query} (hq : q ∈ compiled.queries) :
    q.encode.depth < compiled.encode.depth := by
  rcases mem_queries.1 hq with hq | hq
  · simp only [encode, hq, Json.ofOption, Json.depth, Json.depthOfMembers]
    omega
  · simp only [encode, hq, Json.ofOption, Json.depth, Json.depthOfMembers]
    omega

/-- Compiled criteria are read from their JSON as themselves if both queries are carried. -/
lemma read_draftWith {carrier : Carrier} {compiled : Compiled}
    (hdepth : compiled.encode.depth ≤ maxDepth)
    (h : ∀ q ∈ compiled.queries, q.IsCarried carrier) :
    read (compiled.encode.draftWith carrier) = .ok compiled := by
  have hread : ∀ o : Option Query, (∀ q, o = some q → q ∈ compiled.queries) →
      readOption Query.read ((Json.ofOption Query.encode o).draftWith carrier) = .ok o := by
    intro o ho
    cases o with
    | none => rfl
    | some q =>
      have hq := ho q rfl
      have hlt := depth_lt_of_mem hq
      have hself : Query.read (q.encode.draftWith carrier) = .ok q :=
        Query.readWithin_draftWith (h q hq) maxDepth (by omega)
      have hobject : ∃ members, q.encode.draftWith carrier = .object members := by
        cases q <;> exact ⟨_, by rw [Query.encode, Json.draftWith]⟩
      obtain ⟨members, hmembers⟩ := hobject
      rw [hmembers] at hself
      simp only [Json.ofOption, hmembers, readOption, hself, ok_bind]
  refine Shape.read_of_fills (by decide) ?_
  exact .given (hread _ fun q hq => mem_queries.2 (.inl hq))
    (.given (hread _ fun q hq => mem_queries.2 (.inr hq)) (.done _))

lemma beq_self {compiled : Compiled} (h : ∀ q ∈ compiled.queries, (q == q) = true) :
    (compiled == compiled) = true := by
  change (compiled.query == compiled.query && compiled.filter == compiled.filter) = true
  rw [option_beq_self fun q hq => h q (mem_queries.2 (.inl hq)),
    option_beq_self fun q hq => h q (mem_queries.2 (.inr hq))]
  rfl

end Compiled

namespace Criteria

lemma inQuery_or_inFilter_of_compile {config : Config} {c : Criteria} {compiled : Compiled}
    (h : c.compile config = .ok compiled) {q : Query} (hq : q ∈ compiled.queries) {l : Leaf}
    (hl : .leaf l ∈ q.parts) : l.InQuery ∨ l.InFilter := by
  obtain ⟨query, hquery, h⟩ := bind_eq_ok_iff.1 h
  obtain ⟨filter, hfilter, h⟩ := bind_eq_ok_iff.1 h
  obtain rfl := Except.ok.inj h
  rcases Compiled.mem_queries.1 hq with rfl | rfl
  · exact .inl (isNormal_of_compileQuery hquery _ hl).2.1
  · exact .inr (isNormal_of_compileFilter hfilter _ hl).2

/-- Compiled criteria are read back from their text as themselves, and equal to themselves, if they
nest no deeper than the limit, all numbers in them are finite, no text that a range or a list
compares with reads as a moment, and boosts are read back from their texts.  Each of the two
queries is read back as itself both from its text and from its widened tree. -/
theorem compiled_readBack {config : Config} {c : Criteria} {compiled : Compiled}
    (hcompile : c.compile config = .ok compiled) (hdepth : compiled.encode.depth ≤ maxDepth)
    (hfinite : ∀ q ∈ compiled.queries, q.HasFiniteNumbers)
    (hmoment : ∀ q ∈ compiled.queries, ∀ l, .leaf l ∈ q.parts → ∀ s, .text s ∈ l.values →
      DateTime.ofText? s = none)
    (hboost : ∀ q ∈ compiled.queries, ∀ p ∈ q.parts, ∀ b, p.boost = some b →
      readFrom readSingle (Json.single b).toText = .ok b) :
    readFrom Compiled.read compiled.encode.toText = .ok compiled ∧
      (compiled == compiled) = true ∧
      ∀ q ∈ compiled.queries, readFrom Query.read q.encode.toText = .ok q ∧
        readTree Query.read q.encode.widen = .ok q := by
  have hleaf : ∀ q ∈ compiled.queries, ∀ l, .leaf l ∈ q.parts → l.IsCarried := fun q hq l hl =>
    Leaf.isCarried_of_compiled (inQuery_or_inFilter_of_compile hcompile hq hl)
      ((hfinite q hq).1 l hl) (hmoment q hq l hl)
  have htext : ∀ q ∈ compiled.queries, q.IsCarried .text := fun q hq p hp =>
    ⟨fun b hb => readSingle_text (hboost q hq p hp b hb), fun l hl => hleaf q hq l (hl ▸ hp)⟩
  have htree : ∀ q ∈ compiled.queries, q.IsCarried .widened := fun q hq p hp =>
    ⟨fun b hb => readSingle_widened ((hfinite q hq).2 p hp b hb),
      fun l hl => hleaf q hq l (hl ▸ hp)⟩
  have hself : ∀ q ∈ compiled.queries, (q == q) = true := fun q hq => Query.beq_self fun p hp =>
    ⟨fun b hb => Value.beq_self_of_isFinite ((hfinite q hq).2 p hp b hb),
      fun l hl => hleaf q hq l (hl ▸ hp)⟩
  refine ⟨?_, Compiled.beq_self hself, fun q hq => ⟨?_, ?_⟩⟩
  · rw [readFrom_toText _ hdepth]
    exact Compiled.read_draftWith hdepth htext
  · have hlt := Compiled.depth_lt_of_mem hq
    rw [readFrom_toText _ (by omega)]
    exact Query.readWithin_draftWith (htext q hq) maxDepth (by omega)
  · have hlt := Compiled.depth_lt_of_mem hq
    rw [readTree, Json.draft_widen]
    exact Query.readWithin_draftWith (htree q hq) maxDepth (by omega)

/-- Adults among the people of a document, with a boost, who have one of two names and live in a
cell of the grid. -/
def ratedAdults : Criteria :=
  (((((on ⟨"age", some "people", .analyzed⟩).between (.float (.ofInt .binary64 18)) .null).boost
    (.ofInt .binary32 2)).and ⟨"name", none, .keyword⟩).oneOf [.text "a", .text "b"]).within
      (.text "u281z") (.text "5km")

/-- The query and the filter of the adults. -/
def compiledAdults : Compiled where
  query := some (.bool {
    must := [
      .nested "people" (.leaf (.range { RangeLeaf.unbounded "age" with
        gte := some (.float (.ofInt .binary64 18)), boost := some (.ofInt .binary32 2) })) .avg,
      .leaf (.exactly ⟨"name", [.text "a", .text "b"], none⟩)] } none)
  filter := some (.leaf (.geoDistance ⟨"name", "5km", .plane, .geohash "u281z"⟩))

/-- A nested range with a boost and a list of values are read back beside the filter. -/
theorem compiled_readBack_adults : ratedAdults.compile {} = .ok compiledAdults ∧
    compiledAdults.encode.depth ≤ maxDepth ∧
    readFrom Compiled.read compiledAdults.encode.toText = .ok compiledAdults := by
  have hcompile : ratedAdults.compile {} = .ok compiledAdults := rfl
  have hdepth : compiledAdults.encode.depth ≤ maxDepth := by decide
  have heighteen : (Binary.ofInt .binary64 18).isFinite = true := by decide +kernel
  have htwo : (Binary.ofInt .binary32 2).isFinite = true := by decide +kernel
  have hread : (readFrom readSingle (Json.single (.ofInt .binary32 2)).toText).toOption =
      some (.ofInt .binary32 2) := by decide +kernel
  have hfinite : ∀ q ∈ compiledAdults.queries, q.HasFiniteNumbers := by
    simp [compiledAdults, Compiled.queries, Query.HasFiniteNumbers, Clauses.toList, Leaf.values,
      RangeLeaf.bounds, RangeLeaf.unbounded, Query.boost, Leaf.boost, heighteen, htwo]
  have hmoment : ∀ q ∈ compiledAdults.queries, ∀ l, .leaf l ∈ q.parts → ∀ s, .text s ∈ l.values →
      DateTime.ofText? s = none := by
    simp [compiledAdults, Compiled.queries, Clauses.toList, Leaf.values, RangeLeaf.bounds,
      RangeLeaf.unbounded]
    decide
  have hboost : ∀ q ∈ compiledAdults.queries, ∀ p ∈ q.parts, ∀ b, p.boost = some b →
      readFrom readSingle (Json.single b).toText = .ok b := by
    simp [compiledAdults, Compiled.queries, Clauses.toList, RangeLeaf.unbounded, Query.boost,
      Leaf.boost, eq_ok_of_toOption hread]
  exact ⟨hcompile, hdepth, (compiled_readBack hcompile hdepth hfinite hmoment hboost).1⟩

end Criteria

end SearchCriteria
