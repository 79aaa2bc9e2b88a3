/-
# Queries in JSON

A query is an object whose only key is the kind of query.  Members without a value are left
out.
-/
import SearchCriteria.Codec.Names
import SearchCriteria.Codec.Value
import SearchCriteria.Compile.Chain

namespace SearchCriteria

open Numeric

/-- The members for a boost. -/
def boostMember : Option Binary32 → List (String × Json) :=
  Json.optionalMember "boost" .single

namespace QueryStringLeaf

/-- The members of a query-string clause. -/
def encode (q : QueryStringLeaf) : Json :=
  .object ([("fields", .array (q.fields.map .text)), ("query", .text q.query)] ++
    Json.optionalMember "default_operator" (fun o : MatchOperator => .text o.name)
      q.defaultOperator ++
    (if q.analyzeWildcard then [("analyze_wildcard", .bool true)] else []) ++
    boostMember q.boost)

/-- How a query-string clause is read. -/
def shape : Shape QueryStringLeaf where
  name := "QueryStringQuery"
  blank := ⟨[], "", none, false, none⟩
  members := [
    .of "fields" .refused (readList readText) fun q fields => { q with fields },
    .of "query" .refused readText fun q query => { q with query },
    .of "default_operator" .anywhere (readOption MatchOperator.read)
      fun q defaultOperator => { q with defaultOperator },
    .of "analyze_wildcard" .anywhere readBool
      fun q analyzeWildcard => { q with analyzeWildcard },
    .of "boost" .anywhere (readOption readSingle) fun q boost => { q with boost }]

end QueryStringLeaf

namespace MatchLeaf

/-- The members of a match clause. -/
def encode (q : MatchLeaf) : Json :=
  .object ([("field", .text q.field), ("query", .text q.query),
    ("operator", .text q.operator.name)] ++ boostMember q.boost)

/-- How a match clause is read. -/
def shape : Shape MatchLeaf where
  name := "MatchQuery"
  blank := ⟨"", "", .and, none⟩
  members := [
    .of "field" .refused readText fun q field => { q with field },
    .of "query" .refused readText fun q query => { q with query },
    .of "operator" .refused MatchOperator.read fun q operator => { q with operator },
    .of "boost" .anywhere (readOption readSingle) fun q boost => { q with boost }]

end MatchLeaf

namespace RangeLeaf

/-- The members of a range clause. -/
def encode (q : RangeLeaf) : Json :=
  .object ([("field", .text q.field)] ++
    Json.optionalMember "lt" Value.encode q.lt ++
    Json.optionalMember "lte" Value.encode q.lte ++
    Json.optionalMember "gt" Value.encode q.gt ++
    Json.optionalMember "gte" Value.encode q.gte ++
    boostMember q.boost)

/-- How a range clause is read. -/
def shape : Shape RangeLeaf where
  name := "RangeQuery"
  blank := .unbounded ""
  members := [
    .of "field" .refused readText fun q field => { q with field },
    .of "lt" .anywhere (readOption Value.read) fun q lt => { q with lt },
    .of "lte" .anywhere (readOption Value.read) fun q lte => { q with lte },
    .of "gt" .anywhere (readOption Value.read) fun q gt => { q with gt },
    .of "gte" .anywhere (readOption Value.read) fun q gte => { q with gte },
    .of "boost" .anywhere (readOption readSingle) fun q boost => { q with boost }]

end RangeLeaf

/-- How a clause that a field is there is read. -/
def presentShape : Shape String where
  name := "ExistsQuery"
  blank := ""
  members := [.of "field" .refused readText fun _ field => field]

namespace WildcardLeaf

/-- The members of a wildcard clause. -/
def encode (q : WildcardLeaf) : Json :=
  .object ([("field", .text q.field), ("pattern", .text q.pattern)] ++ boostMember q.boost)

/-- How a wildcard clause is read. -/
def shape : Shape WildcardLeaf where
  name := "WildcardQuery"
  blank := ⟨"", "", none⟩
  members := [
    .of "field" .refused readText fun q field => { q with field },
    .of "pattern" .refused readText fun q pattern => { q with pattern },
    .of "boost" .anywhere (readOption readSingle) fun q boost => { q with boost }]

end WildcardLeaf

namespace RegexpLeaf

/-- The members of a regular-expression clause. -/
def encode (q : RegexpLeaf) : Json :=
  .object ([("field", .text q.field), ("value", .text q.value)] ++ boostMember q.boost)

/-- How a regular-expression clause is read. -/
def shape : Shape RegexpLeaf where
  name := "RegexpQuery"
  blank := ⟨"", "", none⟩
  members := [
    .of "field" .refused readText fun q field => { q with field },
    .of "value" .refused readText fun q value => { q with value },
    .of "boost" .anywhere (readOption readSingle) fun q boost => { q with boost }]

end RegexpLeaf

namespace TermsLeaf

/-- The members of an exact-values clause. -/
def encode (q : TermsLeaf) : Json :=
  .object ([("field", .text q.field), ("values", .array (q.values.map Value.encode))] ++
    boostMember q.boost)

/-- How an exact-values clause is read. -/
def shape : Shape TermsLeaf where
  name := "TermsQuery"
  blank := ⟨"", [], none⟩
  members := [
    .of "field" .refused readText fun q field => { q with field },
    .of "values" .refused (readList Value.read) fun q values => { q with values },
    .of "boost" .anywhere (readOption readSingle) fun q boost => { q with boost }]

end TermsLeaf

namespace FuzzyLeaf

/-- The members of a fuzzy clause. -/
def encode (q : FuzzyLeaf) : Json :=
  .object ([("field", .text q.field), ("value", .text q.value)] ++ boostMember q.boost)

/-- How a fuzzy clause is read. -/
def shape : Shape FuzzyLeaf where
  name := "FuzzyQuery"
  blank := ⟨"", "", none⟩
  members := [
    .of "field" .refused readText fun q field => { q with field },
    .of "value" .refused readText fun q value => { q with value },
    .of "boost" .anywhere (readOption readSingle) fun q boost => { q with boost }]

end FuzzyLeaf

namespace GeoDistanceLeaf

/-- The members of a geographic distance clause. -/
def encode (q : GeoDistanceLeaf) : Json :=
  .object [("field", .text q.field), ("distance", .text q.distance),
    ("type", .text q.distanceType.name), ("location", q.location.encode)]

/-- How a geographic distance clause is read. -/
def shape : Shape GeoDistanceLeaf where
  name := "GeoDistanceQuery"
  blank := ⟨"", "", .plane, .geohash ""⟩
  members := [
    .of "field" .refused readText fun q field => { q with field },
    .of "distance" .refused readText fun q distance => { q with distance },
    .of "type" .refused DistanceType.read fun q distanceType => { q with distanceType },
    .of "location" .refused Location.read fun q location => { q with location }]

end GeoDistanceLeaf

namespace GeoBoxLeaf

/-- The members of a box clause. -/
def encode (q : GeoBoxLeaf) : Json :=
  .object [("field", .text q.field), ("top_left", q.topLeft.encode),
    ("bottom_right", q.bottomRight.encode)]

/-- How a box clause is read. -/
def shape : Shape GeoBoxLeaf where
  name := "GeoBoundingBoxQuery"
  blank := ⟨"", .geohash "", .geohash ""⟩
  members := [
    .of "field" .refused readText fun q field => { q with field },
    .of "top_left" .refused Location.read fun q topLeft => { q with topLeft },
    .of "bottom_right" .refused Location.read fun q bottomRight => { q with bottomRight }]

end GeoBoxLeaf

/-- The members of a leaf clause. -/
def Leaf.encode : Leaf → Json
  | .queryString q => q.encode
  | .terms q => q.encode
  | .range q => q.encode
  | .present field => .object [("field", .text field)]
  | .wildcard q => q.encode
  | .regexp q => q.encode
  | .exactly q => q.encode
  | .fuzzy q => q.encode
  | .geoDistance q => q.encode
  | .geoBox q => q.encode

namespace Query

/-- The members for clauses of one occurrence, none without clauses. -/
def clauseMember (key : String) : List Json → List (String × Json)
  | [] => []
  | items => [(key, .array items)]

mutual

/-- The JSON value of a query. -/
def encode : Query → Json
  | leaf l => .object [(l.typeName, l.encode)]
  | bool ⟨must, should, mustNot⟩ boost =>
    .object [("bool", .object (clauseMember "must" (encodeAll must) ++
      clauseMember "should" (encodeAll should) ++ clauseMember "must_not" (encodeAll mustNot) ++
      boostMember boost))]
  | nested path q mode =>
    .object [("nested", .object [("path", .text path), ("query", encode q),
      ("score_mode", .text mode.name)])]

/-- The JSON values of queries. -/
def encodeAll : List Query → List Json
  | [] => []
  | q :: qs => encode q :: encodeAll qs

end

theorem encodeAll_eq_map (qs : List Query) : encodeAll qs = qs.map encode := by
  induction qs with
  | nil => rw [encodeAll, List.map_nil]
  | cons q qs ih => rw [encodeAll, ih, List.map_cons]

/-- How a combination is read, given how queries are read. -/
def boolShape (read : Reader Query) : Shape (Clauses Query × Option Binary32) where
  name := "BoolQuery"
  blank := ({}, none)
  members := [
    .of "must" .anywhere (readList read) fun (cs, boost) must => ({ cs with must }, boost),
    .of "should" .anywhere (readList read) fun (cs, boost) should => ({ cs with should }, boost),
    .of "must_not" .anywhere (readList read)
      fun (cs, boost) mustNot => ({ cs with mustNot }, boost),
    .of "boost" .anywhere (readOption readSingle) fun (cs, _) boost => (cs, boost)]

/-- How a query on nested documents is read, given how queries are read. -/
def nestedShape (read : Reader Query) : Shape (String × Query × ScoreMode) where
  name := "NestedQuery"
  blank := ("", leaf (.present ""), .avg)
  members := [
    .of "path" .refused readText fun (_, q, mode) path => (path, q, mode),
    .of "query" .refused read fun (path, _, mode) q => (path, q, mode),
    .of "score_mode" .refused ScoreMode.read fun (path, q, _) mode => (path, q, mode)]

/-- The kind of query that holds a leaf clause of the given shape. -/
def leafVariant {α : Type} (name : String) (shape : Shape α) (wrap : α → Leaf) : Variant Query :=
  .holding name fun draft => do
    let a ← shape.read draft
    .ok (leaf (wrap a))

/-- The kinds of queries, given how the queries inside them are read. -/
def variants (read : Reader Query) : List (Variant Query) := [
  .holding "bool" fun draft => do
    let (clauses, boost) ← (boolShape read).read draft
    .ok (bool clauses boost),
  leafVariant "query_string" QueryStringLeaf.shape .queryString,
  leafVariant "match" MatchLeaf.shape .terms,
  leafVariant "range" RangeLeaf.shape .range,
  leafVariant "exists" presentShape .present,
  leafVariant "wildcard" WildcardLeaf.shape .wildcard,
  leafVariant "regexp" RegexpLeaf.shape .regexp,
  leafVariant "terms" TermsLeaf.shape .exactly,
  leafVariant "fuzzy" FuzzyLeaf.shape .fuzzy,
  leafVariant "geo_distance" GeoDistanceLeaf.shape .geoDistance,
  leafVariant "geo_bounding_box" GeoBoxLeaf.shape .geoBox,
  .holding "nested" fun draft => do
    let (path, q, mode) ← (nestedShape read).read draft
    .ok (nested path q mode)]

/-- Reads a query that nests queries less deep than `levels`. -/
def readWithin : (levels : Nat) → Reader Query
  | 0, _ => .error .malformed
  | levels + 1, draft => readChoice (variants (readWithin levels)) draft

/-- Reads a query. -/
def read : Reader Query := readWithin maxDepth

end Query

namespace Config

/-- The JSON value of a configuration. -/
def encode (config : Config) : Json :=
  .object [("nested_score_mode", .text config.nestedScoreMode.name),
    ("geo_distance_type", .text config.geoDistanceType.name)]

/-- How a configuration is read; what it does not say keeps its default. -/
def shape : Shape Config where
  name := "CompilerConfig"
  blank := {}
  members := [
    .of "nested_score_mode" .anywhere ScoreMode.read
      fun config nestedScoreMode => { config with nestedScoreMode },
    .of "geo_distance_type" .anywhere DistanceType.read
      fun config geoDistanceType => { config with geoDistanceType }]

/-- Reads a configuration. -/
def read : Reader Config := shape.read

end Config

namespace Compiled

/-- The JSON value of compiled criteria. -/
def encode (compiled : Compiled) : Json :=
  .object [("query", Json.ofOption Query.encode compiled.query),
    ("filter", Json.ofOption Query.encode compiled.filter)]

/-- How compiled criteria are read. -/
def shape : Shape Compiled where
  name := "CompiledCriteria"
  blank := ⟨none, none⟩
  members := [
    .of "query" .inObject (readOption Query.read) fun compiled query => { compiled with query },
    .of "filter" .inObject (readOption Query.read)
      fun compiled filter => { compiled with filter }]

/-- Reads compiled criteria. -/
def read : Reader Compiled := shape.read

end Compiled

end SearchCriteria
