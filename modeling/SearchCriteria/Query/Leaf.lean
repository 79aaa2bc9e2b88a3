/-
# Leaf clauses

The clauses of a query that hold no other clauses.  Most of them can carry a boost, a weight in
the score of the documents that match.
-/
import SearchCriteria.Config
import SearchCriteria.Value

namespace SearchCriteria

open Numeric

/-- How the terms of a text are combined. -/
inductive MatchOperator where
  /-- All of them have to match. -/
  | and
  /-- Any of them may match. -/
  | or
deriving DecidableEq, Repr

/-- The name of a match operator. -/
def MatchOperator.name : MatchOperator → String
  | and => "and"
  | or => "or"

/-- All match operators, in the order in which they are listed. -/
def MatchOperator.all : List MatchOperator := [and, or]

/-- The match operator as it stands between terms. -/
def MatchOperator.symbol : MatchOperator → String
  | and => "AND"
  | or => "OR"

/-- A text in the query-string syntax. -/
structure QueryStringLeaf where
  /-- The fields that are searched. -/
  fields : List String
  /-- The text. -/
  query : String
  /-- How terms without an operator between them are combined. -/
  defaultOperator : Option MatchOperator := none
  /-- Whether terms with wildcards are analysed. -/
  analyzeWildcard : Bool := false
  /-- The weight. -/
  boost : Option Binary32 := none
deriving BEq

/-- A text whose terms are searched. -/
structure MatchLeaf where
  /-- The field. -/
  field : String
  /-- The text. -/
  query : String
  /-- How its terms are combined. -/
  operator : MatchOperator
  /-- The weight. -/
  boost : Option Binary32 := none
deriving BEq

/-- A range of values; a bound that is missing leaves the range open. -/
structure RangeLeaf where
  /-- The field. -/
  field : String
  /-- The upper bound, excluded. -/
  lt : Option Value := none
  /-- The upper bound, included. -/
  lte : Option Value := none
  /-- The lower bound, excluded. -/
  gt : Option Value := none
  /-- The lower bound, included. -/
  gte : Option Value := none
  /-- The weight. -/
  boost : Option Binary32 := none
deriving BEq

namespace RangeLeaf

/-- The bound that a value gives: none if it is null. -/
def bound (v : Value) : Option Value :=
  if v.isNull then none else some v

/-- The range without bounds. -/
def unbounded (field : String) : RangeLeaf := ⟨field, none, none, none, none, none⟩

/-- Sets the excluded upper bound. -/
def withLt (r : RangeLeaf) (v : Value) : RangeLeaf := { r with lt := bound v }

/-- Sets the included upper bound. -/
def withLte (r : RangeLeaf) (v : Value) : RangeLeaf := { r with lte := bound v }

/-- Sets the excluded lower bound. -/
def withGt (r : RangeLeaf) (v : Value) : RangeLeaf := { r with gt := bound v }

/-- Sets the included lower bound. -/
def withGte (r : RangeLeaf) (v : Value) : RangeLeaf := { r with gte := bound v }

/-- Whether the range is open at both ends. -/
def isUnbounded (r : RangeLeaf) : Bool :=
  r.lt.isNone && r.lte.isNone && r.gt.isNone && r.gte.isNone

end RangeLeaf

/-- A pattern with `*` and `?`. -/
structure WildcardLeaf where
  /-- The field. -/
  field : String
  /-- The pattern. -/
  pattern : String
  /-- The weight. -/
  boost : Option Binary32 := none
deriving BEq

/-- A regular expression. -/
structure RegexpLeaf where
  /-- The field. -/
  field : String
  /-- The expression. -/
  value : String
  /-- The weight. -/
  boost : Option Binary32 := none
deriving BEq

/-- Any of several exact values. -/
structure TermsLeaf where
  /-- The field. -/
  field : String
  /-- The values. -/
  values : List Value
  /-- The weight. -/
  boost : Option Binary32 := none
deriving BEq

/-- A text that a term resembles. -/
structure FuzzyLeaf where
  /-- The field. -/
  field : String
  /-- The text. -/
  value : String
  /-- The weight. -/
  boost : Option Binary32 := none
deriving BEq

/-- The places within a distance of a location. -/
structure GeoDistanceLeaf where
  /-- The field. -/
  field : String
  /-- The distance, an amount followed by its unit. -/
  distance : String
  /-- How distances are calculated. -/
  distanceType : DistanceType
  /-- The location. -/
  location : Location
deriving BEq

/-- The places in a box. -/
structure GeoBoxLeaf where
  /-- The field. -/
  field : String
  /-- The corner in the north-west. -/
  topLeft : Location
  /-- The corner in the south-east. -/
  bottomRight : Location
deriving BEq

/-- The box with these corners.  Of two points, the top may not lie below the bottom. -/
def GeoBoxLeaf.checked (field : String) (topLeft bottomRight : Location) :
    Except GeoError GeoBoxLeaf :=
  match topLeft.point?, bottomRight.point? with
  | some top, some bottom =>
    if top.lat.lt bottom.lat then .error (.invertedBox top.lat bottom.lat)
    else .ok ⟨field, topLeft, bottomRight⟩
  | _, _ => .ok ⟨field, topLeft, bottomRight⟩

/-- A clause that holds no other clauses. -/
inductive Leaf where
  /-- A text in the query-string syntax. -/
  | queryString (q : QueryStringLeaf)
  /-- A text whose terms are searched. -/
  | terms (q : MatchLeaf)
  /-- A range of values. -/
  | range (q : RangeLeaf)
  /-- The field is there. -/
  | present (field : String)
  /-- A pattern. -/
  | wildcard (q : WildcardLeaf)
  /-- A regular expression. -/
  | regexp (q : RegexpLeaf)
  /-- Any of several exact values. -/
  | exactly (q : TermsLeaf)
  /-- A text that a term resembles. -/
  | fuzzy (q : FuzzyLeaf)
  /-- The places within a distance of a location. -/
  | geoDistance (q : GeoDistanceLeaf)
  /-- The places in a box. -/
  | geoBox (q : GeoBoxLeaf)
deriving BEq

namespace Leaf

/-- The name of the kind of clause. -/
def typeName : Leaf → String
  | queryString _ => "query_string"
  | terms _ => "match"
  | range _ => "range"
  | present _ => "exists"
  | wildcard _ => "wildcard"
  | regexp _ => "regexp"
  | exactly _ => "terms"
  | fuzzy _ => "fuzzy"
  | geoDistance _ => "geo_distance"
  | geoBox _ => "geo_bounding_box"

/-- The boost, if the clause has one. -/
def boost : Leaf → Option Binary32
  | queryString q => q.boost
  | terms q => q.boost
  | range q => q.boost
  | wildcard q => q.boost
  | regexp q => q.boost
  | exactly q => q.boost
  | fuzzy q => q.boost
  | present _ => none
  | geoDistance _ => none
  | geoBox _ => none

/-- The clause with another boost; a clause that carries none stays as it is. -/
def setBoost (boost : Option Binary32) : Leaf → Leaf
  | queryString q => queryString { q with boost }
  | terms q => terms { q with boost }
  | range q => range { q with boost }
  | wildcard q => wildcard { q with boost }
  | regexp q => regexp { q with boost }
  | exactly q => exactly { q with boost }
  | fuzzy q => fuzzy { q with boost }
  | present field => present field
  | geoDistance q => geoDistance q
  | geoBox q => geoBox q

end Leaf

/-! ## Texts -/

/-- The mark of a boost behind a clause. -/
def boostText : Option Binary32 → String
  | none => ""
  | some boost => s!"^{boost}"

/-- The text of a range: square brackets include a bound, curly ones exclude it, and `*` stands
for an open end.  An included bound hides an excluded one. -/
def RangeLeaf.toText (r : RangeLeaf) : String :=
  let lower := match r.gte, r.gt with
    | some v, _ => s!"[{v}"
    | none, some v => "\x7b" ++ v.toText
    | none, none => "[*"
  let upper := match r.lte, r.lt with
    | some v, _ => s!"{v}]"
    | none, some v => v.toText ++ "\x7d"
    | none, none => "*]"
  s!"{r.field}:{lower} TO {upper}"

/-- The text of a leaf clause. -/
def Leaf.toText : Leaf → String
  | queryString q =>
    let fields := String.intercalate "," q.fields
    s!"{fields}:({q.query}){boostText q.boost}"
  | terms q => s!"{q.field}:\"{q.query}\"~{q.operator.symbol}{boostText q.boost}"
  | range q => q.toText ++ boostText q.boost
  | present field => s!"_exists_:{field}"
  | wildcard q => s!"{q.field}:{q.pattern}{boostText q.boost}"
  | regexp q => s!"{q.field}:/{q.value}/{boostText q.boost}"
  | exactly q =>
    let values := String.intercalate " " (q.values.map Value.toText)
    s!"{q.field}:({values}){boostText q.boost}"
  | fuzzy q => s!"{q.field}:{q.value}~{boostText q.boost}"
  | geoDistance q => s!"geo_distance({q.field}, {q.location}, {q.distance})"
  | geoBox q => s!"geo_bbox({q.field}, {q.topLeft}, {q.bottomRight})"

end SearchCriteria
