/-
# Geographic points, locations and distances

A location is a point or a geohash cell.  Points can be built unchecked; `GeoPoint.checked` and
the readers of location texts let only coordinates pass that are in range.
-/
import SearchCriteria.Numeric.Text
import SearchCriteria.Text.Blank

namespace SearchCriteria

open Numeric Text

/-- Why a geographic value is refused. -/
inductive GeoError where
  /-- A latitude outside -90 to 90. -/
  | latitude (lat : Binary64)
  /-- A longitude outside -180 to 180. -/
  | longitude (lon : Binary64)
  /-- A text with a comma that is not two numbers. -/
  | malformedPoint (text : String)
  /-- A text without a comma that is not a geohash. -/
  | invalidGeohash (text : String)
  /-- A box whose top lies below its bottom. -/
  | invertedBox (top bottom : Binary64)

/-- The text of the error. -/
def GeoError.message : GeoError → String
  | latitude lat => s!"Invalid latitude: {lat} (must be between -90 and 90)"
  | longitude lon => s!"Invalid longitude: {lon} (must be between -180 and 180)"
  | malformedPoint text => s!"Malformed point '{text}' (expected \"lat,lon\")"
  | invalidGeohash text => s!"Invalid geohash '{text}'"
  | invertedBox top bottom =>
    "Invalid bounding box: " ++
      s!"top-left latitude {top} is below bottom-right latitude {bottom}"

/-! ## Points -/

/-- A point given by its coordinates in degrees. -/
structure GeoPoint where
  /-- The latitude, positive to the north. -/
  lat : Binary64
  /-- The longitude, positive to the east. -/
  lon : Binary64
deriving BEq, DecidableEq

/-- The part of a text before its first comma and the part after it. -/
def splitAtComma? : List Char → Option (List Char × List Char)
  | [] => none
  | c :: rest =>
    if c = ',' then some ([], rest)
    else (splitAtComma? rest).map fun (before, after) => (c :: before, after)

namespace GeoPoint

/-- The point with these coordinates, if they are in range. -/
def checked (lat lon : Binary64) : Except GeoError GeoPoint :=
  if !lat.isBetween (-90) 90 then .error (.latitude lat)
  else if !lon.isBetween (-180) 180 then .error (.longitude lon)
  else .ok ⟨lat, lon⟩

/-- Reads a coordinate with blanks around it. -/
def coordinate? (text : List Char) : Option Binary64 :=
  Binary.ofText? .binary64 (String.ofList (trim text))

/-- Reads a point written as two numbers with a comma between them. -/
def ofText (text : String) : Except GeoError GeoPoint :=
  match splitAtComma? text.toList with
  | none => .error (.malformedPoint text)
  | some (before, after) =>
    match coordinate? before, coordinate? after with
    | some lat, some lon => checked lat lon
    | _, _ => .error (.malformedPoint text)

/-- The point as two numbers with a comma between them. -/
def toText (p : GeoPoint) : String :=
  s!"{p.lat},{p.lon}"

end GeoPoint

/-! ## Locations -/

/-- A place on the earth. -/
inductive Location where
  /-- A place given by its coordinates. -/
  | point (p : GeoPoint)
  /-- A cell of the geohash grid. -/
  | geohash (hash : String)
deriving BEq, DecidableEq

/-- The digits of a geohash. -/
def geohashDigits : List Char := "0123456789bcdefghjkmnpqrstuvwxyz".toList

/-- The greatest number of digits of a geohash. -/
def maxGeohashLength : Nat := 12

/-- Whether a text is a geohash. -/
def isGeohash (text : String) : Bool :=
  let digits := text.toList
  digits ≠ [] && digits.length ≤ maxGeohashLength && digits.all (geohashDigits.contains ·)

namespace Location

/-- Reads a location: a point if the text has a comma, a geohash otherwise. -/
def ofText (text : String) : Except GeoError Location :=
  if text.toList.contains ',' then (GeoPoint.ofText text).map point
  else if isGeohash text then .ok (geohash text)
  else .error (.invalidGeohash text)

/-- The coordinates of a point. -/
def point? : Location → Option GeoPoint
  | point p => some p
  | geohash _ => none

/-- The text of a location, which reads back as the location. -/
def toText : Location → String
  | point p => p.toText
  | geohash hash => hash

instance : ToString Location := ⟨toText⟩

end Location

/-! ## Distances -/

/-- A unit of distances. -/
inductive DistanceUnit where
  /-- The kilometre. -/
  | kilometers
  /-- The mile. -/
  | miles
deriving DecidableEq, Repr

/-- The name of a unit. -/
def DistanceUnit.name : DistanceUnit → String
  | kilometers => "kilometers"
  | miles => "miles"

/-- The abbreviation of a unit that follows the amount. -/
def DistanceUnit.abbreviation : DistanceUnit → String
  | kilometers => "km"
  | miles => "mi"

/-- An amount of a unit. -/
structure Distance where
  /-- The amount. -/
  value : Binary64
  /-- The unit. -/
  unit : DistanceUnit
deriving BEq, DecidableEq

namespace Distance

/-- The integer part of the amount, and the unit. -/
def toText (d : Distance) : String :=
  s!"{d.value.truncate.toInt}{d.unit.abbreviation}"

/-- Whether the amount is finite and not negative; minus zero is not. -/
def isUsable (d : Distance) : Bool :=
  d.value.isFinite && !d.value.lt (.ofInt .binary64 0)

end Distance

end SearchCriteria
