/-
# Geographic values in JSON

Points, locations and distances have no name of their kind in JSON; they are recognised by their
members.  Points and distances may also be arrays of two items.
-/
import SearchCriteria.Geo.Basic
import SearchCriteria.Json.Reader

namespace SearchCriteria

open Numeric

/-- The 64-bit number that a JSON value is. -/
def Json.number? : Json → Option Binary64
  | .integer n => some (.ofInt .binary64 n)
  | .float x => some x
  | .single x => some (x.convert .binary64)
  | _ => none

/-- The string that a JSON value is. -/
def Json.text? : Json → Option String
  | .text s => some s
  | _ => none

/-- The value of the only member with a key. -/
def Json.only? (key : String) (members : List (String × Json)) : Option Json :=
  match members.filter (·.1 == key) with
  | [(_, value)] => some value
  | _ => none

/-- The values of two members, or the two items of an array. -/
def Json.two? (first second : String) : Json → Option (Json × Json)
  | .array [a, b] => some (a, b)
  | .object members => do
    let a ← only? first members
    let b ← only? second members
    some (a, b)
  | _ => none

namespace GeoPoint

/-- The JSON value of a point. -/
def encode (p : GeoPoint) : Json :=
  .object [("lat", .float p.lat), ("lon", .float p.lon)]

/-- The point that a JSON value is; its coordinates are not checked. -/
def ofJson? (j : Json) : Option GeoPoint := do
  let (lat, lon) ← j.two? "lat" "lon"
  some ⟨← lat.number?, ← lon.number?⟩

end GeoPoint

namespace Location

/-- The JSON value of a location. -/
def encode : Location → Json
  | point p => p.encode
  | geohash hash => .object [("geohash", .text hash)]

/-- The geohash that a JSON value holds; its digits are not checked. -/
def geohash? : Json → Option Location
  | .object members => do
    let hash ← Json.only? "geohash" members
    some (.geohash (← hash.text?))
  | _ => none

/-- The location that a JSON value is. -/
def ofJson? (j : Json) : Option Location :=
  match GeoPoint.ofJson? j with
  | some p => some (.point p)
  | none => geohash? j

/-- Reads a location. -/
def read : Reader Location := fun draft => do
  let j ← readJson draft
  match ofJson? j with
  | some l => .ok l
  | none => .error (.mismatch (.noAlternative "GeoLocation"))

end Location

namespace DistanceUnit

/-- The unit with a name. -/
def ofName? : String → Option DistanceUnit
  | "kilometers" => some .kilometers
  | "miles" => some .miles
  | _ => none

/-- The unit that a JSON value is: its name, or an object with its name and nothing else. -/
def ofJson? : Json → Option DistanceUnit
  | .text name => ofName? name
  | .object [(name, .null)] => ofName? name
  | _ => none

end DistanceUnit

namespace Distance

/-- The JSON value of a distance. -/
def encode (d : Distance) : Json :=
  .object [("value", .float d.value), ("unit", .text d.unit.name)]

/-- The distance that a JSON value is. -/
def ofJson? (j : Json) : Option Distance := do
  let (value, unit) ← j.two? "value" "unit"
  some ⟨← value.number?, ← DistanceUnit.ofJson? unit⟩

end Distance

end SearchCriteria
