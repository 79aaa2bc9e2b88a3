/-
# Values in JSON

A value is written without the name of its shape, and its shape is recognised when it is read.
A text that is a moment reads as one; an array of two numbers reads as a point, and one of a
number and a unit as a distance.
-/
import SearchCriteria.Codec.Geo
import SearchCriteria.Time.Reader
import SearchCriteria.Value

namespace SearchCriteria

open Numeric Time

namespace Value

mutual

/-- The JSON value of a value. -/
def encode : Value → Json
  | null => .null
  | bool b => .bool b
  | integer n => .integer n.toInt
  | float x => .float x
  | dateTime t => .text t.toJsonText
  | text s => .text s
  | point p => p.encode
  | distance d => d.encode
  | list values => .array (encodeAll values)

/-- The JSON values of values. -/
def encodeAll : List Value → List Json
  | [] => []
  | v :: vs => encode v :: encodeAll vs

end

theorem encodeAll_eq_map (vs : List Value) : encodeAll vs = vs.map encode := by
  induction vs with
  | nil => rw [encodeAll, List.map_nil]
  | cons v vs ih => rw [encodeAll, ih, List.map_cons]

/-- The value that a whole number is: an integer if it fits. -/
def ofInt (n : Int) : Value :=
  if Int64.minValue.toInt ≤ n ∧ n ≤ Int64.maxValue.toInt then integer (Int64.ofInt n)
  else float (.ofInt .binary64 n)

/-- The value that a string is: a moment if it reads as one. -/
def ofText (s : String) : Value :=
  match DateTime.ofText? s with
  | some t => dateTime t
  | none => text s

/-- The point or the distance that a JSON value is. -/
def ofGeo? (j : Json) : Option Value :=
  match GeoPoint.ofJson? j with
  | some p => some (point p)
  | none => (Distance.ofJson? j).map distance

mutual

/-- The value that a JSON value is. -/
def ofJson? : Json → Option Value
  | .null => some null
  | .bool b => some (bool b)
  | .integer n => some (ofInt n)
  | .float x => some (float x)
  | .single x => some (ofSingle x)
  | .text s => some (ofText s)
  | .array items =>
    match ofGeo? (.array items) with
    | some v => some v
    | none => (ofJsons? items).map list
  | .object members => ofGeo? (.object members)

/-- The values that JSON values are. -/
def ofJsons? : List Json → Option (List Value)
  | [] => some []
  | j :: js => do
    let v ← ofJson? j
    let vs ← ofJsons? js
    some (v :: vs)

end

/-- Reads a value. -/
def read : Reader Value := fun draft => do
  let j ← readJson draft
  match ofJson? j with
  | some v => .ok v
  | none => .error (.mismatch (.noAlternative "Value"))

end Value

end SearchCriteria
