/-
# Values

A value is what an operator compares a field with.  Its shape is known only when it is there:
each operator decides which shapes it accepts.
-/
import SearchCriteria.Geo.Basic
import SearchCriteria.Time.DateTime

namespace SearchCriteria

open Numeric Time

/-- A value that a field is compared with. -/
inductive Value where
  /-- No value; as a bound of a range, an open end. -/
  | null
  /-- A truth value. -/
  | bool (b : Bool)
  /-- A 64-bit integer. -/
  | integer (n : Int64)
  /-- A floating-point number. -/
  | float (x : Binary64)
  /-- A moment. -/
  | dateTime (t : DateTime)
  /-- A text. -/
  | text (s : String)
  /-- A geographic point. -/
  | point (p : GeoPoint)
  /-- A distance with its unit. -/
  | distance (d : Distance)
  /-- A list of values. -/
  | list (values : List Value)

namespace Value

mutual

/-- Equality of values.  Values of two shapes differ, and numbers are compared as numbers, so
that not-a-number differs from itself. -/
protected def beq : Value → Value → Bool
  | null, null => true
  | bool a, bool b => a == b
  | integer a, integer b => a == b
  | float a, float b => a == b
  | dateTime a, dateTime b => a == b
  | text a, text b => a == b
  | point a, point b => a == b
  | distance a, distance b => a == b
  | list as, list bs => Value.beqList as bs
  | _, _ => false

/-- Equality of lists of values, item by item. -/
protected def beqList : List Value → List Value → Bool
  | [], [] => true
  | a :: as, b :: bs => Value.beq a b && Value.beqList as bs
  | _, _ => false

end

instance : BEq Value := ⟨Value.beq⟩

/-- The shape of a value, in the words of a message. -/
def typeName : Value → String
  | null => "null"
  | bool _ => "bool"
  | integer _ => "integer"
  | float _ => "float"
  | dateTime _ => "datetime"
  | text _ => "string"
  | point _ => "geo_point"
  | distance _ => "distance"
  | list _ => "list"

/-- Whether there is no value. -/
def isNull : Value → Bool
  | null => true
  | _ => false

/-- The text of a scalar in a query; other shapes have none. -/
def scalarText? : Value → Option String
  | bool b => some (if b then "true" else "false")
  | integer n => some (toString n.toInt)
  | float x => some x.toText
  | dateTime t => some t.toText
  | text s => some s
  | null => none
  | point _ => none
  | distance _ => none
  | list _ => none

/-- Whether the value is a truth value, a number, a moment or a text. -/
def isScalar (v : Value) : Bool :=
  v.scalarText?.isSome

/-- The truth value, if it is one. -/
def bool? : Value → Option Bool
  | bool b => some b
  | _ => none

/-- The items, if it is a list. -/
def list? : Value → Option (List Value)
  | list values => some values
  | _ => none

mutual

/-- The text of any value in messages. -/
def toText : Value → String
  | null => "*"
  | bool b => if b then "true" else "false"
  | integer n => toString n.toInt
  | float x => x.toText
  | dateTime t => t.toText
  | text s => s
  | point p => p.toText
  | distance d => d.toText
  | list values => "[" ++ String.intercalate ", " (textsOf values) ++ "]"

/-- The texts of values. -/
def textsOf : List Value → List String
  | [] => []
  | v :: vs => toText v :: textsOf vs

end

instance : ToString Value := ⟨toText⟩

/-- A 32-bit number as a value. -/
def ofSingle (x : Binary32) : Value :=
  float (x.convert .binary64)

/-- A value that may be missing. -/
def ofOption (v : Option Value) : Value :=
  v.getD null

end Value

end SearchCriteria
