/-
# JSON values

The values that are written as JSON, and their compact text.  Members keep their order.  A
32-bit number is a value of its own, because it is written with the fewest digits that single
out a 32-bit number.
-/
import SearchCriteria.Numeric.Text

namespace SearchCriteria

open Numeric

/-- A JSON value. -/
inductive Json where
  /-- The value `null`. -/
  | null
  /-- A truth value. -/
  | bool (b : Bool)
  /-- A whole number. -/
  | integer (n : Int)
  /-- A 64-bit number; infinities and not-a-number are written as `null`. -/
  | float (x : Binary64)
  /-- A 32-bit number; infinities and not-a-number are written as `null`. -/
  | single (x : Binary32)
  /-- A string. -/
  | text (s : String)
  /-- An array. -/
  | array (items : List Json)
  /-- An object, its members in the order in which they are written. -/
  | object (members : List (String × Json))

instance : Inhabited Json := ⟨.null⟩

namespace Json

/-- The two lowercase hexadecimal digits of a number below 256. -/
def hexPair (n : Nat) : List Char :=
  [Nat.digitChar (n / 16), Nat.digitChar (n % 16)]

/-- A character as it stands inside a JSON string. -/
def writeChar (c : Char) : List Char :=
  if c = '"' then ['\\', '"']
  else if c = '\\' then ['\\', '\\']
  else if c = '\n' then ['\\', 'n']
  else if c = '\r' then ['\\', 'r']
  else if c = '\t' then ['\\', 't']
  else if c.toNat = 0x08 then ['\\', 'b']
  else if c.toNat = 0x0c then ['\\', 'f']
  else if c.toNat < 0x20 then '\\' :: 'u' :: '0' :: '0' :: hexPair c.toNat
  else [c]

/-- A string between its quotes. -/
def writeString (s : String) : List Char :=
  '"' :: s.toList.flatMap writeChar ++ ['"']

/-- The text of a number, `null` if JSON has none for it. -/
def writeNumber {f : Format} (x : Binary f) : List Char :=
  (x.toJsonText?.getD "null").toList

/-- A whole number in decimal. -/
def writeInteger (n : Int) : List Char :=
  (if n < 0 then ['-'] else []) ++ Nat.toDigits 10 n.natAbs

mutual

/-- The compact text of a value. -/
def write : Json → List Char
  | null => "null".toList
  | bool b => if b then "true".toList else "false".toList
  | integer n => writeInteger n
  | float x => writeNumber x
  | single x => writeNumber x
  | text s => writeString s
  | array [] => ['[', ']']
  | array (item :: rest) => '[' :: write item ++ writeItems rest
  | object [] => ['\x7b', '\x7d']
  | object ((key, value) :: rest) =>
    '\x7b' :: writeString key ++ ':' :: write value ++ writeMembers rest

/-- The items of an array after the first, and its end. -/
def writeItems : List Json → List Char
  | [] => [']']
  | item :: rest => ',' :: write item ++ writeItems rest

/-- The members of an object after the first, and its end. -/
def writeMembers : List (String × Json) → List Char
  | [] => ['\x7d']
  | (key, value) :: rest => ',' :: writeString key ++ ':' :: write value ++ writeMembers rest

end

/-- The compact text of a value. -/
def toText (j : Json) : String :=
  String.ofList j.write

mutual

/-- The value in which every 32-bit number has become the same 64-bit number, and what has no
JSON text has become `null`. -/
def widen : Json → Json
  | null => null
  | bool b => bool b
  | integer n => integer n
  | float x => if x.isFinite then float x else null
  | single x => if x.isFinite then float (x.convert .binary64) else null
  | text s => text s
  | array items => array (widenItems items)
  | object members => object (widenMembers members)

/-- Widens every item. -/
def widenItems : List Json → List Json
  | [] => []
  | item :: rest => widen item :: widenItems rest

/-- Widens every member. -/
def widenMembers : List (String × Json) → List (String × Json)
  | [] => []
  | (key, value) :: rest => (key, widen value) :: widenMembers rest

end

/-- An optional value, `null` if there is none. -/
def ofOption {α : Type} (encode : α → Json) : Option α → Json
  | none => null
  | some a => encode a

/-- The members for a key whose value is left out if there is none. -/
def optionalMember {α : Type} (key : String) (encode : α → Json) : Option α →
    List (String × Json)
  | none => []
  | some a => [(key, encode a)]

end Json

end SearchCriteria
