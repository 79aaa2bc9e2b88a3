/-
# Operators and entries

An entry is one comparison: an operator and the value it compares with, if it takes one.
-/
import SearchCriteria.Value

namespace SearchCriteria

/-- A comparison. -/
inductive Operator where
  /-- The field holds the value as a phrase. -/
  | equals
  /-- The field contains the value. -/
  | contains
  /-- The field starts with the value. -/
  | startsWith
  /-- The field ends with the value. -/
  | endsWith
  /-- The field satisfies a query string. -/
  | expression
  /-- The field is less than the value. -/
  | less
  /-- The field is less than the value or equal to it. -/
  | lessEqual
  /-- The field is greater than the value. -/
  | greater
  /-- The field is greater than the value or equal to it. -/
  | greaterEqual
  /-- The field lies between two values, both included. -/
  | between
  /-- The field resembles the value. -/
  | fuzzy
  /-- The field holds some term of the value. -/
  | matchesAny
  /-- The field holds all terms of the value. -/
  | matchesAll
  /-- The field is one of several values. -/
  | oneOf
  /-- The field is none of several values. -/
  | noneOf
  /-- The field matches a regular expression. -/
  | regexp
  /-- The field is there, or is not there. -/
  | present
  /-- The field is there without any value. -/
  | empty
  /-- The field has some value. -/
  | notEmpty
  /-- The field lies within a distance of a location. -/
  | within
  /-- The field lies in a box. -/
  | boundingBox
deriving DecidableEq, Repr

namespace Operator

/-- The name of an operator. -/
def name : Operator → String
  | equals => "EQUALS"
  | contains => "CONTAINS"
  | startsWith => "STARTS_WITH"
  | endsWith => "ENDS_WITH"
  | expression => "EXPRESSION"
  | less => "LESS"
  | lessEqual => "LESS_EQUAL"
  | greater => "GREATER"
  | greaterEqual => "GREATER_EQUAL"
  | between => "BETWEEN"
  | fuzzy => "FUZZY"
  | matchesAny => "MATCHES"
  | matchesAll => "MATCHES_ALL"
  | oneOf => "IN"
  | noneOf => "NOT_IN"
  | regexp => "REGEXP"
  | present => "EXISTS"
  | empty => "EMPTY"
  | notEmpty => "NOT_EMPTY"
  | within => "WITHIN"
  | boundingBox => "BBOX"

/-- All operators, in the order in which they are listed. -/
def all : List Operator :=
  [equals, contains, startsWith, endsWith, expression, less, lessEqual, greater, greaterEqual,
   between, fuzzy, matchesAny, matchesAll, oneOf, noneOf, regexp, present, empty, notEmpty,
   within, boundingBox]

/-- Every operator is listed. -/
theorem mem_all (op : Operator) : op ∈ all := by
  cases op <;> decide

instance : ToString Operator := ⟨name⟩

/-- Whether the operator is compiled into the filter and not into the query. -/
def isFilter : Operator → Bool
  | within => true
  | boundingBox => true
  | _ => false

/-- Whether the operator takes no value, or only a flag. -/
def isValueless : Operator → Bool
  | present => true
  | empty => true
  | notEmpty => true
  | _ => false

end Operator

/-- An operator with the value it compares with. -/
structure Entry where
  /-- The operator. -/
  operator : Operator
  /-- The value; an operator may do without. -/
  value : Option Value := none
deriving BEq

namespace Entry

/-- The entry of an operator and a value. -/
def of (operator : Operator) (value : Value) : Entry := ⟨operator, some value⟩

/-- The entry of an operator without a value. -/
def flag (operator : Operator) : Entry := ⟨operator, none⟩

end Entry

end SearchCriteria
