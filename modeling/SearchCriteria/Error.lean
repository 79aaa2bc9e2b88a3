/-
# Errors

Why an entry or a criteria is refused.  An error holds its cause; the wording is in `message`.
-/
import SearchCriteria.Entry

namespace SearchCriteria

open Numeric

/-- What an operator wants its value to be. -/
inductive Expectation where
  /-- A scalar, whose text is searched for. -/
  | text
  /-- A scalar. -/
  | scalar
  /-- A list of two bounds. -/
  | range
  /-- A list. -/
  | values
  /-- A truth value. -/
  | flag
  /-- A list of two items. -/
  | pair
  /-- A location text or a point. -/
  | location
  /-- A distance text or a distance. -/
  | distance
deriving DecidableEq, Repr

/-- The expectation in the words of a message. -/
def Expectation.describe : Expectation → String
  | text => "a textual value"
  | scalar => "a scalar value"
  | range => "a 2-element range"
  | values => "a list of values"
  | flag => "a boolean flag"
  | pair => "a 2-element list"
  | location => "a location"
  | distance => "a distance"

/-- What is wrong with an entry. -/
inductive Complaint where
  /-- The node that the entry belongs to has no field. -/
  | noField
  /-- The operator needs a value and has none. -/
  | noValue
  /-- The value has another shape than the operator wants. -/
  | unexpected (expected : Expectation) (got : String)
  /-- A bound of a range is not a scalar. -/
  | boundShape (got : String)
  /-- A range is open at both ends. -/
  | unbounded
  /-- A list of values is empty. -/
  | noItems
  /-- An item of a list is not a scalar. -/
  | itemShape (got : String)
  /-- A distance is negative or not finite. -/
  | badAmount (amount : Binary64)
  /-- A location is none. -/
  | geo (cause : GeoError)
  /-- Something that the caller puts into words. -/
  | other (text : String)

/-- The text of a complaint. -/
def Complaint.message : Complaint → String
  | noField => "entries require a field"
  | noValue => "missing value"
  | unexpected expected got => s!"expected {expected.describe}, got {got}"
  | boundShape got => s!"range bounds must be scalars, got {got}"
  | unbounded => "at least one range bound is required"
  | noItems => "expected at least one value"
  | itemShape got => s!"list elements must be scalars, got {got}"
  | badAmount amount => s!"distance must be a finite non-negative amount, got {amount}"
  | geo cause => cause.message
  | other text => text

/-- What a compilation does not handle. -/
inductive Unsupported where
  /-- An operator of the filter among the entries for the query. -/
  | inQuery (operator : Operator) (field : String)
  /-- An operator of the query among the entries for the filter. -/
  | inFilter (operator : Operator) (field : String)
  /-- A criteria without a root. -/
  | noRoot
  /-- Something that the caller puts into words. -/
  | other (text : String)

/-- The text that says what is not handled. -/
def Unsupported.describe : Unsupported → String
  | inQuery operator field =>
    s!"{operator} on field '{field}' is a filter operator and cannot be compiled into a query"
  | inFilter operator field =>
    s!"{operator} on field '{field}' is a query operator and cannot be compiled into a filter"
  | noRoot => "criteria chain must hold at least a root node"
  | other text => text

/-- Why a criteria cannot be built or compiled. -/
inductive CriteriaError where
  /-- An operator has a value that it does not take. -/
  | invalidEntry (field : String) (operator : Operator) (complaint : Complaint)
  /-- There is no compilation of this kind of criteria. -/
  | unsupported (cause : Unsupported)
  /-- A geographic value outside an entry is refused. -/
  | geo (cause : GeoError)

/-- The text of an error. -/
def CriteriaError.message : CriteriaError → String
  | invalidEntry field operator complaint =>
    s!"Invalid entry for field '{field}' ({operator}): {complaint.message}"
  | unsupported cause => s!"Unsupported criteria type: {cause.describe}"
  | geo cause => s!"Geo error: {cause.message}"

end SearchCriteria
