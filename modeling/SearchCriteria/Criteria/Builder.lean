/-
# Building criteria

A criteria is built from left to right: nodes are appended to the chain, and everything else
goes to the last node.  A node holds no two equal entries: an entry that the node already has is
not added again.
-/
import SearchCriteria.Criteria.Basic
import SearchCriteria.Error

namespace SearchCriteria

open Numeric

/-- A list with an entry added at its end, unless it already has an equal one. -/
def addEntry (entries : List Entry) (entry : Entry) : List Entry :=
  if entries.contains entry then entries else entries ++ [entry]

namespace Node

/-- Adds an entry for the query. -/
def addQueryEntry (node : Node) (entry : Entry) : Node :=
  { node with queryEntries := addEntry node.queryEntries entry }

/-- Adds an entry for the filter. -/
def addFilterEntry (node : Node) (entry : Entry) : Node :=
  { node with filterEntries := addEntry node.filterEntries entry }

end Node

/-- Changes the last element of a list. -/
def updateLast {α : Type} (f : α → α) : List α → List α
  | [] => []
  | [a] => [f a]
  | a :: b :: rest => a :: updateLast f (b :: rest)

/-- The last element is the changed one. -/
@[simp] theorem updateLast_concat {α : Type} (f : α → α) (as : List α) (a : α) :
    updateLast f (as ++ [a]) = as ++ [f a] := by
  induction as with
  | nil => rfl
  | cons b as ih =>
    cases as with
    | nil => rfl
    | cons c cs => simpa [updateLast] using ih

namespace Criteria

/-! ## Roots -/

/-- The criteria whose root is about a field. -/
def on (field : Field) : Criteria := ⟨[.bare (some field) .and]⟩

/-- The criteria whose root only groups. -/
def anchor : Criteria := ⟨[.bare none .and]⟩

/-- The criteria whose root only groups, as alternatives. -/
def anchorOr : Criteria := ⟨[.bare none .or]⟩

instance : Inhabited Criteria := ⟨anchor⟩

/-! ## Chains -/

/-- Appends a node. -/
def append (criteria : Criteria) (node : Node) : Criteria :=
  ⟨criteria.chain ++ [node]⟩

/-- Changes the last node. -/
def update (criteria : Criteria) (f : Node → Node) : Criteria :=
  ⟨updateLast f criteria.chain⟩

/-- Appends a node about a field that has to match too. -/
def and (criteria : Criteria) (field : Field) : Criteria :=
  criteria.append (.bare (some field) .and)

/-- Appends a node about a field that may match instead. -/
def or (criteria : Criteria) (field : Field) : Criteria :=
  criteria.append (.bare (some field) .or)

/-- Appends a node that groups another criteria, which has to match too. -/
def andGroup (criteria group : Criteria) : Criteria :=
  criteria.append { Node.bare none .and with subCriteria := [group] }

/-- Appends a node that groups another criteria, which may match instead. -/
def orGroup (criteria group : Criteria) : Criteria :=
  criteria.append { Node.bare none .or with subCriteria := [group] }

/-- Negates the last node. -/
def not (criteria : Criteria) : Criteria :=
  criteria.update fun node => { node with negating := true }

/-- Sets the boost of the last node; not-a-number takes it away. -/
def boost (criteria : Criteria) (boost : Binary32) : Criteria :=
  criteria.update fun node => { node with boost := if boost.isNaN then none else some boost }

/-- Attaches criteria to the last node. -/
def attach (criteria : Criteria) (subCriteria : List Criteria) : Criteria :=
  criteria.update fun node => { node with subCriteria := node.subCriteria ++ subCriteria }

/-- The name of the last node's field. -/
def currentFieldName (criteria : Criteria) : String :=
  match criteria.chain.getLast? with
  | some node => node.fieldName
  | none => "<none>"

/-! ## Entries -/

/-- Adds an entry for the query to the last node. -/
def addQueryEntry (criteria : Criteria) (entry : Entry) : Criteria :=
  criteria.update (·.addQueryEntry entry)

/-- Adds an entry for the filter to the last node. -/
def addFilterEntry (criteria : Criteria) (entry : Entry) : Criteria :=
  criteria.update (·.addFilterEntry entry)

/-- Compares the last node's field with a value. -/
def compare (criteria : Criteria) (operator : Operator) (value : Value) : Criteria :=
  criteria.addQueryEntry (.of operator value)

/-- The field lies between two values, both included; null leaves an end open. -/
def between (criteria : Criteria) (lower upper : Value) : Criteria :=
  criteria.compare .between (.list [lower, upper])

/-- Whether a value may be a bound of a range. -/
def isBound : Value → Bool
  | .list _ => false
  | .point _ => false
  | .distance _ => false
  | _ => true

/-- What was given in place of a range, in the words of a message. -/
def describeRange (value : Value) : String :=
  match value.list? with
  | some values => s!"a list of {values.length} values"
  | none => value.typeName

/-- The field lies in a range given as a list of two bounds. -/
def tryBetween (criteria : Criteria) (range : Value) : Except CriteriaError Criteria :=
  let refused := Except.error
    (.invalidEntry criteria.currentFieldName .between (.unexpected .range (describeRange range)))
  match range with
  | .list [lower, upper] =>
    if isBound lower && isBound upper then .ok (criteria.compare .between range) else refused
  | _ => refused

/-- One end of an interval. -/
inductive Bound where
  /-- The end belongs to the interval. -/
  | included (v : Value)
  /-- The end does not belong to the interval. -/
  | excluded (v : Value)
  /-- There is no end. -/
  | unbounded

namespace Bound

/-- Whether the end does not belong to the interval. -/
def isExcluded : Bound → Bool
  | excluded _ => true
  | _ => false

/-- The value at the end, null if there is none. -/
def value : Bound → Value
  | included v => v
  | excluded v => v
  | unbounded => .null

end Bound

/-- The field is not below a bound. -/
def notBelow (criteria : Criteria) : Bound → Criteria
  | .included v => criteria.compare .greaterEqual v
  | .excluded v => criteria.compare .greater v
  | .unbounded => criteria

/-- The field is not above a bound. -/
def notAbove (criteria : Criteria) : Bound → Criteria
  | .included v => criteria.compare .lessEqual v
  | .excluded v => criteria.compare .less v
  | .unbounded => criteria

/-- The field lies between two bounds.  This is one entry, unless a bound is excluded; then each
bound has an entry of its own. -/
def betweenBounds (criteria : Criteria) (lower upper : Bound) : Criteria :=
  if lower.isExcluded || upper.isExcluded then (criteria.notBelow lower).notAbove upper
  else criteria.between lower.value upper.value

/-- The field is one of the values of a list, or none of them, by the operator. -/
def tryValues (criteria : Criteria) (operator : Operator) (values : Value) :
    Except CriteriaError Criteria :=
  match values with
  | .list _ => .ok (criteria.compare operator values)
  | _ => .error
    (.invalidEntry criteria.currentFieldName operator (.unexpected .values values.typeName))

/-- The field is one of the values of a list. -/
def tryOneOf (criteria : Criteria) (values : Value) : Except CriteriaError Criteria :=
  criteria.tryValues .oneOf values

/-- The field is none of the values of a list. -/
def tryNoneOf (criteria : Criteria) (values : Value) : Except CriteriaError Criteria :=
  criteria.tryValues .noneOf values

/-- The field is one of the values. -/
def oneOf (criteria : Criteria) (values : List Value) : Criteria :=
  criteria.compare .oneOf (.list values)

/-- The field is none of the values. -/
def noneOf (criteria : Criteria) (values : List Value) : Criteria :=
  criteria.compare .noneOf (.list values)

/-- The field is there. -/
def present (criteria : Criteria) : Criteria :=
  criteria.addQueryEntry (.flag .present)

/-- The field is there without any value. -/
def empty (criteria : Criteria) : Criteria :=
  criteria.addQueryEntry (.flag .empty)

/-- The field has some value. -/
def notEmpty (criteria : Criteria) : Criteria :=
  criteria.addQueryEntry (.flag .notEmpty)

/-- The field lies within a distance of a location. -/
def within (criteria : Criteria) (location distance : Value) : Criteria :=
  criteria.addFilterEntry (.of .within (.list [location, distance]))

/-- The field lies in the box between two corners. -/
def boundingBox (criteria : Criteria) (topLeft bottomRight : Value) : Criteria :=
  criteria.addFilterEntry (.of .boundingBox (.list [topLeft, bottomRight]))

end Criteria

end SearchCriteria
