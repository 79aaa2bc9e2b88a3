/-
# Clauses of query entries

Each operator has a kind of clause that its entries are compiled into, and a shape that the
value has to have.  The text of a value is escaped where it goes into a query string; only
expressions and regular expressions are taken as they are.
-/
import SearchCriteria.Error
import SearchCriteria.Field
import SearchCriteria.Query.Basic
import SearchCriteria.Text.Escape

namespace SearchCriteria

open Text

namespace Entry

/-- Refuses an entry. -/
def refuse {α : Type} (entry : Entry) (field : Field) (complaint : Complaint) :
    Except CriteriaError α :=
  .error (.invalidEntry field.name entry.operator complaint)

/-- The value of an entry that has to have one. -/
def requiredValue (entry : Entry) (field : Field) : Except CriteriaError Value :=
  match entry.value with
  | some v => .ok v
  | none => entry.refuse field .noValue

/-- The text of an entry whose value has to be a scalar. -/
def textValue (entry : Entry) (field : Field) : Except CriteriaError String := do
  let v ← entry.requiredValue field
  match v.scalarText? with
  | some s => .ok s
  | none => entry.refuse field (.unexpected .text v.typeName)

/-- The value of an entry that has to be a scalar. -/
def scalarValue (entry : Entry) (field : Field) : Except CriteriaError Value := do
  let v ← entry.requiredValue field
  if v.isScalar then .ok v else entry.refuse field (.unexpected .scalar v.typeName)

/-- The texts of the items of a list, all of which have to be scalars. -/
def itemTexts (entry : Entry) (field : Field) : List Value → Except CriteriaError (List String)
  | [] => .ok []
  | v :: vs =>
    match v.scalarText? with
    | some s => do
      let rest ← itemTexts entry field vs
      .ok (s :: rest)
    | none => entry.refuse field (.itemShape v.typeName)

end Entry

/-- The clause that does not match what another one matches. -/
def Query.negation (q : Query) : Query := .bool { mustNot := [q] } none

namespace Compile

/-- The clause of a query string on one field. -/
def queryString (field : Field) (text : String) (defaultOperator : Option MatchOperator)
    (analyzeWildcard : Bool) : Query :=
  .leaf (.queryString ⟨[field.name], text, defaultOperator, analyzeWildcard, none⟩)

/-- The clause that a field is there. -/
def present (field : Field) : Query := .leaf (.present field.name)

/-- The clause that a field has some value. -/
def anyValue (field : Field) : Query := .leaf (.wildcard ⟨field.name, "*", none⟩)

/-- The clause of a range entry: both bounds have to be scalars or null, and one not null. -/
def rangeLeaf (field : Field) (entry : Entry) : Except CriteriaError Query := do
  match ← entry.requiredValue field with
  | .list [lower, upper] =>
    if !(lower.isNull || lower.isScalar) then
      entry.refuse field (.boundShape lower.typeName)
    else if !(upper.isNull || upper.isScalar) then
      entry.refuse field (.boundShape upper.typeName)
    else if lower.isNull && upper.isNull then
      entry.refuse field .unbounded
    else
      .ok (.leaf (.range (((RangeLeaf.unbounded field.name).withGte lower).withLte upper)))
  | v => entry.refuse field (.unexpected .range v.typeName)

/-- The clause of an entry with a list of values.  A keyword field is compared with the exact
values; other fields are searched for any of the quoted texts. -/
def valuesLeaf (field : Field) (entry : Entry) (negated : Bool) : Except CriteriaError Query := do
  match ← entry.requiredValue field with
  | .list [] => entry.refuse field .noItems
  | .list values =>
    let texts ← entry.itemTexts field values
    if field.isKeyword then
      let terms := Query.leaf (.exactly ⟨field.name, values, none⟩)
      .ok (if negated then terms.negation else terms)
    else
      let any := anyOf texts
      .ok (queryString field (if negated then "NOT(" ++ any ++ ")" else any) none false)
  | v => entry.refuse field (.unexpected .values v.typeName)

/-- The clause of an entry that asks whether the field is there; without a flag it has to be. -/
def presentLeaf (field : Field) (entry : Entry) : Except CriteriaError Query :=
  match entry.value with
  | none => .ok (present field)
  | some (.bool true) => .ok (present field)
  | some (.bool false) => .ok (present field).negation
  | some v => entry.refuse field (.unexpected .flag v.typeName)

/-- The clause of an entry with a text that is put into a query string. -/
def escapedLeaf (field : Field) (entry : Entry) (wrap : String → Query) :
    Except CriteriaError Query := do
  let text ← entry.textValue field
  .ok (wrap (escape text))

/-- The clause of an entry with a text that is taken as it is. -/
def textLeaf (field : Field) (entry : Entry) (wrap : String → Query) :
    Except CriteriaError Query := do
  let text ← entry.textValue field
  .ok (wrap text)

/-- The clause of an entry with one bound. -/
def boundLeaf (field : Field) (entry : Entry) (set : RangeLeaf → Value → RangeLeaf) :
    Except CriteriaError Query := do
  let v ← entry.scalarValue field
  .ok (.leaf (.range (set (.unbounded field.name) v)))

/-- The clause of an entry for the query. -/
def queryLeaf (field : Field) (entry : Entry) : Except CriteriaError Query :=
  match entry.operator with
  | .equals => escapedLeaf field entry fun t => queryString field t (some .and) false
  | .contains => escapedLeaf field entry fun t => queryString field ("*" ++ t ++ "*") none true
  | .startsWith => escapedLeaf field entry fun t => queryString field (t ++ "*") none true
  | .endsWith => escapedLeaf field entry fun t => queryString field ("*" ++ t) none true
  | .expression => textLeaf field entry fun t => queryString field t (some .and) false
  | .less => boundLeaf field entry .withLt
  | .lessEqual => boundLeaf field entry .withLte
  | .greater => boundLeaf field entry .withGt
  | .greaterEqual => boundLeaf field entry .withGte
  | .between => rangeLeaf field entry
  | .fuzzy => textLeaf field entry fun t => .leaf (.fuzzy ⟨field.name, t, none⟩)
  | .matchesAny => textLeaf field entry fun t => .leaf (.terms ⟨field.name, t, .or, none⟩)
  | .matchesAll => textLeaf field entry fun t => .leaf (.terms ⟨field.name, t, .and, none⟩)
  | .oneOf => valuesLeaf field entry false
  | .noneOf => valuesLeaf field entry true
  | .regexp => textLeaf field entry fun t => .leaf (.regexp ⟨field.name, t, none⟩)
  | .present => presentLeaf field entry
  | .empty => .ok (.bool { must := [present field], mustNot := [anyValue field] } none)
  | .notEmpty => .ok (anyValue field)
  | .within => .error (.unsupported (.inQuery entry.operator field.name))
  | .boundingBox => .error (.unsupported (.inQuery entry.operator field.name))

end Compile

end SearchCriteria
