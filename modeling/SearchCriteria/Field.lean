/-
# Fields

The field of a document that a criterion is about.
-/

namespace SearchCriteria

/-- How text is compared with a field. -/
inductive FieldKind where
  /-- The field holds text that is split into terms. -/
  | analyzed
  /-- The field holds exact values. -/
  | keyword
deriving DecidableEq, Repr

/-- A field, given by the name under which it is stored. -/
structure Field where
  /-- The stored name. -/
  name : String
  /-- The path of the nested documents that have the field. -/
  path : Option String := none
  /-- How text is compared with the field. -/
  kind : FieldKind := .analyzed
deriving DecidableEq, Repr

namespace Field

/-- The analysed field of this name outside nested documents. -/
def named (name : String) : Field := ⟨name, none, .analyzed⟩

/-- Whether the field holds exact values. -/
def isKeyword (field : Field) : Bool :=
  field.kind == .keyword

end Field

end SearchCriteria
