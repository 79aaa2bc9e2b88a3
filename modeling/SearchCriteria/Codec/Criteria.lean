/-
# Criteria in JSON

Fields, entries, nodes and criteria as objects.  A criteria that is read has a root.
-/
import SearchCriteria.Codec.Names
import SearchCriteria.Codec.Value
import SearchCriteria.Error

namespace SearchCriteria

open Numeric

namespace Field

/-- The JSON value of a field. -/
def encode (field : Field) : Json :=
  .object ([("name", .text field.name)] ++ Json.optionalMember "path" .text field.path ++
    [("kind", .text field.kind.name)])

/-- How a field is read. -/
def shape : Shape Field where
  name := "Field"
  blank := .named ""
  members := [
    .of "name" .refused readText fun field name => { field with name },
    .of "path" .anywhere (readOption readText) fun field path => { field with path },
    .of "kind" .anywhere FieldKind.read fun field kind => { field with kind }]

/-- Reads a field. -/
def read : Reader Field := shape.read

end Field

namespace Entry

/-- The JSON value of an entry. -/
def encode (entry : Entry) : Json :=
  .object (("operator", .text entry.operator.name) ::
    Json.optionalMember "value" Value.encode entry.value)

/-- How an entry is read. -/
def shape : Shape Entry where
  name := "CriteriaEntry"
  blank := .flag .equals
  members := [
    .of "operator" .refused Operator.read fun entry operator => { entry with operator },
    .of "value" .anywhere (readOption Value.read) fun entry value => { entry with value }]

/-- Reads an entry. -/
def read : Reader Entry := shape.read

end Entry

/-- How a node is read, given how criteria are read. -/
def Node.shape (read : Reader Criteria) : Shape Node where
  name := "CriteriaNode"
  blank := .bare none .and
  members := [
    .of "field" .inObject (readOption Field.read) fun node field => { node with field },
    .of "conjunction" .refused Conjunction.read
      fun node conjunction => { node with conjunction },
    .of "negating" .refused readBool fun node negating => { node with negating },
    .of "boost" .inObject (readOption readSingle) fun node boost => { node with boost },
    .of "query_entries" .refused (readList Entry.read)
      fun node queryEntries => { node with queryEntries },
    .of "filter_entries" .refused (readList Entry.read)
      fun node filterEntries => { node with filterEntries },
    .of "sub_criteria" .refused (readList read)
      fun node subCriteria => { node with subCriteria }]

namespace Criteria

mutual

/-- The JSON value of a criteria. -/
def encode : Criteria → Json
  | ⟨chain⟩ => .object [("chain", .array (encodeNodes chain))]

/-- The JSON values of nodes. -/
def encodeNodes : List Node → List Json
  | [] => []
  | ⟨field, conjunction, negating, boost, queryEntries, filterEntries, subCriteria⟩ :: rest =>
    .object [
      ("field", Json.ofOption Field.encode field),
      ("conjunction", .text conjunction.name),
      ("negating", .bool negating),
      ("boost", Json.ofOption .single boost),
      ("query_entries", .array (queryEntries.map Entry.encode)),
      ("filter_entries", .array (filterEntries.map Entry.encode)),
      ("sub_criteria", .array (encodeAll subCriteria))] :: encodeNodes rest

/-- The JSON values of criteria. -/
def encodeAll : List Criteria → List Json
  | [] => []
  | criteria :: rest => encode criteria :: encodeAll rest

end

/-- How the chain of a criteria is read, given how criteria attached to it are read. -/
def chainShape (read : Reader Criteria) : Shape (List Node) where
  name := "CriteriaChain"
  blank := []
  members := [.of "chain" .refused (readList (Node.shape read).read) fun _ chain => chain]

/-- Reads a criteria that nests criteria less deep than `levels`. -/
def readWithin : (levels : Nat) → Reader Criteria
  | 0, _ => .error .malformed
  | levels + 1, draft => do
    let chain ← (chainShape (readWithin levels)).read draft
    if chain.isEmpty then
      .error (.mismatch (.refused (CriteriaError.unsupported .noRoot).message))
    else .ok ⟨chain⟩

/-- Reads a criteria. -/
def read : Reader Criteria := readWithin maxDepth

end Criteria

end SearchCriteria
