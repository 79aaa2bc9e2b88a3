/-
# Reading typed values from drafts

A reader takes a draft and answers a value or the first error.  This module has the readers of
the basic shapes: strings, truth values, 32-bit numbers, optional values, lists, records (given
as an object or, member by member, as an array) and choices among named variants.
-/
import SearchCriteria.Json.Scanner
import SearchCriteria.Text.Hidden

namespace SearchCriteria

open Numeric Text

/-- What stands where something else was expected. -/
inductive Found where
  /-- The value `null`. -/
  | null
  /-- A truth value. -/
  | bool (b : Bool)
  /-- A whole number. -/
  | integer (n : Int)
  /-- A number that is not whole, or written as if it were not. -/
  | float (x : Binary64)
  /-- A string. -/
  | text (s : String)
  /-- An array or an object. -/
  | container (kind : Container)
  /-- The bare name of a variant. -/
  | bareVariant

/-- Why well-formed JSON is not the value that was expected. -/
inductive Mismatch where
  /-- A value of another kind. -/
  | wrongKind (found : Found) (expected : String)
  /-- An array that ends before all members of a record have been given. -/
  | tooShort (length : Nat) (record : String) (members : Nat)
  /-- The name of no variant. -/
  | unknownVariant (name : String) (known : List String)
  /-- A record without a member that it needs. -/
  | missingMember (key : String)
  /-- A record with two values for one member. -/
  | duplicateMember (key : String)
  /-- A value that is none of the alternatives. -/
  | noAlternative (type : String)
  /-- A value whose type refuses it. -/
  | refused (reason : String)

/-- Why a text could not be read. -/
inductive ReadError where
  /-- The text is not JSON. -/
  | fault (fault : Fault)
  /-- The text is JSON, but not of the value that was expected. -/
  | mismatch (mismatch : Mismatch)

/-- What reading answers. -/
abbrev ReadResult (α : Type) : Type := Except ReadError α

/-- A reader of values of one type. -/
abbrev Reader (α : Type) : Type := Draft → ReadResult α

/-! ## Messages -/

/-- What stands there, in the words of a message. -/
def Found.describe : Found → String
  | .null => "null"
  | .bool b => s!"boolean `{b}`"
  | .integer n => s!"integer `{n}`"
  | .float x => "floating point `" ++ x.toJsonText?.getD "null" ++ "`"
  | .text s => s!"string {shown s}"
  | .container .sequence => "sequence"
  | .container .map => "map"
  | .bareVariant => "unit variant"

/-- The known names, in the words of a message. -/
def describeNames (names : List String) : String :=
  match names.map fun name => s!"`{name}`" with
  | [] => "nothing"
  | [a] => a
  | [a, b] => s!"{a} or {b}"
  | all => "one of " ++ String.intercalate ", " all

/-- The text of a mismatch. -/
def Mismatch.message : Mismatch → String
  | .wrongKind found expected => s!"invalid type: {found.describe}, expected {expected}"
  | .tooShort length record members =>
    let plural := if members = 1 then "" else "s"
    s!"invalid length {length}, expected struct {record} with {members} element{plural}"
  | .unknownVariant name known => s!"unknown variant `{name}`, expected {describeNames known}"
  | .missingMember key => s!"missing field `{key}`"
  | .duplicateMember key => s!"duplicate field `{key}`"
  | .noAlternative type => s!"data did not match any variant of untagged enum {type}"
  | .refused reason => reason

namespace ReadError

/-- The text ends too early. -/
abbrev truncated : ReadError := .fault .truncated

/-- The text is not JSON. -/
abbrev malformed : ReadError := .fault .malformed

end ReadError

/-! ## Basic shapes -/

/-- What stands here, or the fault that keeps it from being read. -/
def Draft.found : Draft → Except Fault Found
  | .null => .ok .null
  | .bool b => .ok (.bool b)
  | .integer n => .ok (.integer n)
  | .float x => .ok (.float x)
  | .text s => .ok (.text s)
  | .unreadable => .error .malformed
  | .fault _ read _ => .error read
  | .buried kind _ => .ok (.container kind)
  | .array _ => .ok (.container .sequence)
  | .object _ => .ok (.container .map)

/-- The error of a value of another kind than expected. -/
def Draft.mismatch {α : Type} (expected : String) (draft : Draft) : ReadResult α :=
  match draft.found with
  | .ok kind => .error (.mismatch (.wrongKind kind expected))
  | .error cause => .error (.fault cause)

/-- Reads a string. -/
def readText : Reader String
  | .text s => .ok s
  | draft => draft.mismatch "a string"

/-- Reads a truth value. -/
def readBool : Reader Bool
  | .bool b => .ok b
  | draft => draft.mismatch "a boolean"

/-- Reads `null`. -/
def readNull : Reader Unit
  | .null => .ok ()
  | draft => draft.mismatch "unit"

/-- Reads a 32-bit number: the one nearest to the number that is given. -/
def readSingle : Reader Binary32
  | .integer n => .ok (.ofInt .binary32 n)
  | .float x => .ok (x.convert .binary32)
  | draft => draft.mismatch "f32"

/-- Reads a value that may be missing.  What starts like `null` has to be `null`. -/
def readOption {α : Type} (read : Reader α) : Reader (Option α)
  | .null => .ok none
  | .fault .null read _ => .error (.fault read)
  | draft => do
    let a ← read draft
    .ok (some a)

/-- Reads every item. -/
def Items.readAll {α : Type} (read : Reader α) : Items → ReadResult (List α)
  | .closed => .ok []
  | .broken fault => .error (.fault fault)
  | .item value rest => do
    let a ← read value
    let as ← rest.readAll read
    .ok (a :: as)

/-- Reads a list. -/
def readList {α : Type} (read : Reader α) : Reader (List α)
  | .array items => items.readAll read
  | .buried .sequence _ => .error .malformed
  | draft => draft.mismatch "a sequence"

/-- Reads any JSON value. -/
def readJson (draft : Draft) : ReadResult Json :=
  match draft.settle with
  | .ok json => .ok json
  | .error fault => .error (.fault fault)

/-! ## Records -/

/-- Whether a record may be given without a member. -/
inductive Absence where
  /-- The member has to be given. -/
  | refused
  /-- The member may be left out of an object, but an array has to have its item. -/
  | inObject
  /-- The member may be left out. -/
  | anywhere
deriving DecidableEq

/-- One member of a record: its key, and how its value goes into the record. -/
structure Member (α : Type) where
  /-- The key of the member. -/
  key : String
  /-- Whether it may be left out. -/
  absence : Absence
  /-- Reads the member's value and puts it into the record. -/
  fill : Draft → α → ReadResult α

/-- The member with the given key whose value is put into the record by `set`. -/
def Member.of {α β : Type} (key : String) (absence : Absence) (read : Reader β)
    (set : α → β → α) : Member α where
  key := key
  absence := absence
  fill draft a := do
    let b ← read draft
    .ok (set a b)

/-- How a type of records is read. -/
structure Shape (α : Type) where
  /-- The name of the type. -/
  name : String
  /-- The record in which no member has been filled in. -/
  blank : α
  /-- The members in order. -/
  members : List (Member α)

namespace Shape

variable {α : Type}

/-- Fills in members from the items of an array, the first of them at the given index. -/
def fillItems (shape : Shape α) (index : Nat) : List (Member α) → α → Items → ReadResult α
  | [], a, .closed => .ok a
  | [], _, .broken fault => .error (.fault fault)
  | [], _, .item _ _ => .error .malformed
  | member :: members, a, .item value rest => do
    let a ← member.fill value a
    fillItems shape (index + 1) members a rest
  | _ :: _, _, .broken fault => .error (.fault fault)
  | member :: members, a, .closed =>
    if member.absence = .anywhere then fillItems shape (index + 1) members a .closed
    else .error (.mismatch (.tooShort index shape.name shape.members.length))

/-- The first member that has to be given and is not among the keys. -/
def firstMissing? (shape : Shape α) (seen : List String) : Option (Member α) :=
  shape.members.find? fun member => member.absence = .refused && !seen.contains member.key

/-- Fills in the members of an object; `seen` are the keys of those already filled in. -/
def fillMembers (shape : Shape α) : (seen : List String) → α → Members → ReadResult α
  | seen, a, .closed =>
    match shape.firstMissing? seen with
    | some member => .error (.mismatch (.missingMember member.key))
    | none => .ok a
  | _, _, .broken fault => .error (.fault fault)
  | _, _, .stray read _ => .error (.fault read)
  | _, _, .member none _ _ => .error .malformed
  | seen, a, .member (some key) value rest =>
    match shape.members.find? (·.key == key) with
    | some member =>
      if seen.contains key then .error (.mismatch (.duplicateMember key))
      else do
        let a ← member.fill value a
        fillMembers shape (key :: seen) a rest
    | none =>
      match value.skip with
      | some fault => .error (.fault fault)
      | none => fillMembers shape seen a rest

/-- Reads a record, given as an object or as an array. -/
def read (shape : Shape α) : Reader α
  | .object members => shape.fillMembers [] shape.blank members
  | .array items => shape.fillItems 0 shape.members shape.blank items
  | .buried _ _ => .error .malformed
  | draft => draft.mismatch s!"struct {shape.name}"

end Shape

/-! ## Choices -/

/-- A variant of a choice: its name, and how to read its content if there is one. -/
abbrev Variant (α : Type) : Type := String × (Option Draft → ReadResult α)

/-- A variant without content; `null` counts as none. -/
def Variant.bare {α : Type} (name : String) (a : α) : Variant α :=
  (name, fun
    | none => .ok a
    | some draft => do
      readNull draft
      .ok a)

/-- A variant with content. -/
def Variant.holding {α : Type} (name : String) (read : Reader α) : Variant α :=
  (name, fun
    | none => .error (.mismatch (.wrongKind .bareVariant "newtype variant"))
    | some draft => read draft)

/-- Reads a choice by the name of its variant. -/
def readVariant {α : Type} (variants : List (Variant α)) (name : String)
    (content : Option Draft) : ReadResult α :=
  match variants.lookup name with
  | some read => read content
  | none => .error (.mismatch (.unknownVariant name (variants.map Prod.fst)))

/-- Reads a choice: the name of a variant, or an object whose only key is that name. -/
def readChoice {α : Type} (variants : List (Variant α)) : Reader α
  | .text name => readVariant variants name none
  | .object (.member (some name) content rest) => do
    let a ← readVariant variants name (some content)
    match rest with
    | .closed => .ok a
    | .broken fault => .error (.fault fault)
    | _ => .error .malformed
  | .object (.stray read _) => .error (.fault read)
  | .fault .nothing read _ => .error (.fault read)
  | .fault .quote read _ => .error (.fault read)
  | _ => .error .malformed

/-! ## Texts -/

/-- The number of containers that a text may nest. -/
def maxDepth : Nat := 127

/-- Reads a whole text. -/
def readFrom {α : Type} (read : Reader α) (text : String) : ReadResult α := do
  let (draft, rest) := Draft.ofText text.toList
  let a ← read (draft.limit maxDepth)
  match rest with
  | some rest => if rest.all Scanner.isSpace then .ok a else .error .malformed
  | none => .error .malformed

end SearchCriteria
