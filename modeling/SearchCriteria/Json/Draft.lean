/-
# JSON text as read

A draft is what a JSON text says up to the first place where it stops being JSON, and what
stopped it there.  Text is read from left to right and the first error decides the answer: if an
early member has the wrong shape, that is reported even though a bracket is missing further on.
So the text becomes a draft first, without fail, and readers of the typed values find the error
that comes first by walking through it.

A member that nobody asks for is *skipped*, and skipping is less strict than reading: it does
not ask for values that exist.  Where the two differ, the draft records both.
-/
import SearchCriteria.Json.Basic

namespace SearchCriteria

open Numeric

/-- What stops a text from being JSON. -/
inductive Fault where
  /-- The text ends too early. -/
  | truncated
  /-- The text goes on in a way that no JSON text does. -/
  | malformed
deriving DecidableEq, Repr

/-- How a faulty value begins. -/
inductive Beginning where
  /-- The text ends before the value. -/
  | nothing
  /-- The value is a string. -/
  | quote
  /-- The first letter of `null`. -/
  | null
  /-- Any other character. -/
  | other
deriving DecidableEq, Repr

/-- The two kinds of values that hold others. -/
inductive Container where
  /-- An array. -/
  | sequence
  /-- An object. -/
  | map
deriving DecidableEq, Repr

mutual

/-- A value as read from a text. -/
inductive Draft where
  /-- The value `null`. -/
  | null
  /-- A truth value. -/
  | bool (b : Bool)
  /-- A number written without point and exponent that fits into 64 bits. -/
  | integer (n : Int)
  /-- Any other number. -/
  | float (x : Binary64)
  /-- A string. -/
  | text (s : String)
  /-- A string or number of the right form that has no value: half a surrogate pair, or a number
  beyond the range.  Reading it finds the text malformed; skipping it does not. -/
  | unreadable
  /-- The text breaks off inside this value; reading and skipping may find different faults. -/
  | fault (beginning : Beginning) (read skip : Fault)
  /-- A container that is nested too deeply to be read, with the fault found by skipping it. -/
  | buried (kind : Container) (skip : Option Fault)
  /-- An array. -/
  | array (items : Items)
  /-- An object. -/
  | object (members : Members)

/-- The rest of an array. -/
inductive Items where
  /-- The array is closed. -/
  | closed
  /-- There is no comma and no bracket where one has to be. -/
  | broken (fault : Fault)
  /-- An item. -/
  | item (value : Draft) (rest : Items)

/-- The rest of an object. -/
inductive Members where
  /-- The object is closed. -/
  | closed
  /-- There is no comma and no brace where one has to be. -/
  | broken (fault : Fault)
  /-- There is no key where one has to be. -/
  | stray (read skip : Fault)
  /-- A member; its key is missing if it has no value. -/
  | member (key : Option String) (value : Draft) (rest : Members)

end

mutual

/-- The fault that skipping a value finds. -/
def Draft.skip : Draft → Option Fault
  | .fault _ _ skip => some skip
  | .buried _ skip => skip
  | .array items => items.skip
  | .object members => members.skip
  | .null => none
  | .bool _ => none
  | .integer _ => none
  | .float _ => none
  | .text _ => none
  | .unreadable => none

/-- The fault that skipping the rest of an array finds. -/
def Items.skip : Items → Option Fault
  | .closed => none
  | .broken fault => some fault
  | .item value rest => value.skip.or rest.skip

/-- The fault that skipping the rest of an object finds. -/
def Members.skip : Members → Option Fault
  | .closed => none
  | .broken fault => some fault
  | .stray _ skip => some skip
  | .member _ value rest => value.skip.or rest.skip

end

mutual

/-- Buries the containers below a number of levels. -/
def Draft.limit : Nat → Draft → Draft
  | 0, .array items => .buried .sequence items.skip
  | 0, .object members => .buried .map members.skip
  | depth + 1, .array items => .array (items.limit depth)
  | depth + 1, .object members => .object (members.limit depth)
  | _, draft => draft

/-- Buries the containers below a number of levels. -/
def Items.limit : Nat → Items → Items
  | depth, .item value rest => .item (value.limit depth) (rest.limit depth)
  | _, .broken fault => .broken fault
  | _, .closed => .closed

/-- Buries the containers below a number of levels. -/
def Members.limit : Nat → Members → Members
  | depth, .member key value rest => .member key (value.limit depth) (rest.limit depth)
  | _, .broken fault => .broken fault
  | _, .stray read skip => .stray read skip
  | _, .closed => .closed

end

mutual

/-- The JSON value that a draft holds, or the first fault. -/
def Draft.settle : Draft → Except Fault Json
  | .null => .ok .null
  | .bool b => .ok (.bool b)
  | .integer n => .ok (.integer n)
  | .float x => .ok (.float x)
  | .text s => .ok (.text s)
  | .unreadable => .error .malformed
  | .fault _ read _ => .error read
  | .buried _ _ => .error .malformed
  | .array items => do
    let items ← items.settle
    .ok (.array items)
  | .object members => do
    let members ← members.settle
    .ok (.object members)

/-- The JSON values of the items, or the first fault. -/
def Items.settle : Items → Except Fault (List Json)
  | .closed => .ok []
  | .broken fault => .error fault
  | .item value rest => do
    let value ← value.settle
    let rest ← rest.settle
    .ok (value :: rest)

/-- The members with their JSON values, or the first fault. -/
def Members.settle : Members → Except Fault (List (String × Json))
  | .closed => .ok []
  | .broken fault => .error fault
  | .stray read _ => .error read
  | .member none _ _ => .error .malformed
  | .member (some key) value rest => do
    let value ← value.settle
    let rest ← rest.settle
    .ok ((key, value) :: rest)

end

mutual

/-- The draft of the text that a JSON value is written as; 32-bit numbers count as widened. -/
def Json.draft : Json → Draft
  | .null => .null
  | .bool b => .bool b
  | .integer n => .integer n
  | .float x => if x.isFinite then .float x else .null
  | .single x => if x.isFinite then .float (x.convert .binary64) else .null
  | .text s => .text s
  | .array items => .array (Json.draftItems items)
  | .object members => .object (Json.draftMembers members)

/-- The drafts of the items. -/
def Json.draftItems : List Json → Items
  | [] => .closed
  | item :: rest => .item (Json.draft item) (Json.draftItems rest)

/-- The drafts of the members. -/
def Json.draftMembers : List (String × Json) → Members
  | [] => .closed
  | (key, value) :: rest => .member (some key) (Json.draft value) (Json.draftMembers rest)

end

end SearchCriteria
