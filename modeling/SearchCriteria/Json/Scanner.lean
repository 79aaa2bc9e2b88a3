/-
# From JSON text to drafts

`Draft.ofText` turns every text into a draft.  A string is scanned in two steps: `scanUnits`
resolves the escapes into code units, `joinUnits?` joins surrogate pairs into characters.
Numbers, names, values, items and members have scanners of their own; those that call each other
are given more fuel than any text of the given length can use.
-/
import SearchCriteria.Json.Draft

namespace SearchCriteria.Scanner

open Numeric

/-- The characters that may stand between the parts of a JSON text. -/
def isSpace (c : Char) : Bool :=
  c == ' ' || c == '\n' || c == '\t' || c == '\r'

/-- The text after any space. -/
def skipSpace (text : List Char) : List Char :=
  text.dropWhile isSpace

/-! ## Strings -/

/-- The value of a hexadecimal digit. -/
def hexDigit? (c : Char) : Option Nat :=
  if c.isDigit then some (c.toNat - '0'.toNat)
  else if 'a' ≤ c ∧ c ≤ 'f' then some (c.toNat - 'a'.toNat + 10)
  else if 'A' ≤ c ∧ c ≤ 'F' then some (c.toNat - 'A'.toNat + 10)
  else none

/-- The number written by four hexadecimal digits. -/
def hexQuad? (a b c d : Char) : Option Nat := do
  let a ← hexDigit? a
  let b ← hexDigit? b
  let c ← hexDigit? c
  let d ← hexDigit? d
  some (((a * 16 + b) * 16 + c) * 16 + d)

/-- The fault of a text that leaves no room for four hexadecimal digits: it ends too early if it
is also shorter than four bytes. -/
def shortHex (text : List Char) : Fault :=
  if (text.map Char.utf8Size).sum < 4 then .truncated else .malformed

/-- The code unit that a backslash and another character stand for. -/
def simpleEscape? : Char → Option Nat
  | '"' => some '"'.toNat
  | '\\' => some '\\'.toNat
  | '/' => some '/'.toNat
  | 'b' => some 0x08
  | 'f' => some 0x0c
  | 'n' => some '\n'.toNat
  | 'r' => some '\r'.toNat
  | 't' => some '\t'.toNat
  | _ => none

/-- What a string holds: its code units, and the text after it or the fault that ends it. -/
structure StringScan where
  /-- The code points of plain characters and the code units of escapes. -/
  units : List Nat
  /-- The text after the closing quote, or the fault that the scan ran into. -/
  rest : Except Fault (List Char)

/-- The scan of a string with one more unit in front. -/
def StringScan.push (unit : Nat) (scan : StringScan) : StringScan :=
  { scan with units := unit :: scan.units }

/-- Scans a string after its opening quote. -/
def scanUnits : List Char → StringScan
  | [] => ⟨[], .error .truncated⟩
  | '"' :: rest => ⟨[], .ok rest⟩
  | ['\\'] => ⟨[], .error .truncated⟩
  | '\\' :: 'u' :: a :: b :: c :: d :: rest =>
    match hexQuad? a b c d with
    | some unit => (scanUnits rest).push unit
    | none => ⟨[], .error .malformed⟩
  | '\\' :: 'u' :: short => ⟨[], .error (shortHex short)⟩
  | '\\' :: c :: rest =>
    match simpleEscape? c with
    | some unit => (scanUnits rest).push unit
    | none => ⟨[], .error .malformed⟩
  | c :: rest =>
    if c.toNat < 0x20 then ⟨[], .error .malformed⟩ else (scanUnits rest).push c.toNat

/-- Whether a code unit is the first half of a surrogate pair. -/
def isHighSurrogate (unit : Nat) : Bool := 0xd800 ≤ unit && unit ≤ 0xdbff

/-- Whether a code unit is the second half of a surrogate pair. -/
def isLowSurrogate (unit : Nat) : Bool := 0xdc00 ≤ unit && unit ≤ 0xdfff

/-- The character that a surrogate pair stands for. -/
def surrogatePair (high low : Nat) : Char :=
  Char.ofNat (0x10000 + (high - 0xd800) * 0x400 + (low - 0xdc00))

/-- The characters that code units stand for, if every surrogate has its other half. -/
def joinUnits? : List Nat → Option (List Char)
  | [] => some []
  | [unit] =>
    if isHighSurrogate unit || isLowSurrogate unit then none else some [Char.ofNat unit]
  | unit :: next :: rest =>
    if isLowSurrogate unit then none
    else if isHighSurrogate unit then
      if isLowSurrogate next then (joinUnits? rest).map (surrogatePair unit next :: ·) else none
    else (joinUnits? (next :: rest)).map (Char.ofNat unit :: ·)

/-- Whether every surrogate has its other half or may still get it after the last unit. -/
def mayJoin : List Nat → Bool
  | [] => true
  | [unit] => !isLowSurrogate unit
  | unit :: next :: rest =>
    if isLowSurrogate unit then false
    else if isHighSurrogate unit then isLowSurrogate next && mayJoin rest
    else mayJoin (next :: rest)

/-- What a scan of a value answers: its draft and, unless the text broke off, the text after. -/
abbrev ValueScan : Type := Draft × Option (List Char)

/-- The draft of a string.  If the text breaks off inside, reading meets a surrogate without its
other half before it meets the end. -/
def scanString (text : List Char) : ValueScan :=
  let scan := scanUnits text
  match scan.rest with
  | .ok rest =>
    match joinUnits? scan.units with
    | some chars => (.text (String.ofList chars), some rest)
    | none => (.unreadable, some rest)
  | .error fault =>
    (.fault .quote (if mayJoin scan.units then fault else .malformed) fault, none)

/-! ## Numbers and names -/

/-- The text stops in the middle of a number.  Reading tells the end of the text from a wrong
character, skipping does not. -/
def brokenNumber (rest : List Char) : ValueScan :=
  (.fault .other (if rest = [] then .truncated else .malformed) .malformed, none)

/-- The draft of a number with a point or an exponent, or of one that is too long.  The number is
rounded exactly.  A reader that only does its best may settle for a neighbour, as it does for `3e23`
and `31.245270191439438`; it agrees with this one wherever numbers are read back equal. -/
def floatDraft (negative : Bool) (d : Decimal) : Draft :=
  let x : Binary64 := d.toBinary .binary64 negative
  if x.isFinite then .float x else .unreadable

/-- The draft of a number without point and exponent.  The integer zero has no sign. -/
def integerDraft (negative : Bool) (digits : List Char) : Draft :=
  let n := Nat.ofDigitChars 10 digits 0
  if negative ∧ 0 < n ∧ n ≤ 2 ^ (63 : Nat) then .integer (-n)
  else if ¬negative ∧ n < 2 ^ (64 : Nat) then .integer n
  else floatDraft negative ⟨n, 0⟩

/-- Scans the digits of an exponent, after its sign, and finishes the number. -/
def scanExponentDigits (negative down : Bool) (whole fraction text : List Char) : ValueScan :=
  let digits := text.takeWhile Char.isDigit
  let rest := text.dropWhile Char.isDigit
  if digits = [] then brokenNumber rest
  else
    let e : Int := Nat.ofDigitChars 10 digits 0
    (floatDraft negative (.ofDigits whole fraction (if down then -e else e)), some rest)

/-- Scans an exponent after its mark. -/
def scanExponent (negative : Bool) (whole fraction : List Char) : List Char → ValueScan
  | '+' :: rest => scanExponentDigits negative false whole fraction rest
  | '-' :: rest => scanExponentDigits negative true whole fraction rest
  | rest => scanExponentDigits negative false whole fraction rest

/-- Scans what follows the whole part and the fraction of a number, and finishes the number. -/
def scanAfterFraction (negative : Bool) (whole fraction : List Char) : List Char → ValueScan
  | 'e' :: rest => scanExponent negative whole fraction rest
  | 'E' :: rest => scanExponent negative whole fraction rest
  | rest =>
    if fraction = [] then (integerDraft negative whole, some rest)
    else (floatDraft negative (.ofDigits whole fraction 0), some rest)

/-- Scans what follows the whole part of a number. -/
def scanAfterWhole (negative : Bool) (whole : List Char) : List Char → ValueScan
  | '.' :: rest =>
    let fraction := rest.takeWhile Char.isDigit
    let rest := rest.dropWhile Char.isDigit
    if fraction = [] then brokenNumber rest else scanAfterFraction negative whole fraction rest
  | rest => scanAfterFraction negative whole [] rest

/-- Scans a number after its sign.  Its whole part has no needless zero in front. -/
def scanNumber (negative : Bool) (text : List Char) : ValueScan :=
  let whole := text.takeWhile Char.isDigit
  let rest := text.dropWhile Char.isDigit
  match whole with
  | [] => brokenNumber rest
  | '0' :: _ :: _ => brokenNumber whole
  | _ => scanAfterWhole negative whole rest

/-- Scans the rest of a name that stands for a value, and begins as given. -/
def scanName (draft : Draft) (beginning : Beginning) : (name text : List Char) → ValueScan
  | [], text => (draft, some text)
  | _ :: _, [] => (.fault beginning .truncated .truncated, none)
  | c :: name, d :: text =>
    if c = d then scanName draft beginning name text
    else (.fault beginning .malformed .malformed, none)

/-! ## Values -/

/-- The draft of a text that ends where a value has to be. -/
def absent : Draft := .fault .nothing .truncated .truncated

/-- The draft of a text with a wrong character where a value has to be. -/
def wrong : Draft := .fault .other .malformed .malformed

mutual

/-- Scans a value, after any space. -/
def scanValue : (fuel : Nat) → List Char → ValueScan
  | 0, _ => (wrong, none)
  | fuel + 1, text =>
    match skipSpace text with
    | [] => (absent, none)
    | '"' :: rest => scanString rest
    | '[' :: rest =>
      match skipSpace rest with
      | [] => (.array (.broken .truncated), none)
      | ']' :: rest => (.array .closed, some rest)
      | rest =>
        let (items, rest) := scanItems fuel rest
        (.array items, rest)
    | '\x7b' :: rest =>
      match skipSpace rest with
      | '\x7d' :: rest => (.object .closed, some rest)
      | rest =>
        let (members, rest) := scanMembers fuel rest
        (.object members, rest)
    | '-' :: rest => scanNumber true rest
    | 'n' :: rest => scanName .null .null ['u', 'l', 'l'] rest
    | 't' :: rest => scanName (.bool true) .other ['r', 'u', 'e'] rest
    | 'f' :: rest => scanName (.bool false) .other ['a', 'l', 's', 'e'] rest
    | c :: rest => if c.isDigit then scanNumber false (c :: rest) else (wrong, none)

/-- Scans an item of an array and all that follows it. -/
def scanItems : (fuel : Nat) → List Char → Items × Option (List Char)
  | 0, _ => (.broken .malformed, none)
  | fuel + 1, text =>
    match scanValue fuel text with
    | (value, none) => (.item value .closed, none)
    | (value, some rest) =>
      match skipSpace rest with
      | [] => (.item value (.broken .truncated), none)
      | ']' :: rest => (.item value .closed, some rest)
      | ',' :: rest =>
        let (items, rest) := scanItems fuel rest
        (.item value items, rest)
      | _ => (.item value (.broken .malformed), none)

/-- Scans a member of an object and all that follows it. -/
def scanMembers : (fuel : Nat) → List Char → Members × Option (List Char)
  | 0, _ => (.broken .malformed, none)
  | fuel + 1, text =>
    match skipSpace text with
    | [] => (.stray .truncated .truncated, none)
    | '"' :: rest =>
      match scanString rest with
      | (.text key, some rest) => scanMember fuel (some key) rest
      | (_, some rest) => scanMember fuel none rest
      | (.fault _ read skip, none) => (.stray read skip, none)
      | (_, none) => (.stray .malformed .malformed, none)
    | _ => (.stray .malformed .malformed, none)

/-- Scans what follows a key: the value of the member, and the members after it. -/
def scanMember : (fuel : Nat) → Option String → List Char → Members × Option (List Char)
  | 0, _, _ => (.broken .malformed, none)
  | fuel + 1, key, text =>
    match skipSpace text with
    | [] => (.member key absent .closed, none)
    | ':' :: rest =>
      match scanValue fuel rest with
      | (value, none) => (.member key value .closed, none)
      | (value, some rest) =>
        match skipSpace rest with
        | [] => (.member key value (.broken .truncated), none)
        | '\x7d' :: rest => (.member key value .closed, some rest)
        | ',' :: rest =>
          let (members, rest) := scanMembers fuel rest
          (.member key value members, rest)
        | _ => (.member key value (.broken .malformed), none)
    | _ => (.member key wrong .closed, none)

end

end SearchCriteria.Scanner

/-- The draft of a text, and the text that follows the value. -/
def SearchCriteria.Draft.ofText (text : List Char) :
    SearchCriteria.Draft × Option (List Char) :=
  SearchCriteria.Scanner.scanValue (2 * text.length + 2) text
