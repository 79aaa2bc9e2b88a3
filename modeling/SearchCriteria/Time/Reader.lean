/-
# Reading moments

`DateTime.ofText?` reads the texts of RFC 3339 and, beyond it, texts with blanks between the
components, with components of one digit, with years of any length after a sign, with a blank
or a small `t` between day and time, and with `UTC` for the offset.
-/
import SearchCriteria.Text.Blank
import SearchCriteria.Time.DateTime

namespace SearchCriteria.Time

open SearchCriteria.Text

/-! Each step of reading answers what it read and the text that follows. -/

/-- Reads one or more digits, at most `width` of them if a width is given. -/
def scanDigits (width : Option Nat) (text : List Char) : Option (List Char × List Char) :=
  let run := text.takeWhile Char.isDigit
  let digits := match width with
    | some n => run.take n
    | none => run
  if digits = [] then none else some (digits, text.drop digits.length)

/-- Reads a number of one or two digits, after any blanks. -/
def scanNumber (text : List Char) : Option (Nat × List Char) := do
  let (digits, rest) ← scanDigits (some 2) (trimStart text)
  some (Nat.ofDigitChars 10 digits 0, rest)

/-- Reads a year, after any blanks: up to four digits, or a sign and any number of digits. -/
def scanYear (text : List Char) : Option (Int × List Char) :=
  match trimStart text with
  | '-' :: rest => do
    let (digits, rest) ← scanDigits none rest
    some (-(Nat.ofDigitChars 10 digits 0 : Nat), rest)
  | '+' :: rest => do
    let (digits, rest) ← scanDigits none rest
    some ((Nat.ofDigitChars 10 digits 0 : Nat), rest)
  | rest => do
    let (digits, rest) ← scanDigits (some 4) rest
    some ((Nat.ofDigitChars 10 digits 0 : Nat), rest)

/-- Reads one given character, after any blanks. -/
def scanMark (mark : Char) (text : List Char) : Option (List Char) :=
  match trimStart text with
  | c :: rest => if c = mark then some rest else none
  | [] => none

/-- Reads a day and checks it against the calendar. -/
def scanDate (text : List Char) : Option (Date × List Char) := do
  let (year, text) ← scanYear text
  let (month, text) ← scanNumber (← scanMark '-' text)
  let (day, text) ← scanNumber (← scanMark '-' text)
  let date : Date := ⟨year, month, day⟩
  if date.isValid ∧ firstYear ≤ year ∧ year ≤ lastYear then some (date, text) else none

/-- Reads an optional fraction of a second, as nanoseconds; digits past the ninth are dropped. -/
def scanFraction : List Char → Option (Nat × List Char)
  | '.' :: text => do
    let (digits, rest) ← scanDigits none text
    let kept := digits.take 9
    some (Nat.ofDigitChars 10 kept 0 * 10 ^ (9 - kept.length), rest)
  | text => some (0, text)

/-- Reads a time of day, as seconds and nanoseconds; second 60 is a leap second. -/
def scanTime (text : List Char) : Option ((Nat × Nat) × List Char) := do
  let (hour, text) ← scanNumber text
  let (minute, text) ← scanNumber (← scanMark ':' text)
  let (second, text) ← scanNumber (← scanMark ':' text)
  let (nanos, text) ← scanFraction text
  if hour ≤ 23 ∧ minute ≤ 59 ∧ second ≤ 60 then
    let leap := second / 60
    some ((hour * 3600 + minute * 60 + (second - leap), nanos + leap * nanosPerSecond), text)
  else none

/-- Reads hours and minutes of two digits each, as seconds. -/
def scanOffsetAmount : List Char → Option (Nat × List Char)
  | h₁ :: h₂ :: text =>
    match text.dropWhile (fun c => c == ':' || isBlank c) with
    | m₁ :: m₂ :: rest =>
      let hours := Nat.ofDigitChars 10 [h₁, h₂] 0
      let minutes := Nat.ofDigitChars 10 [m₁, m₂] 0
      if [h₁, h₂, m₁, m₂].all Char.isDigit ∧ minutes < 60 ∧ hours < 24 then
        some (hours * 3600 + minutes * 60, rest)
      else none
    | _ => none
  | _ => none

/-- Reads the offset from universal time, as seconds, after any blanks. -/
def scanOffset (text : List Char) : Option (Int × List Char) :=
  let text := trimStart text
  if (text.take 3).map Char.toLower = ['u', 't', 'c'] then some (0, text.drop 3)
  else match text with
    | 'Z' :: rest => some (0, rest)
    | 'z' :: rest => some (0, rest)
    | '+' :: rest => (scanOffsetAmount rest).map fun (n, rest) => ((n : Int), rest)
    | '-' :: rest => (scanOffsetAmount rest).map fun (n, rest) => (-(n : Int), rest)
    | '\u2212' :: rest => (scanOffsetAmount rest).map fun (n, rest) => (-(n : Int), rest)
    | _ => none

/-- Reads the one character between day and time. -/
def scanSeparator : List Char → Option (List Char)
  | 'T' :: rest => some rest
  | 't' :: rest => some rest
  | ' ' :: rest => some rest
  | _ => none

/-- Reads a moment, given in the local time of any offset. -/
def DateTime.ofText? (text : String) : Option DateTime := do
  let (date, text) ← scanDate text.toList
  let ((seconds, nanos), text) ← scanTime (← scanSeparator text)
  let (offset, text) ← scanOffset text
  if text.all isBlank then
    DateTime.of? (date.toDayNumber * daySeconds + seconds - offset) nanos
  else none

end SearchCriteria.Time
