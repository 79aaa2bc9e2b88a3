/-
# Moments in universal time

A moment is a number of seconds since the start of 1970 and a fraction.  A leap second has no
number of its own: it is the second before it with a fraction of one or more.
-/
import SearchCriteria.Time.Calendar

namespace SearchCriteria.Time

/-- The number of seconds in a day. -/
def daySeconds : Int := 86400

/-- The number of nanoseconds in a second. -/
def nanosPerSecond : Nat := 1000000000

/-- The first year that a moment can lie in. -/
def firstYear : Int := -262143

/-- The last year that a moment can lie in. -/
def lastYear : Int := 262142

/-- The first second that a moment can lie in. -/
def firstSecond : Int := Date.toDayNumber ⟨firstYear, 1, 1⟩ * daySeconds

/-- The last second that a moment can lie in. -/
def lastSecond : Int := Date.toDayNumber ⟨lastYear + 1, 1, 1⟩ * daySeconds - 1

/-- A moment in universal time. -/
structure DateTime where
  /-- The seconds since 1 January 1970, 00:00. -/
  seconds : Int
  /-- The nanoseconds since that second began; a leap second has a thousand million or more. -/
  nanos : Nat
  /-- The moment lies in the range of years. -/
  inRange : firstSecond ≤ seconds ∧ seconds ≤ lastSecond
  /-- Only the last second of a minute is followed by a leap second. -/
  fraction : nanos < nanosPerSecond ∨ (nanos < 2 * nanosPerSecond ∧ seconds % 60 = 59)
deriving DecidableEq

/-- Writes a number with at least `width` digits. -/
def padded (width n : Nat) : List Char :=
  let digits := Nat.toDigits 10 n
  List.replicate (width - digits.length) '0' ++ digits

namespace DateTime

/-- The moment with the given seconds and nanoseconds, if there is one. -/
def of? (seconds : Int) (nanos : Nat) : Option DateTime :=
  if h : (firstSecond ≤ seconds ∧ seconds ≤ lastSecond) ∧
      (nanos < nanosPerSecond ∨ (nanos < 2 * nanosPerSecond ∧ seconds % 60 = 59)) then
    some ⟨seconds, nanos, h.1, h.2⟩
  else none

/-- The day of the moment. -/
def date (t : DateTime) : Date :=
  .ofDayNumber (t.seconds / daySeconds)

/-- The second of the day, from 0. -/
def secondOfDay (t : DateTime) : Nat :=
  (t.seconds % daySeconds).toNat

/-- Writes a year: four digits, and a sign where four digits are not enough. -/
def writeYear (year : Int) : List Char :=
  if 0 ≤ year ∧ year ≤ 9999 then padded 4 year.natAbs
  else (if year < 0 then '-' else '+') :: padded 4 year.natAbs

/-- Writes a fraction of a second: nothing, or milliseconds, microseconds or nanoseconds,
whichever is the coarsest that loses nothing. -/
def writeFraction (nanos : Nat) : List Char :=
  if nanos = 0 then []
  else if nanos % 1000000 = 0 then '.' :: padded 3 (nanos / 1000000)
  else if nanos % 1000 = 0 then '.' :: padded 6 (nanos / 1000)
  else '.' :: padded 9 nanos

/-- Writes the moment up to its offset from universal time. -/
def writeLocal (t : DateTime) : List Char :=
  let date := t.date
  let second := t.secondOfDay
  let leap := t.nanos / nanosPerSecond
  writeYear date.year ++ '-' :: padded 2 date.month ++ '-' :: padded 2 date.day ++
    'T' :: padded 2 (second / 3600) ++ ':' :: padded 2 (second / 60 % 60) ++
    ':' :: padded 2 (second % 60 + leap) ++ writeFraction (t.nanos % nanosPerSecond)

/-- The text of a moment in messages and in query text. -/
def toText (t : DateTime) : String :=
  String.ofList (t.writeLocal ++ "+00:00".toList)

/-- The text of a moment in JSON. -/
def toJsonText (t : DateTime) : String :=
  String.ofList (t.writeLocal ++ ['Z'])

end DateTime

end SearchCriteria.Time
