/-
# The Gregorian calendar

Days are numbered from 1 January 1970, for years before and after it alike.
-/
import SearchCriteria.Numeric.Core

namespace SearchCriteria.Time

/-- A day of the Gregorian calendar, extended to all years. -/
structure Date where
  /-- The year; year 0 precedes year 1. -/
  year : Int
  /-- The month, from 1. -/
  month : Nat
  /-- The day of the month, from 1. -/
  day : Nat
deriving DecidableEq, Repr

/-- Whether a year has a 29 February. -/
def isLeapYear (year : Int) : Bool :=
  year % 4 = 0 && (year % 100 ≠ 0 || year % 400 = 0)

/-- The lengths of the twelve months of a year. -/
def monthLengths (year : Int) : List Nat :=
  [31, if isLeapYear year then 29 else 28, 31, 30, 31, 30, 31, 31, 30, 31, 30, 31]

/-- The number of days between 1 January of year 1 and 1 January of a year. -/
def daysBeforeYear (year : Int) : Int :=
  let past := year - 1
  365 * past + past / 4 - past / 100 + past / 400

/-- The number of days between 1 January of year 1 and 1 January 1970. -/
def epochDays : Int := daysBeforeYear 1970

/-- The year in which the day lies that comes `days` days after 1 January of year 1. -/
def yearOfDays (days : Int) : Int :=
  let guess := 400 * days / 146097 + 1
  if days < daysBeforeYear guess then guess - 1
  else if daysBeforeYear (guess + 1) ≤ days then guess + 1
  else guess

/-- Splits a number of days into whole months, of the given lengths, and the days left. -/
def splitMonths : List Nat → Nat → Nat × Nat
  | [], days => (0, days)
  | length :: lengths, days =>
    if days < length then (0, days)
    else
      let (months, rest) := splitMonths lengths (days - length)
      (months + 1, rest)

namespace Date

/-- Whether the month exists and has such a day. -/
def isValid (d : Date) : Bool :=
  1 ≤ d.month && 1 ≤ d.day &&
    match (monthLengths d.year)[d.month - 1]? with
    | some length => d.day ≤ length
    | none => false

/-- The number of a day. -/
def toDayNumber (d : Date) : Int :=
  daysBeforeYear d.year - epochDays +
    (((monthLengths d.year).take (d.month - 1)).sum + (d.day - 1) : Nat)

/-- The day with a given number. -/
def ofDayNumber (number : Int) : Date :=
  let days := number + epochDays
  let year := yearOfDays days
  let (months, rest) := splitMonths (monthLengths year) (days - daysBeforeYear year).toNat
  ⟨year, months + 1, rest + 1⟩

end Date

end SearchCriteria.Time
