/-
# The calendar and the numbers of days

The day with a given number exists in the calendar and has that number.  A year is found by a
guess that is wrong by at most one, and a month by taking whole months off the days of the year.
-/
import Mathlib.Tactic.Lemma
import SearchCriteria.Time.Calendar

namespace SearchCriteria.Time

/-! ## Years -/

/-- The number of days of a year. -/
def yearLength (year : Int) : Nat :=
  if isLeapYear year then 366 else 365

lemma sum_monthLengths (year : Int) : (monthLengths year).sum = yearLength year := by
  unfold monthLengths yearLength
  cases isLeapYear year <;> rfl

lemma daysBeforeYear_eq (year : Int) : daysBeforeYear year =
    365 * (year - 1) + (year - 1) / 4 - (year - 1) / 100 + (year - 1) / 400 := rfl

lemma daysBeforeYear_succ (year : Int) :
    daysBeforeYear (year + 1) = daysBeforeYear year + yearLength year := by
  have hleap : isLeapYear year = true ↔ year % 4 = 0 ∧ (year % 100 ≠ 0 ∨ year % 400 = 0) := by
    simp [isLeapYear]
  rw [daysBeforeYear_eq, daysBeforeYear_eq, yearLength]
  split
  case isTrue h =>
    have := hleap.1 h
    omega
  case isFalse h =>
    have := mt hleap.2 h
    omega

lemma daysBeforeYear_le {y z : Int} (h : y ≤ z) : daysBeforeYear y ≤ daysBeforeYear z := by
  rw [daysBeforeYear_eq, daysBeforeYear_eq]
  omega

/-- The guess at a year is wrong by at most one. -/
lemma yearOfDays_spec (days : Int) :
    daysBeforeYear (yearOfDays days) ≤ days ∧ days < daysBeforeYear (yearOfDays days + 1) := by
  -- Four hundred years have 146097 days.
  obtain ⟨guess, hguess⟩ : ∃ guess, guess = 400 * days / 146097 + 1 := ⟨_, rfl⟩
  have hyear : yearOfDays days =
      if days < daysBeforeYear guess then guess - 1
      else if daysBeforeYear (guess + 1) ≤ days then guess + 1
      else guess := by
    rw [hguess]
    rfl
  have hlow : daysBeforeYear (guess - 1) ≤ days := by
    rw [daysBeforeYear_eq]
    omega
  have hhigh : days < daysBeforeYear (guess + 1 + 1) := by
    rw [daysBeforeYear_eq]
    omega
  rw [hyear]
  split
  case isTrue h => exact ⟨hlow, by rw [Int.sub_add_cancel]; exact h⟩
  case isFalse h =>
    split
    case isTrue h' => exact ⟨h', hhigh⟩
    case isFalse h' => exact ⟨Int.not_lt.1 h, Int.not_le.1 h'⟩

/-! ## Months -/

/-- Whole months and the days left make up the days, and the days left lie in the next month. -/
lemma splitMonths_spec (lengths : List Nat) (days : Nat) (h : days < lengths.sum) :
    ∃ length, lengths[(splitMonths lengths days).1]? = some length ∧
      (splitMonths lengths days).2 < length ∧
      (lengths.take (splitMonths lengths days).1).sum + (splitMonths lengths days).2 = days := by
  induction lengths generalizing days with
  | nil => exact absurd h (Nat.not_lt_zero _)
  | cons first lengths ih =>
    rw [splitMonths]
    by_cases hfirst : days < first
    · rw [if_pos hfirst]
      exact ⟨first, rfl, hfirst, by simp⟩
    · rw [if_neg hfirst]
      rw [List.sum_cons] at h
      obtain ⟨length, hget, hlt, hsum⟩ := ih (days - first) (by omega)
      refine ⟨length, hget, hlt, ?_⟩
      simp only [List.take_succ_cons, List.sum_cons]
      omega

/-! ## Days -/

namespace Date

lemma toDayNumber_newYear (year : Int) :
    toDayNumber ⟨year, 1, 1⟩ = daysBeforeYear year - epochDays := by
  simp [toDayNumber]

/-- The days left in the year of a numbered day are fewer than the year has. -/
lemma daysOfYear_lt (days : Int) :
    (days - daysBeforeYear (yearOfDays days)).toNat < (monthLengths (yearOfDays days)).sum := by
  obtain ⟨hlow, hhigh⟩ := yearOfDays_spec days
  rw [daysBeforeYear_succ] at hhigh
  rw [sum_monthLengths]
  omega

/-- The day with a number has that number. -/
theorem toDayNumber_ofDayNumber (number : Int) : (ofDayNumber number).toDayNumber = number := by
  obtain ⟨-, -, -, hsum⟩ := splitMonths_spec _ _ (daysOfYear_lt (number + epochDays))
  obtain ⟨hlow, -⟩ := yearOfDays_spec (number + epochDays)
  simp only [ofDayNumber, toDayNumber, Nat.add_sub_cancel]
  omega

/-- The day with a number is a day of the calendar. -/
theorem isValid_ofDayNumber (number : Int) : (ofDayNumber number).isValid = true := by
  obtain ⟨length, hget, hlt, -⟩ := splitMonths_spec _ _ (daysOfYear_lt (number + epochDays))
  simp only [ofDayNumber, isValid, Nat.add_sub_cancel, hget]
  simp [Nat.succ_le_of_lt hlt]

/-- A day of the calendar lies in one of twelve months, and its number in two digits. -/
lemma lt_hundred_of_isValid {d : Date} (h : d.isValid = true) : d.month < 100 ∧ d.day < 100 := by
  obtain ⟨year, month, day⟩ := d
  have hlengths : ∀ length ∈ monthLengths year, length ≤ 31 := by
    unfold monthLengths
    cases isLeapYear year <;> decide
  simp only [isValid, Bool.and_eq_true] at h
  obtain ⟨⟨-, -⟩, h⟩ := h
  cases hget : (monthLengths year)[month - 1]? with
  | none => simp [hget] at h
  | some length =>
    rw [hget] at h
    have hle := hlengths length (List.mem_of_getElem? hget)
    have hmonth : month - 1 < 12 := (List.getElem?_eq_some_iff.1 hget).1
    have hday : day ≤ length := by simpa using h
    constructor <;> simp only <;> omega

/-- The year of a numbered day lies between the years of the days around it. -/
lemma year_ofDayNumber_mem {first last number : Int}
    (hfirst : toDayNumber ⟨first, 1, 1⟩ ≤ number) (hlast : number < toDayNumber ⟨last + 1, 1, 1⟩) :
    first ≤ (ofDayNumber number).year ∧ (ofDayNumber number).year ≤ last := by
  obtain ⟨hlow, hhigh⟩ := yearOfDays_spec (number + epochDays)
  rw [toDayNumber_newYear] at hfirst hlast
  have hyear : (ofDayNumber number).year = yearOfDays (number + epochDays) := rfl
  rw [hyear]
  constructor
  · refine Int.not_lt.1 fun hlt => ?_
    have := daysBeforeYear_le (Int.add_one_le_of_lt hlt)
    omega
  · refine Int.not_lt.1 fun hlt => ?_
    have := daysBeforeYear_le (Int.add_one_le_of_lt hlt)
    omega

end Date

end SearchCriteria.Time
