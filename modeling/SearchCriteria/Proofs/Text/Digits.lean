/-
# Runs of digits in a text

A reader of a number takes the longest run of digits.  In front of a character that is no digit
this is the run that was written.
-/
import Mathlib.Tactic.Lemma

namespace SearchCriteria.Text

/-- The text does not go on with a character of the class. -/
def StopsAt (p : Char → Bool) (text : List Char) : Prop :=
  ∀ c ∈ text.head?, p c = false

lemma stopsAt_nil (p : Char → Bool) : StopsAt p [] := nofun

lemma stopsAt_cons {p : Char → Bool} {c : Char} (h : p c = false) (rest : List Char) :
    StopsAt p (c :: rest) := by
  rintro _ ⟨⟩
  exact h

lemma takeWhile_of_stopsAt {p : Char → Bool} {text : List Char} (h : StopsAt p text) :
    text.takeWhile p = [] := by
  cases text with
  | nil => rfl
  | cons c rest => simp [h c rfl]

lemma dropWhile_of_stopsAt {p : Char → Bool} {text : List Char} (h : StopsAt p text) :
    text.dropWhile p = text := by
  cases text with
  | nil => rfl
  | cons c rest => simp [h c rfl]

/-- A run is taken whole if the text stops after it. -/
lemma takeWhile_run {p : Char → Bool} {run rest : List Char} (hrun : ∀ c ∈ run, p c = true)
    (hrest : StopsAt p rest) : (run ++ rest).takeWhile p = run := by
  rw [List.takeWhile_append_of_pos hrun, takeWhile_of_stopsAt hrest, List.append_nil]

lemma dropWhile_run {p : Char → Bool} {run rest : List Char} (hrun : ∀ c ∈ run, p c = true)
    (hrest : StopsAt p rest) : (run ++ rest).dropWhile p = rest := by
  rw [List.dropWhile_append_of_pos hrun, dropWhile_of_stopsAt hrest]

lemma isDigit_zeros (n : Nat) : ∀ c ∈ List.replicate n '0', c.isDigit = true := by
  intro c hc
  obtain ⟨-, rfl⟩ := List.mem_replicate.1 hc
  decide

lemma isDigit_toDigits (n : Nat) : ∀ c ∈ Nat.toDigits 10 n, c.isDigit = true :=
  fun _ hc => Nat.isDigit_of_mem_toDigits (by decide) (by decide) hc

lemma head?_toDigits_ne {n : Nat} (hn : n ≠ 0) : (Nat.toDigits 10 n).head? ≠ some '0' := by
  induction n using Nat.strongRecOn with
  | _ n ih =>
    by_cases hten : n < 10
    · have hchar : ∀ m < 10, m ≠ 0 → Nat.digitChar m ≠ '0' := by decide
      rw [Nat.toDigits_of_lt_base hten, List.head?_cons]
      exact fun h => hchar n hten hn (Option.some.inj h)
    · have hfirst := ih (n / 10) (by omega) (by omega)
      rw [Nat.toDigits_of_base_le (by decide) (Nat.not_lt.1 hten), List.head?_append]
      cases h : (Nat.toDigits 10 (n / 10)).head? with
      | none => exact absurd (List.head?_eq_none_iff.1 h) Nat.toDigits_ne_nil
      | some c => rwa [h] at hfirst

/-- Only zero is written with a zero in front. -/
lemma toDigits_eq_zero_cons {n : Nat} {cs : List Char} (h : Nat.toDigits 10 n = '0' :: cs) :
    n = 0 ∧ cs = [] := by
  by_cases hn : n = 0
  · rw [hn, Nat.toDigits_zero] at h
    exact ⟨hn, (List.cons.inj h).2.symm⟩
  · exact absurd (by rw [h]; rfl) (head?_toDigits_ne hn)

/-- The digits that a number is written with: there is no sign, and no zero in front of others. -/
structure IsDecimal (digits : List Char) (n : Nat) : Prop where
  /-- There is nothing but digits. -/
  isDigit : ∀ c ∈ digits, c.isDigit = true
  /-- There is at least one. -/
  ne_nil : digits ≠ []
  /-- They are those of the number. -/
  value : Nat.ofDigitChars 10 digits 0 = n
  /-- A zero in front stands alone. -/
  eq_nil_of_zero : ∀ rest, digits = '0' :: rest → rest = []

lemma isDecimal_toDigits (n : Nat) : IsDecimal (Nat.toDigits 10 n) n where
  isDigit := isDigit_toDigits n
  ne_nil := Nat.toDigits_ne_nil
  value := Nat.ofDigitChars_ten_toDigits
  eq_nil_of_zero _ h := (toDigits_eq_zero_cons h).2

end SearchCriteria.Text
