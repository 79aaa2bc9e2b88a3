/-
# Moments read back

A moment that is written is read as itself.  Every component is written with a fixed number of
digits, or stands before a character that is no digit, and the day and the second of the day
are found again from the calendar.

Main statement: the text of a moment in JSON reads as the moment.
-/
import SearchCriteria.Proofs.Text.Blank
import SearchCriteria.Proofs.Time.Calendar
import SearchCriteria.Time.Reader

namespace SearchCriteria.Time

open SearchCriteria.Text

/-! ## Padded numbers -/

lemma isDigit_padded (width n : Nat) : ∀ c ∈ padded width n, c.isDigit = true := by
  intro c hc
  simp only [padded, List.mem_append, List.mem_replicate] at hc
  obtain ⟨-, rfl⟩ | hc := hc
  · decide
  · exact isDigit_toDigits n c hc

lemma padded_ne_nil (width n : Nat) : padded width n ≠ [] := by
  simp [padded, Nat.toDigits_ne_nil]

lemma ofDigitChars_padded (width n : Nat) : Nat.ofDigitChars 10 (padded width n) 0 = n := by
  simp [padded, Nat.ofDigitChars_append, Nat.ofDigitChars_replicate_zero]

lemma length_padded {width n : Nat} (hwidth : 0 < width) (h : n < 10 ^ width) :
    (padded width n).length = width := by
  have := (Nat.length_toDigits_le_iff (by decide) hwidth).2 h
  simp only [padded, List.length_append, List.length_replicate]
  omega

/-! ## Reading components -/

/-- A text that goes on with a padded number goes on with a digit. -/
lemma padded_append_eq_cons (width n : Nat) (rest : List Char) :
    ∃ c text, padded width n ++ rest = c :: text ∧ c.isDigit = true := by
  obtain ⟨c, digits, hcons⟩ := List.exists_cons_of_ne_nil (padded_ne_nil width n)
  refine ⟨c, digits ++ rest, by rw [hcons, List.cons_append], ?_⟩
  exact isDigit_padded width n c (hcons ▸ List.mem_cons_self)

lemma trimStart_padded (width n : Nat) (rest : List Char) :
    trimStart (padded width n ++ rest) = padded width n ++ rest := by
  obtain ⟨c, text, hcons, hdigit⟩ := padded_append_eq_cons width n rest
  rw [hcons, trimStart_of_not_blank (isBlank_of_isDigit hdigit)]

lemma scanDigits_exact {digits : List Char} (hdigits : ∀ c ∈ digits, c.isDigit = true)
    (hne : digits ≠ []) (rest : List Char) :
    scanDigits (some digits.length) (digits ++ rest) = some (digits, rest) := by
  simp [scanDigits, List.takeWhile_append_of_pos hdigits, hne]

lemma scanDigits_run {digits rest : List Char} (hdigits : ∀ c ∈ digits, c.isDigit = true)
    (hne : digits ≠ []) (hrest : StopsAt Char.isDigit rest) :
    scanDigits none (digits ++ rest) = some (digits, rest) := by
  simp [scanDigits, takeWhile_run hdigits hrest, hne]

lemma scanNumber_padded {n : Nat} (h : n < 100) (rest : List Char) :
    scanNumber (padded 2 n ++ rest) = some (n, rest) := by
  have hscan := scanDigits_exact (isDigit_padded 2 n) (padded_ne_nil 2 n) rest
  rw [length_padded (by decide) h] at hscan
  simp [scanNumber, trimStart_padded, hscan, ofDigitChars_padded]

lemma scanMark_cons {mark : Char} (h : isBlank mark = false) (rest : List Char) :
    scanMark mark (mark :: rest) = some rest := by
  simp [scanMark, trimStart_of_not_blank h]

/-- A year that is read starts with a sign, or its first four digits are taken. -/
lemma scanYear_writeYear (year : Int) {rest : List Char} (hrest : StopsAt Char.isDigit rest) :
    scanYear (DateTime.writeYear year ++ rest) = some (year, rest) := by
  have hrun := scanDigits_run (isDigit_padded 4 year.natAbs) (padded_ne_nil 4 _) hrest
  unfold DateTime.writeYear
  split
  case isTrue h =>
    have hlength : (padded 4 year.natAbs).length = 4 := length_padded (by decide) (by omega)
    have hscan := scanDigits_exact (isDigit_padded 4 year.natAbs) (padded_ne_nil 4 _) rest
    rw [hlength] at hscan
    -- The text starts with a digit, so with no sign.
    obtain ⟨c, text, hcons, hdigit⟩ := padded_append_eq_cons 4 year.natAbs rest
    rw [scanYear, trimStart_padded, hcons]
    split
    case h_1 heq =>
      obtain ⟨rfl, -⟩ := List.cons.inj heq
      exact absurd hdigit (by decide)
    case h_2 heq =>
      obtain ⟨rfl, -⟩ := List.cons.inj heq
      exact absurd hdigit (by decide)
    case h_3 =>
      have hvalue : (year.natAbs : Int) = year := by omega
      rw [← hcons, hscan]
      simp only [Option.bind_eq_bind, Option.bind_some, ofDigitChars_padded, hvalue]
  case isFalse h =>
    rw [List.cons_append]
    by_cases hsign : year < 0
    · have hvalue : -(year.natAbs : Int) = year := by omega
      rw [if_pos hsign, scanYear, trimStart_of_not_blank (by decide)]
      simp only [hrun, Option.bind_eq_bind, Option.bind_some, ofDigitChars_padded, hvalue]
    · have hvalue : (year.natAbs : Int) = year := by omega
      rw [if_neg hsign, scanYear, trimStart_of_not_blank (by decide)]
      simp only [hrun, Option.bind_eq_bind, Option.bind_some, ofDigitChars_padded, hvalue]

lemma scanFraction_point {digits rest : List Char} (hdigits : ∀ c ∈ digits, c.isDigit = true)
    (hlength : digits.length ≤ 9) (hne : digits ≠ []) (hrest : StopsAt Char.isDigit rest) :
    scanFraction ('.' :: digits ++ rest) =
      some (Nat.ofDigitChars 10 digits 0 * 10 ^ (9 - digits.length), rest) := by
  simp [scanFraction, scanDigits_run hdigits hne hrest, Nat.min_eq_right hlength,
    List.take_of_length_le hlength]

lemma scanFraction_writeFraction {nanos : Nat} (h : nanos < nanosPerSecond) {rest : List Char}
    (hrest : StopsAt Char.isDigit rest) (hpoint : rest.head? ≠ some '.') :
    scanFraction (DateTime.writeFraction nanos ++ rest) = some (nanos, rest) := by
  have hpadded : ∀ width n, 0 < width → width ≤ 9 → n < 10 ^ width →
      scanFraction ('.' :: padded width n ++ rest) = some (n * 10 ^ (9 - width), rest) := by
    intro width n hpos hle hlt
    have hlength := length_padded hpos hlt
    rw [scanFraction_point (isDigit_padded width n) (by omega) (padded_ne_nil width n) hrest,
      ofDigitChars_padded, hlength]
  -- The fraction has none, three, six or nine digits, as many as it needs.
  unfold DateTime.writeFraction
  unfold nanosPerSecond at h
  split
  case isTrue hzero =>
    subst hzero
    rw [List.nil_append]
    unfold scanFraction
    split
    case h_1 => exact absurd rfl hpoint
    case h_2 => rfl
  case isFalse =>
    split
    case isTrue hmilli =>
      rw [hpadded 3 _ (by decide) (by decide) (by omega)]
      simp
      omega
    case isFalse =>
      split
      case isTrue hmicro =>
        rw [hpadded 6 _ (by decide) (by decide) (by omega)]
        simp
        omega
      case isFalse =>
        rw [hpadded 9 _ (by decide) (by decide) h]
        simp

/-! ## Moments -/

namespace DateTime

lemma date_mem (t : DateTime) : firstYear ≤ t.date.year ∧ t.date.year ≤ lastYear := by
  obtain ⟨hfirst, hlast⟩ := t.inRange
  unfold firstSecond at hfirst
  unfold lastSecond at hlast
  unfold daySeconds at hfirst hlast
  refine Date.year_ofDayNumber_mem ?_ ?_ <;> unfold daySeconds <;> omega

lemma scanDate_date (t : DateTime) (rest : List Char) :
    scanDate (writeYear t.date.year ++
      ('-' :: (padded 2 t.date.month ++ ('-' :: (padded 2 t.date.day ++ rest))))) =
        some (t.date, rest) := by
  have hvalid : t.date.isValid = true := Date.isValid_ofDayNumber _
  obtain ⟨hmonth, hday⟩ := Date.lt_hundred_of_isValid hvalid
  have hmark : StopsAt Char.isDigit
      ('-' :: (padded 2 t.date.month ++ ('-' :: (padded 2 t.date.day ++ rest)))) :=
    stopsAt_cons (by decide) _
  have hminus : isBlank '-' = false := by decide
  simp only [scanDate, scanYear_writeYear _ hmark, scanMark_cons hminus,
    scanNumber_padded hmonth, scanNumber_padded hday, Option.bind_eq_bind, Option.bind_some]
  exact if_pos ⟨hvalid, t.date_mem⟩

lemma scanTime_time {hour minute second nanos : Nat} (hhour : hour ≤ 23) (hminute : minute ≤ 59)
    (hsecond : second ≤ 60) (hnanos : nanos < nanosPerSecond) {rest : List Char}
    (hrest : StopsAt Char.isDigit rest) (hpoint : rest.head? ≠ some '.') :
    scanTime (padded 2 hour ++ (':' :: (padded 2 minute ++ (':' :: (padded 2 second ++
      (writeFraction nanos ++ rest)))))) =
        some ((hour * 3600 + minute * 60 + (second - second / 60),
          nanos + second / 60 * nanosPerSecond), rest) := by
  have hcolon : isBlank ':' = false := by decide
  simp only [scanTime, scanNumber_padded (show hour < 100 by omega), scanMark_cons hcolon,
    scanNumber_padded (show minute < 100 by omega),
    scanNumber_padded (show second < 100 by omega),
    scanFraction_writeFraction hnanos hrest hpoint, Option.bind_eq_bind, Option.bind_some]
  exact if_pos ⟨hhour, hminute, hsecond⟩

lemma of?_seconds_nanos (t : DateTime) : of? t.seconds t.nanos = some t :=
  dif_pos ⟨t.inRange, t.fraction⟩

/-- The text of a moment in JSON reads as the moment. -/
theorem ofText?_toJsonText (t : DateTime) : ofText? t.toJsonText = some t := by
  have htext : t.toJsonText.toList = writeYear t.date.year ++
      ('-' :: (padded 2 t.date.month ++ ('-' :: (padded 2 t.date.day ++
        ('T' :: (padded 2 (t.secondOfDay / 3600) ++
          (':' :: (padded 2 (t.secondOfDay / 60 % 60) ++
            (':' :: (padded 2 (t.secondOfDay % 60 + t.nanos / nanosPerSecond) ++
              (writeFraction (t.nanos % nanosPerSecond) ++ ['Z']))))))))))) := by
    simp [toJsonText, writeLocal]
  have hfraction := t.fraction
  unfold nanosPerSecond at hfraction
  have hday : t.secondOfDay < 86400 ∧ t.secondOfDay % 60 = (t.seconds % 60).toNat ∧
      t.seconds = t.seconds / daySeconds * daySeconds + t.secondOfDay := by
    unfold secondOfDay daySeconds
    omega
  obtain ⟨hlt, hminute, hseconds⟩ := hday
  -- A leap second is written as the second sixty, and its fraction is that of the second.
  have hleap : t.secondOfDay % 60 + t.nanos / nanosPerSecond ≤ 60 ∧
      (t.secondOfDay % 60 + t.nanos / nanosPerSecond) / 60 = t.nanos / nanosPerSecond := by
    unfold nanosPerSecond
    omega
  have htime := scanTime_time (show t.secondOfDay / 3600 ≤ 23 by omega)
    (show t.secondOfDay / 60 % 60 ≤ 59 by omega) hleap.1 (Nat.mod_lt t.nanos (by decide))
    (stopsAt_cons (p := Char.isDigit) (c := 'Z') (by decide) []) (by decide)
  have hoffset : scanOffset ['Z'] = some (0, []) := by decide
  have hdate : t.date.toDayNumber = t.seconds / daySeconds := Date.toDayNumber_ofDayNumber _
  have hwhole : t.date.toDayNumber * daySeconds +
      ((t.secondOfDay / 3600 * 3600 + t.secondOfDay / 60 % 60 * 60 +
        (t.secondOfDay % 60 + t.nanos / nanosPerSecond - t.nanos / nanosPerSecond) : Nat) : Int) -
          0 = t.seconds := by
    rw [hdate]
    omega
  have hnanos : t.nanos % nanosPerSecond + t.nanos / nanosPerSecond * nanosPerSecond = t.nanos :=
    Nat.mod_add_div' t.nanos nanosPerSecond
  simp only [ofText?, htext, scanDate_date, htime, scanSeparator, hoffset, hleap.2,
    Option.bind_eq_bind, Option.bind_some]
  rw [hwhole, hnanos, if_pos List.all_nil, of?_seconds_nanos]

end DateTime

end SearchCriteria.Time
