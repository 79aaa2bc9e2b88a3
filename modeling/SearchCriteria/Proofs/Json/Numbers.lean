/-
# Numbers in JSON text

The scanner takes a number apart where the writer put it together: the whole part in front of the
point, the fraction behind it, the exponent behind its mark.  What it answers depends on nothing
that follows the number, as long as the text does not go on like a number.

Main statements: a whole number is scanned as itself, a 64-bit number is scanned as itself, and a
32-bit number as the 64-bit number nearest to the decimal that it is written as.
-/
import SearchCriteria.Json.Scanner
import SearchCriteria.Proofs.Numeric.Shortest
import SearchCriteria.Proofs.Text.Digits

namespace SearchCriteria.Scanner

open Numeric Text

/-- The characters with which a number may go on. -/
def isNumeral (c : Char) : Bool :=
  c.isDigit || c == '.' || c == 'e' || c == 'E'

lemma stopsAt_digit {text : List Char} (h : StopsAt isNumeral text) :
    StopsAt Char.isDigit text := by
  intro c hc
  have := h c hc
  simp_all [isNumeral]

/-! ## Parts of a number -/

section Parts

variable (negative : Bool) {whole fraction rest : List Char}

lemma scanNumber_whole (hdigits : ∀ c ∈ whole, c.isDigit = true) (hne : whole ≠ [])
    (hzero : ∀ c cs, whole ≠ '0' :: c :: cs) (hrest : StopsAt Char.isDigit rest) :
    scanNumber negative (whole ++ rest) = scanAfterWhole negative whole rest := by
  simp only [scanNumber, takeWhile_run hdigits hrest, dropWhile_run hdigits hrest]

lemma scanAfterWhole_point (hdigits : ∀ c ∈ fraction, c.isDigit = true) (hne : fraction ≠ [])
    (hrest : StopsAt Char.isDigit rest) :
    scanAfterWhole negative whole ('.' :: (fraction ++ rest)) =
      scanAfterFraction negative whole fraction rest := by
  simp only [scanAfterWhole, takeWhile_run hdigits hrest, dropWhile_run hdigits hrest]
  exact if_neg hne

lemma scanAfterWhole_no_point (hrest : rest.head? ≠ some '.') :
    scanAfterWhole negative whole rest = scanAfterFraction negative whole [] rest := by
  unfold scanAfterWhole
  split
  case h_1 => exact absurd rfl hrest
  case h_2 => rfl

lemma scanAfterFraction_end (hrest : StopsAt isNumeral rest) :
    scanAfterFraction negative whole fraction rest =
      if fraction = [] then (integerDraft negative whole, some rest)
      else (floatDraft negative (.ofDigits whole fraction 0), some rest) := by
  unfold scanAfterFraction
  split
  case h_1 => exact absurd (hrest 'e' rfl) (by decide)
  case h_2 => exact absurd (hrest 'E' rfl) (by decide)
  case h_3 => rfl

/-- An exponent is scanned with its sign. -/
lemma scanAfterFraction_exponent (leading : Int) (hrest : StopsAt Char.isDigit rest) :
    scanAfterFraction negative whole fraction ('e' :: (if leading < 0 then '-' else '+') ::
      (Nat.toDigits 10 leading.natAbs ++ rest)) =
        (floatDraft negative (.ofDigits whole fraction leading), some rest) := by
  have hdigits := isDigit_toDigits leading.natAbs
  have hscan : ∀ down : Bool, scanExponentDigits negative down whole fraction
      (Nat.toDigits 10 leading.natAbs ++ rest) =
        (floatDraft negative (.ofDigits whole fraction
          (if down then -(leading.natAbs : Int) else leading.natAbs)), some rest) := by
    intro down
    simp only [scanExponentDigits, takeWhile_run hdigits hrest, dropWhile_run hdigits hrest,
      Nat.toDigits_ne_nil, if_false, Nat.ofDigitChars_ten_toDigits]
  by_cases hsign : leading < 0
  · have hvalue : (-(leading.natAbs : Int)) = leading := by omega
    rw [if_pos hsign, scanAfterFraction, scanExponent, hscan true, if_pos rfl, hvalue]
  · have hvalue : (leading.natAbs : Int) = leading := by omega
    rw [if_neg hsign, scanAfterFraction, scanExponent, hscan false]
    simp only [Bool.false_eq_true, if_false, hvalue]

end Parts

/-! ## Whole numbers -/

lemma scanNumber_integer (negative : Bool) (n : Nat) {rest : List Char}
    (hrest : StopsAt isNumeral rest) :
    scanNumber negative (Nat.toDigits 10 n ++ rest) =
      (integerDraft negative (Nat.toDigits 10 n), some rest) := by
  have hzero : ∀ c cs, Nat.toDigits 10 n ≠ '0' :: c :: cs :=
    fun c cs h => nomatch (toDigits_eq_zero_cons h).2
  have hpoint : rest.head? ≠ some '.' := fun h => absurd (hrest '.' h) (by decide)
  rw [scanNumber_whole negative (isDigit_toDigits n) Nat.toDigits_ne_nil hzero
    (stopsAt_digit hrest), scanAfterWhole_no_point negative hpoint,
    scanAfterFraction_end negative hrest, if_pos rfl]

/-! ## Decimals -/

section Decimals

variable (negative : Bool) (d : Decimal) {rest : List Char}

/-- A whole number is written with zeros behind its digits, and a zero behind the point. -/
lemma scanNumber_zeros (hd : d.coefficient = 0 → d.exponent = 0) (hwhole : 0 ≤ d.exponent)
    (hrest : StopsAt isNumeral rest) :
    scanNumber negative
        (d.digits ++ List.replicate d.exponent.toNat '0' ++ '.' :: (['0'] ++ rest)) =
      (floatDraft negative ⟨d.coefficient * 10 ^ (d.exponent.toNat + 1),
        d.exponent - (d.exponent.toNat + 1 : Nat)⟩, some rest) := by
  have hall : ∀ c ∈ d.digits ++ List.replicate d.exponent.toNat '0', c.isDigit = true :=
    List.forall_mem_append.2 ⟨d.isDigit_digits, isDigit_zeros _⟩
  have hne : d.digits ++ List.replicate d.exponent.toNat '0' ≠ [] := by
    simp [Decimal.digits, Nat.toDigits_ne_nil]
  -- Only the coefficient zero starts with a zero, and its exponent adds no others.
  have hzero : ∀ c cs, d.digits ++ List.replicate d.exponent.toNat '0' ≠ '0' :: c :: cs := by
    intro c cs h
    obtain ⟨first, digits, hcons⟩ := List.exists_cons_of_ne_nil
      (show d.digits ≠ [] from Nat.toDigits_ne_nil)
    rw [hcons, List.cons_append] at h
    obtain ⟨rfl, h⟩ := List.cons.inj h
    obtain ⟨hcoefficient, rfl⟩ := toDigits_eq_zero_cons hcons
    rw [hd hcoefficient] at h
    cases h
  have hvalue := List.replicate_one ▸ d.ofDigits_zeros hwhole 1
  have hfraction : ∀ c ∈ ['0'], c.isDigit = true := List.forall_mem_singleton.2 (by decide)
  rw [scanNumber_whole negative hall hne hzero (stopsAt_cons (by decide) _),
    scanAfterWhole_point negative hfraction (List.cons_ne_nil _ _) (stopsAt_digit hrest),
    scanAfterFraction_end negative hrest, if_neg (List.cons_ne_nil _ _), hvalue]

/-- A number below one is written with a zero in front of the point, and zeros behind it. -/
lemma scanNumber_below_one (hpoint : d.digits.length + d.exponent ≤ 0)
    (hrest : StopsAt isNumeral rest) :
    scanNumber negative (['0'] ++ '.' ::
        (List.replicate (-(d.digits.length + d.exponent)).toNat '0' ++ d.digits ++ rest)) =
      (floatDraft negative d, some rest) := by
  obtain ⟨zeros, hzeros⟩ : ∃ zs, zs = List.replicate (-(d.digits.length + d.exponent)).toNat '0' :=
    ⟨_, rfl⟩
  have hall : ∀ c ∈ zeros ++ d.digits, c.isDigit = true :=
    List.forall_mem_append.2 ⟨hzeros ▸ isDigit_zeros _, d.isDigit_digits⟩
  have hne : zeros ++ d.digits ≠ [] := by simp [Decimal.digits, Nat.toDigits_ne_nil]
  have hvalue := hzeros ▸ d.ofDigits_below_one hpoint
  have hwhole : ∀ c ∈ ['0'], c.isDigit = true := List.forall_mem_singleton.2 (by decide)
  rw [← hzeros, scanNumber_whole negative hwhole (List.cons_ne_nil _ _) (by simp)
      (stopsAt_cons (by decide) _),
    scanAfterWhole_point negative hall hne (stopsAt_digit hrest),
    scanAfterFraction_end negative hrest, if_neg hne, hvalue]

/-- A number with a fraction is written with the point among its digits. -/
lemma scanNumber_among (hexponent : d.exponent < 0) (hpoint : 0 < d.digits.length + d.exponent)
    (hrest : StopsAt isNumeral rest) :
    scanNumber negative (d.digits.take (d.digits.length + d.exponent).toNat ++
        '.' :: (d.digits.drop (d.digits.length + d.exponent).toNat ++ rest)) =
      (floatDraft negative d, some rest) := by
  obtain ⟨point, hpoint⟩ : ∃ n : Nat, (n : Int) = d.digits.length + d.exponent :=
    ⟨(d.digits.length + d.exponent).toNat, by omega⟩
  rw [← hpoint, Int.toNat_natCast]
  have hwhole : ∀ c ∈ d.digits.take point, c.isDigit = true :=
    fun c hc => d.isDigit_digits c (List.mem_of_mem_take hc)
  have hfraction : ∀ c ∈ d.digits.drop point, c.isDigit = true :=
    fun c hc => d.isDigit_digits c (List.mem_of_mem_drop hc)
  have hwholeNe : d.digits.take point ≠ [] := by
    rw [ne_eq, List.take_eq_nil_iff, not_or]
    exact ⟨by omega, Nat.toDigits_ne_nil⟩
  have hfractionNe : d.digits.drop point ≠ [] := by
    rw [ne_eq, List.drop_eq_nil_iff]
    omega
  -- The digits in front of the point are the first ones of the coefficient.
  have hzero : ∀ c cs, d.digits.take point ≠ '0' :: c :: cs := by
    intro c cs h
    have hdigits := List.take_append_drop point d.digits
    rw [h] at hdigits
    exact nomatch (toDigits_eq_zero_cons hdigits.symm).2
  have hvalue := d.ofDigits_among hpoint.symm (Int.le_of_lt hexponent)
  rw [scanNumber_whole negative hwhole hwholeNe hzero (stopsAt_cons (by decide) _),
    scanAfterWhole_point negative hfraction hfractionNe (stopsAt_digit hrest),
    scanAfterFraction_end negative hrest, if_neg hfractionNe, hvalue]

/-- A number with an exponent is written with the point behind its first digit, if it has more. -/
lemma scanNumber_scientific (hrest : StopsAt Char.isDigit rest) :
    scanNumber negative (Style.writeScientific d.digits (d.magnitude - 1) ++ rest) =
      (floatDraft negative d, some rest) := by
  have hdigits := d.isDigit_digits
  have hcoefficient := d.ofDigitChars_digits
  have hpos := d.digits_length_pos
  have hexponent : d.magnitude - 1 - (d.digits.length - 1 : Nat) = d.exponent := by
    unfold Decimal.magnitude
    omega
  unfold Style.writeScientific
  generalize d.magnitude - 1 = leading at hexponent
  generalize d.digits = digits at hdigits hcoefficient hpos hexponent
  split
  case h_1 first second others =>
    obtain ⟨hfirst, hothers⟩ := List.forall_mem_cons.1 hdigits
    have hvalue : Decimal.ofDigits [first] (second :: others) leading = d := by
      rw [Decimal.ofDigits, List.singleton_append, hcoefficient]
      exact congrArg _ hexponent
    have htext : first :: '.' :: second :: others ++ 'e' ::
        (if leading < 0 then '-' else '+') :: Nat.toDigits 10 leading.natAbs ++ rest =
          [first] ++ '.' :: (second :: others ++ 'e' :: (if leading < 0 then '-' else '+') ::
            (Nat.toDigits 10 leading.natAbs ++ rest)) := by simp
    rw [htext, scanNumber_whole negative (by simpa using hfirst) (by simp) (by simp)
        (stopsAt_cons (by decide) _),
      scanAfterWhole_point negative hothers (by simp) (stopsAt_cons (by decide) _),
      scanAfterFraction_exponent negative leading hrest, hvalue]
  case h_2 hshort =>
    obtain ⟨first, rfl⟩ : ∃ c, digits = [c] := by
      obtain ⟨first, others, rfl⟩ := List.exists_cons_of_length_pos hpos
      cases others with
      | nil => exact ⟨first, rfl⟩
      | cons second rest => exact absurd rfl (hshort first second rest)
    have hvalue : Decimal.ofDigits [first] [] leading = d := by
      rw [Decimal.ofDigits, List.append_nil, hcoefficient]
      exact congrArg _ hexponent
    have htext : [first] ++ 'e' :: (if leading < 0 then '-' else '+') ::
        Nat.toDigits 10 leading.natAbs ++ rest =
          [first] ++ 'e' :: (if leading < 0 then '-' else '+') ::
            (Nat.toDigits 10 leading.natAbs ++ rest) := by simp
    rw [htext, scanNumber_whole negative hdigits (by simp) (by simp) (stopsAt_cons (by decide) _),
      scanAfterWhole_no_point negative (by simp),
      scanAfterFraction_exponent negative leading hrest, hvalue]

/-- A decimal is scanned with the value that it has, in whichever way it is written, unless it is
written as a whole number. -/
lemma scanNumber_write {style : Style} (hstyle : style.pointZero = true)
    (hd : d.coefficient = 0 → d.exponent = 0) (hrest : StopsAt isNumeral rest) :
    ∃ k : Nat, scanNumber negative (style.write d ++ rest) =
      (floatDraft negative ⟨d.coefficient * 10 ^ k, d.exponent - k⟩, some rest) := by
  have hsame : (⟨d.coefficient * 10 ^ 0, d.exponent - (0 : Nat)⟩ : Decimal) = d := by simp
  simp only [Style.write]
  split
  case isTrue =>
    simp only [Style.writePositional, hstyle]
    split
    case isTrue hwhole =>
      refine ⟨d.exponent.toNat + 1, ?_⟩
      rw [← scanNumber_zeros negative d hd hwhole hrest]
      simp
    case isFalse hwhole =>
      refine ⟨0, ?_⟩
      rw [hsame]
      split
      case isTrue hpoint => simpa using scanNumber_below_one negative d hpoint hrest
      case isFalse hpoint =>
        simpa using scanNumber_among negative d (by omega) (by omega) hrest
  case isFalse =>
    refine ⟨0, ?_⟩
    rw [hsame]
    exact scanNumber_scientific negative d (stopsAt_digit hrest)

end Decimals

/-! ## Number texts -/

/-- A text starts with a digit. -/
def StartsWithDigit (text : List Char) : Prop :=
  ∃ c rest, text = c :: rest ∧ c.isDigit = true

lemma startsWithDigit_append {text : List Char} (h : StartsWithDigit text) (rest : List Char) :
    StartsWithDigit (text ++ rest) := by
  obtain ⟨c, cs, rfl, hc⟩ := h
  exact ⟨c, cs ++ rest, rfl, hc⟩

lemma startsWithDigit_of_digits {digits : List Char} (h : ∀ c ∈ digits, c.isDigit = true)
    (hne : digits ≠ []) : StartsWithDigit digits := by
  obtain ⟨c, cs, rfl⟩ := List.exists_cons_of_ne_nil hne
  exact ⟨c, cs, rfl, h c List.mem_cons_self⟩

lemma startsWithDigit_write (style : Style) (d : Decimal) : StartsWithDigit (style.write d) := by
  have hdigits := startsWithDigit_of_digits (d.isDigit_digits) Nat.toDigits_ne_nil
  obtain ⟨first, others, hcons, hfirst⟩ := hdigits
  simp only [Style.write]
  split
  case isTrue =>
    simp only [Style.writePositional]
    split
    case isTrue => exact startsWithDigit_append (startsWithDigit_append ⟨_, _, hcons, hfirst⟩ _) _
    case isFalse =>
      split
      case isTrue => exact ⟨_, _, rfl, by decide⟩
      case isFalse hpoint =>
        obtain ⟨n, hn⟩ : ∃ n : Nat, (d.digits.length + d.exponent).toNat = n + 1 :=
          ⟨(d.digits.length + d.exponent).toNat - 1, by omega⟩
        rw [hn, hcons]
        exact ⟨_, _, rfl, hfirst⟩
  case isFalse =>
    rw [hcons]
    cases others <;> exact ⟨_, _, rfl, hfirst⟩

end SearchCriteria.Scanner

namespace SearchCriteria

open Numeric Text Scanner

namespace Numeric.Binary

/-- The decimal that a number is written as in JSON. -/
def jsonDecimal (f : Format) (m s : Nat) : Decimal :=
  if m = 0 then ⟨0, 0⟩ else shortest f (Style.json f).tie m s

/-- The draft of the JSON text of a number. -/
def jsonDraft {f : Format} : Binary f → Draft
  | finite negative m s _ => floatDraft negative (jsonDecimal f m s)
  | _ => .null

lemma writeNumber_finite {f : Format} (negative : Bool) (m s : Nat) (h : Canonical f m s) :
    Json.writeNumber (finite negative m s h) =
      (if negative then ['-'] else []) ++ (Style.json f).write (jsonDecimal f m s) := by
  simp [Json.writeNumber, toJsonText?, Style.writeFinite, jsonDecimal]

/-- The decimal of a number is scanned as the number nearest to it. -/
lemma scanNumber_jsonDecimal {f : Format} (negative : Bool) (m s : Nat) (h : Canonical f m s)
    {rest : List Char} (hrest : StopsAt isNumeral rest) :
    scanNumber negative ((Style.json f).write (jsonDecimal f m s) ++ rest) =
      (jsonDraft (finite negative m s h), some rest) := by
  have hzero : (jsonDecimal f m s).coefficient = 0 → (jsonDecimal f m s).exponent = 0 := by
    unfold jsonDecimal
    split
    case isTrue => exact fun _ => rfl
    case isFalse hm => exact fun hc => absurd hc (coefficient_shortest_ne_zero hm h _)
  have hstyle : (Style.json f).pointZero = true := by cases f <;> rfl
  obtain ⟨k, hscan⟩ := scanNumber_write negative (jsonDecimal f m s) hstyle hzero hrest
  rw [hscan, jsonDraft, floatDraft, floatDraft, Decimal.toBinary_scale]

/-- A finite 64-bit number is written so that it is scanned as itself. -/
theorem jsonDraft_double {x : Binary64} (hx : x.isFinite = true) : x.jsonDraft = .float x := by
  cases x with
  | nan => cases hx
  | infinity => cases hx
  | finite negative m s h =>
    have hread : (jsonDecimal .binary64 m s).toBinary .binary64 negative =
        .finite negative m s h := toBinary_written h _ negative
    simp only [jsonDraft, floatDraft, hread]
    rfl

end Numeric.Binary

end SearchCriteria
