/-
# Decimals and the numbers nearest to them

The binary number nearest to a decimal depends only on the value of the decimal, and not on how
many zeros its coefficient ends in.  The sign of the number is given apart, and changes nothing
else.
-/
import SearchCriteria.Numeric.Decimal
import SearchCriteria.Proofs.Numeric.Rounding
import SearchCriteria.Proofs.Text.Digits

namespace SearchCriteria.Numeric

namespace Binary

/-- Quotients of the same value round to the same number. -/
lemma ofUnits_congr (f : Format) (negative : Bool) {num den num' den' : Nat} (hden : 0 < den)
    (hden' : 0 < den') (h : num * den' = num' * den) :
    ofUnits f negative num den = ofUnits f negative num' den' := by
  rw [← ofUnits_mul_mul f negative num den hden', ← ofUnits_mul_mul f negative num' den' hden, h,
    Nat.mul_comm den]

/-- The number with another sign. -/
def withSign {f : Format} (negative : Bool) : Binary f → Binary f
  | nan => nan
  | infinity _ => infinity negative
  | finite _ m s h => finite negative m s h

variable (f : Format) (negative : Bool)

lemma ofParts_withSign (m s : Nat) :
    ofParts f negative m s = (ofParts f false m s).withSign negative := by
  unfold ofParts
  split <;> rfl

lemma ofUnits_withSign (num den : Nat) :
    ofUnits f negative num den = (ofUnits f false num den).withSign negative := by
  simp only [ofUnits]
  split <;> rw [ofParts_withSign]

end Binary

namespace Decimal

/-! ## Digits -/

lemma digits_length_pos (d : Decimal) : 0 < d.digits.length :=
  Nat.length_toDigits_pos

/-- A nonzero number has as many digits as the power of ten that it reaches tells. -/
lemma length_toDigits_eq_iff {n k : Nat} :
    (Nat.toDigits 10 n).length = k + 1 ↔ n < 10 ^ (k + 1) ∧ (0 < k → 10 ^ k ≤ n) := by
  have hpos : 0 < (Nat.toDigits 10 n).length := Nat.length_toDigits_pos
  have hle := Nat.length_toDigits_le_iff (n := n) (b := 10) (k := k + 1) (by decide)
    (Nat.succ_pos k)
  rw [← hle]
  by_cases hk : 0 < k
  · have hlow := Nat.length_toDigits_le_iff (n := n) (b := 10) (k := k) (by decide) hk
    have : 10 ^ k ≤ n ↔ ¬(Nat.toDigits 10 n).length ≤ k := by rw [hlow, Nat.not_lt]
    simp only [hk, forall_const, this]
    omega
  · simp only [hk, false_implies, and_true]
    omega

lemma length_toDigits_mul_pow {n : Nat} (hn : n ≠ 0) (k : Nat) :
    (Nat.toDigits 10 (n * 10 ^ k)).length = (Nat.toDigits 10 n).length + k := by
  obtain ⟨l, hl⟩ : ∃ l, (Nat.toDigits 10 n).length = l + 1 :=
    Nat.exists_eq_succ_of_ne_zero (Nat.ne_of_gt Nat.length_toDigits_pos)
  have hten : 0 < 10 ^ k := Nat.pow_pos (by decide)
  obtain ⟨hlt, hge⟩ := length_toDigits_eq_iff.1 hl
  rw [hl, Nat.add_right_comm, length_toDigits_eq_iff]
  constructor
  · rw [Nat.add_right_comm, Nat.pow_add]
    exact Nat.mul_lt_mul_of_pos_right hlt hten
  · intro _
    rw [Nat.pow_add]
    refine Nat.mul_le_mul_right _ ?_
    by_cases h : 0 < l
    · exact hge h
    · obtain rfl : l = 0 := by omega
      exact Nat.one_le_iff_ne_zero.2 hn

lemma isDigit_digits (d : Decimal) : ∀ c ∈ d.digits, c.isDigit = true :=
  Text.isDigit_toDigits d.coefficient

lemma ofDigitChars_digits (d : Decimal) : Nat.ofDigitChars 10 d.digits 0 = d.coefficient :=
  Nat.ofDigitChars_ten_toDigits

/-! ## Digits around a point

Wherever the point stands among the digits, the digits are read as the decimal. -/

/-- A whole number has zeros behind its digits, and any number of zeros behind the point. -/
lemma ofDigits_zeros (d : Decimal) (h : 0 ≤ d.exponent) (n : Nat) :
    ofDigits (d.digits ++ List.replicate d.exponent.toNat '0') (List.replicate n '0') 0 =
      ⟨d.coefficient * 10 ^ (d.exponent.toNat + n), d.exponent - (d.exponent.toNat + n : Nat)⟩ := by
  have hcoefficient : Nat.ofDigitChars 10
      (d.digits ++ List.replicate d.exponent.toNat '0' ++ List.replicate n '0') 0 =
        d.coefficient * 10 ^ (d.exponent.toNat + n) := by
    rw [List.append_assoc, List.replicate_append_replicate, Nat.ofDigitChars_append,
      ofDigitChars_digits, Nat.ofDigitChars_replicate_zero, Nat.mul_comm]
  have hexponent : (0 : Int) - (List.replicate n '0').length =
      d.exponent - (d.exponent.toNat + n : Nat) := by
    rw [List.length_replicate]
    omega
  rw [ofDigits, hcoefficient, hexponent]

/-- A number below one has a zero in front of the point, and zeros behind it. -/
lemma ofDigits_below_one (d : Decimal) (h : d.digits.length + d.exponent ≤ 0) :
    ofDigits ['0'] (List.replicate (-(d.digits.length + d.exponent)).toNat '0' ++ d.digits) 0 =
      d := by
  obtain ⟨n, hn⟩ : ∃ n, n = (-(d.digits.length + d.exponent)).toNat := ⟨_, rfl⟩
  have hcoefficient : Nat.ofDigitChars 10 (['0'] ++ (List.replicate n '0' ++ d.digits)) 0 =
      d.coefficient := by
    rw [← List.append_assoc, List.singleton_append, ← List.replicate_succ,
      Nat.ofDigitChars_append, Nat.ofDigitChars_replicate_zero, Nat.mul_zero, ofDigitChars_digits]
  have hexponent : (0 : Int) - (List.replicate n '0' ++ d.digits).length = d.exponent := by
    rw [List.length_append, List.length_replicate]
    omega
  rw [← hn, ofDigits, hcoefficient, hexponent]

/-- A number with a fraction has the point among its digits. -/
lemma ofDigits_among (d : Decimal) {point : Nat} (h : d.digits.length + d.exponent = point)
    (hle : d.exponent ≤ 0) : ofDigits (d.digits.take point) (d.digits.drop point) 0 = d := by
  have hcoefficient : Nat.ofDigitChars 10 (d.digits.take point ++ d.digits.drop point) 0 =
      d.coefficient := by
    rw [List.take_append_drop, ofDigitChars_digits]
  have hexponent : (0 : Int) - (d.digits.drop point).length = d.exponent := by
    rw [List.length_drop]
    omega
  rw [ofDigits, hcoefficient, hexponent]

/-! ## Values -/

/-- The number nearest to a decimal, as the rounded quotient of two natural numbers. -/
lemma toBinary_eq (f : Format) (negative : Bool) (d : Decimal) : d.toBinary f negative =
    if d.coefficient = 0 then .ofParts f negative 0 0
    else if reach < d.magnitude then .infinity negative
    else if d.magnitude < -reach then .ofParts f negative 0 0
    else .ofUnits f negative (d.coefficient * 10 ^ d.exponent.toNat * f.one)
      (10 ^ (-d.exponent).toNat) := by
  unfold toBinary
  split
  case isTrue => rfl
  case isFalse =>
    split
    case isTrue => rfl
    case isFalse =>
      split
      case isTrue => rfl
      case isFalse =>
        split
        case isTrue h =>
          have : (-d.exponent).toNat = 0 := by omega
          rw [this, Nat.pow_zero]
        case isFalse h =>
          have : d.exponent.toNat = 0 := by omega
          rw [this, Nat.pow_zero, Nat.mul_one]

/-- Zeros at the end of the coefficient change nothing. -/
lemma toBinary_scale (f : Format) (negative : Bool) (c k : Nat) (e : Int) :
    toBinary f negative ⟨c * 10 ^ k, e - k⟩ = toBinary f negative ⟨c, e⟩ := by
  have hten : ∀ n, 0 < 10 ^ n := fun n => Nat.pow_pos (by decide)
  by_cases hc : c = 0
  · subst hc
    simp [toBinary]
  · have hmagnitude : magnitude ⟨c * 10 ^ k, e - k⟩ = magnitude ⟨c, e⟩ := by
      simp only [magnitude, digits, length_toDigits_mul_pow hc]
      omega
    have hck : c * 10 ^ k ≠ 0 := Nat.mul_ne_zero hc (Nat.ne_of_gt (hten k))
    have hunits : ∀ u, Binary.ofUnits f negative (c * 10 ^ k * 10 ^ (e - k).toNat * u)
          (10 ^ (-(e - k)).toNat) =
        Binary.ofUnits f negative (c * 10 ^ e.toNat * u) (10 ^ (-e).toNat) := by
      intro u
      -- The two quotients have the same value, whichever sign the exponents have.
      refine Binary.ofUnits_congr f negative (hten _) (hten _) ?_
      have hexponent : k + (e - k).toNat + (-e).toNat = e.toNat + (-(e - k)).toNat := by omega
      calc c * 10 ^ k * 10 ^ (e - k).toNat * u * 10 ^ (-e).toNat
          = c * u * 10 ^ (k + (e - k).toNat + (-e).toNat) := by
            simp only [Nat.pow_add]
            ac_rfl
        _ = c * 10 ^ e.toNat * u * 10 ^ (-(e - k)).toNat := by
            rw [hexponent, Nat.pow_add]
            ac_rfl
    rw [toBinary_eq, toBinary_eq, hmagnitude]
    simp only [hc, hck, if_false, hunits]

/-- The sign is given apart. -/
lemma toBinary_withSign (f : Format) (negative : Bool) (d : Decimal) :
    d.toBinary f negative = (d.toBinary f false).withSign negative := by
  rw [toBinary_eq, toBinary_eq]
  split
  · exact Binary.ofParts_withSign f negative 0 0
  · split
    · rfl
    · split
      · exact Binary.ofParts_withSign f negative 0 0
      · exact Binary.ofUnits_withSign f negative _ _

/-! ## Trimming -/

lemma pow_zeros_dvd (d : Decimal) :
    10 ^ (d.digits.reverse.takeWhile (· == '0')).length ∣ d.coefficient := by
  obtain ⟨zeros, hzeros⟩ : ∃ zs, zs = d.digits.reverse.takeWhile (· == '0') := ⟨_, rfl⟩
  obtain ⟨others, hothers⟩ : ∃ os, os = d.digits.reverse.dropWhile (· == '0') := ⟨_, rfl⟩
  have hall : zeros = List.replicate zeros.length '0' := by
    refine List.eq_replicate_of_mem fun c hc => ?_
    rw [hzeros] at hc
    simpa using List.all_eq_true.1 List.all_takeWhile c hc
  -- Without the zeros, the digits are those of the quotient.
  have hdigits : d.digits = others.reverse ++ List.replicate zeros.length '0' := by
    have hsplit : d.digits.reverse = zeros ++ others := by
      rw [hzeros, hothers, List.takeWhile_append_dropWhile]
    rw [← List.reverse_reverse d.digits, hsplit, List.reverse_append, hall,
      List.reverse_replicate, List.length_replicate]
  have hcoefficient : d.coefficient = Nat.ofDigitChars 10 d.digits 0 :=
    Nat.ofDigitChars_ten_toDigits.symm
  rw [← hzeros, hcoefficient, hdigits, Nat.ofDigitChars_append, Nat.ofDigitChars_replicate_zero]
  exact Nat.dvd_mul_right _ _

lemma toBinary_trim (f : Format) (negative : Bool) (d : Decimal) :
    d.trim.toBinary f negative = d.toBinary f negative := by
  have hdvd := d.pow_zeros_dvd
  obtain ⟨c, e⟩ := d
  unfold trim
  generalize (digits ⟨c, e⟩).reverse.takeWhile (· == '0') = zeros at hdvd
  rw [← toBinary_scale f negative _ zeros.length, Nat.div_mul_cancel hdvd, Int.add_sub_cancel]

end Decimal

end SearchCriteria.Numeric
