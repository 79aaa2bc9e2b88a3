/-
# The rational numbers that binary numbers are

A finite number is a rational number, and comparing numbers compares these.  Neither an infinity nor
not-a-number lies between two bounds.

* `isBetween_iff`: a number lies between two integers if and only if it is a rational number that
  does;
* `lt_iff`: a finite number is less than another one if and only if the rational number is;
* `toInt_truncate`: the integer part of a number, within the integers of 64 bits.
-/
import Mathlib.Algebra.Order.Field.Rat
import Mathlib.Algebra.Order.Floor.Semifield
import Mathlib.Data.Rat.Cast.Order
import Mathlib.Data.Rat.Floor
import SearchCriteria.Numeric.Binary

namespace SearchCriteria.Numeric

namespace Format

variable (f : Format)

lemma cast_one_pos : (0 : ℚ) < f.one := by
  have hone : 0 < f.one := Nat.two_pow_pos _
  exact_mod_cast hone

/-- Both formats reach far beyond the integers that numbers are compared with. -/
lemma mul_one_le_beyond : 2 ^ 128 * f.one ≤ 2 ^ (f.precision + f.maxShift) := by
  rw [one, ← Nat.pow_add]
  refine Nat.pow_le_pow_right Nat.two_pos ?_
  cases f <;> decide

end Format

namespace Binary

variable {f : Format} {x y : Binary f}

/-- The rational number that a finite number is. -/
def toRat? : Binary f → Option ℚ
  | .nan => none
  | .infinity _ => none
  | .finite negative mantissa shift _ =>
    let units : ℚ := mantissa * 2 ^ shift
    some ((if negative then -units else units) / f.one)

lemma toRat?_zero (negative : Bool) (h : Canonical f 0 0) :
    (finite negative 0 0 h).toRat? = some 0 := by
  cases negative <;> simp [toRat?]

/-- A number of units is the rational number that makes as many units. -/
lemma toRat?_of_units {m s : ℕ} {h : Canonical f m s} {q : ℚ} (hq : (m : ℚ) * 2 ^ s = q * f.one) :
    (finite false m s h).toRat? = some q := by
  have hone := f.cast_one_pos.ne'
  simp only [toRat?, Bool.false_eq_true, if_false, hq, mul_div_cancel_right₀ q hone]

/-- A finite number is a rational number, and its place on the number line is in units. -/
lemma exists_position_of_toRat? {q : ℚ} (h : x.toRat? = some q) :
    ∃ p : ℤ, x.position? = some p ∧ q = p / f.one := by
  cases x with
  | finite negative m s hcanonical =>
    refine ⟨_, rfl, ?_⟩
    rw [← Option.some.inj h]
    cases negative <;> simp
  | _ => cases h

/-- A number that lies within the reach of its format is a rational number. -/
lemma exists_toRat?_of_position {p : ℤ} (h : x.position? = some p)
    (hlower : -2 ^ (f.precision + f.maxShift) < p) (hupper : p < 2 ^ (f.precision + f.maxShift)) :
    x.toRat? = some ((p : ℚ) / f.one) := by
  cases x with
  | nan => cases h
  | infinity negative =>
    obtain rfl := Option.some.inj h
    cases negative
    · exact absurd hupper (lt_irrefl _)
    · exact absurd hlower (lt_irrefl _)
  | finite negative m s hcanonical =>
    obtain rfl := Option.some.inj h
    cases negative <;> simp [toRat?]

/-- A number lies between two integers if and only if it is a rational number that does. -/
theorem isBetween_iff {lower upper : ℤ} (hlower : -2 ^ 128 < lower) (hupper : upper < 2 ^ 128) :
    x.isBetween lower upper = true ↔
      ∃ q, x.toRat? = some q ∧ (lower : ℚ) ≤ q ∧ q ≤ (upper : ℚ) := by
  have hone := f.cast_one_pos
  have hscaled : ∀ p : ℤ, (lower * f.one ≤ p ∧ p ≤ upper * f.one) ↔
      (lower : ℚ) ≤ p / f.one ∧ (p : ℚ) / f.one ≤ upper := by
    intro p
    rw [le_div_iff₀ hone, div_le_iff₀ hone]
    norm_cast
  constructor
  · intro h
    unfold isBetween at h
    split at h
    case h_2 => cases h
    case h_1 p hp =>
      simp only [Bool.and_eq_true, decide_eq_true_eq] at h
      have hbeyond : (2 : ℤ) ^ 128 * f.one ≤ 2 ^ (f.precision + f.maxShift) := by
        exact_mod_cast f.mul_one_le_beyond
      have hpos : (0 : ℤ) < f.one := by exact_mod_cast Nat.two_pow_pos f.unitExponent
      -- Infinities lie beyond the bounds.
      refine ⟨_, exists_toRat?_of_position hp ?_ ?_, (hscaled p).1 h⟩
      · calc -2 ^ (f.precision + f.maxShift) ≤ -2 ^ 128 * (f.one : ℤ) := by
              rw [neg_mul]
              exact neg_le_neg hbeyond
          _ < lower * f.one := mul_lt_mul_of_pos_right hlower hpos
          _ ≤ p := h.1
      · calc p ≤ upper * f.one := h.2
          _ < 2 ^ 128 * (f.one : ℤ) := mul_lt_mul_of_pos_right hupper hpos
          _ ≤ 2 ^ (f.precision + f.maxShift) := hbeyond
  · rintro ⟨q, hq, hbounds⟩
    obtain ⟨p, hp, rfl⟩ := exists_position_of_toRat? hq
    simp only [isBetween, hp, Bool.and_eq_true, decide_eq_true_eq]
    exact (hscaled p).2 hbounds

/-- A number lies within a limit either way if and only if it is a rational number that does. -/
lemma isBetween_neg_iff {limit : ℤ} (h : limit < 2 ^ 128) :
    x.isBetween (-limit) limit = true ↔
      ∃ q, x.toRat? = some q ∧ -(limit : ℚ) ≤ q ∧ q ≤ (limit : ℚ) := by
  simpa using isBetween_iff (neg_lt_neg h) h

/-- Comparing finite numbers compares the rational numbers that they are. -/
theorem lt_iff {a b : ℚ} (hx : x.toRat? = some a) (hy : y.toRat? = some b) :
    x.lt y = true ↔ a < b := by
  obtain ⟨p, hp, rfl⟩ := exists_position_of_toRat? hx
  obtain ⟨q, hq, rfl⟩ := exists_position_of_toRat? hy
  rw [div_lt_div_iff_of_pos_right f.cast_one_pos]
  simp [lt, hp, hq]

lemma lt_eq_false_iff {a b : ℚ} (hx : x.toRat? = some a) (hy : y.toRat? = some b) :
    x.lt y = false ↔ b ≤ a := by
  rw [← Bool.not_eq_true, lt_iff hx hy, not_lt]

/-- Exactly the finite numbers are rational numbers. -/
lemma isFinite_iff : x.isFinite = true ↔ ∃ q, x.toRat? = some q := by
  cases x with
  | finite negative m s hcanonical => exact iff_of_true rfl ⟨_, rfl⟩
  | _ => exact iff_of_false nofun nofun

/-! ## Integer parts -/

/-- An integer that is forced into the range of 64 bits is the less of itself and the greatest of
them, if it is not negative. -/
lemma toInt_ofInt_clamp (n : Nat) :
    (Int64.ofInt (max Int64.minValue.toInt (min Int64.maxValue.toInt n))).toInt =
      (min n (2 ^ 63 - 1) : Nat) := by
  have hclamp : max Int64.minValue.toInt (min Int64.maxValue.toInt n) =
      ((min n (2 ^ 63 - 1) : Nat) : Int) := by
    rw [Int64.toInt_minValue, Int64.toInt_maxValue]
    omega
  rw [hclamp, Int64.toInt_ofInt_of_le] <;> omega

/-- The integer part of a number that is not negative is that of the rational number, unless this is
beyond the integers of 64 bits. -/
theorem toInt_truncate {q : ℚ} (h : x.toRat? = some q) (hq : 0 ≤ q) :
    x.truncate.toInt = (min ⌊q⌋₊ (2 ^ 63 - 1) : ℕ) := by
  cases x with
  | nan => cases h
  | infinity negative => cases h
  | finite negative m s hcanonical =>
    have hone := f.cast_one_pos
    obtain rfl := Option.some.inj h
    have hfloor : ⌊((m * 2 ^ s : ℕ) : ℚ) / f.one⌋₊ = m * 2 ^ s / f.one := Nat.floor_div_eq_div _ _
    cases negative with
    | false =>
      push_cast at hfloor
      simp only [truncate, Bool.false_eq_true, if_false, hfloor]
      exact toInt_ofInt_clamp _
    | true =>
      -- Only zero is not negative here.
      have hzero : m = 0 := by
        by_contra hm
        have hpos : (0 : ℚ) < m * 2 ^ s := by positivity
        simp only [if_true] at hq
        exact absurd hq (not_le.2 (div_neg_of_neg_of_pos (neg_neg_of_pos hpos) hone))
      subst hzero
      simpa [truncate] using toInt_ofInt_clamp 0

end Binary

end SearchCriteria.Numeric
