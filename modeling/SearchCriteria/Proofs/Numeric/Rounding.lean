/-
# Rounding to binary formats

What rounding makes of a quotient depends only on its value, and a quotient that is a number of
the format rounds to that number.  So a number that is widened to another format, which has it
exactly, is found again when it is rounded back.  And nothing well below the greatest number of a
format becomes infinite.

Main statements: a 32-bit number that is widened to 64 bits converts back to itself, and a whole
number of 65 bits is rounded to a finite number of 64 bits.
-/
import Mathlib.Tactic.Lemma
import Mathlib.Tactic.SplitIfs
import SearchCriteria.Numeric.Binary

namespace SearchCriteria.Numeric

/-! ## Rounded quotients -/

/-- An exact quotient is not changed by rounding. -/
lemma divNearestEven_mul_right (n : Nat) {d : Nat} (hd : 0 < d) : divNearestEven (n * d) d = n := by
  simp [divNearestEven, Nat.mul_div_cancel _ hd, hd]

lemma divNearestEven_mul_mul (n d : Nat) {k : Nat} (hk : 0 < k) :
    divNearestEven (n * k) (d * k) = divNearestEven n d := by
  have hbelow : 2 * (n % d * k) < d * k ↔ 2 * (n % d) < d := by
    rw [← Nat.mul_assoc]
    exact Nat.mul_lt_mul_right hk
  have habove : d * k < 2 * (n % d * k) ↔ d < 2 * (n % d) := by
    rw [← Nat.mul_assoc]
    exact Nat.mul_lt_mul_right hk
  simp only [divNearestEven, Nat.mul_div_mul_right _ _ hk, Nat.mul_mod_mul_right, hbelow, habove]

/-- Rounding moves a quotient to one of its two neighbours. -/
lemma divNearestEven_mem (num den : Nat) :
    num / den ≤ divNearestEven num den ∧ divNearestEven num den ≤ num / den + 1 := by
  simp only [divNearestEven]
  split_ifs <;> omega

lemma Format.precision_pos (f : Format) : 0 < f.precision := by
  cases f <;> decide

namespace Binary

/-- The nearest number of a format only depends on the value of the quotient. -/
lemma ofUnits_mul_mul (f : Format) (negative : Bool) (num den : Nat) {k : Nat} (hk : 0 < k) :
    ofUnits f negative (num * k) (den * k) = ofUnits f negative num den := by
  have hscale : ∀ s, divNearestEven (num * k) (den * k * 2 ^ s) =
      divNearestEven num (den * 2 ^ s) := by
    intro s
    rw [Nat.mul_right_comm, divNearestEven_mul_mul _ _ hk]
  simp only [ofUnits, Nat.mul_div_mul_right _ _ hk, hscale]

/-! ## Exact numbers -/

/-- The shift that rounding chooses for a number of the format is the one that the number has. -/
lemma shift_of_canonical {f : Format} {m s : Nat} (h : Canonical f m s) :
    (m * 2 ^ s).log2 + 1 - f.precision = s := by
  have hp := f.precision_pos
  by_cases hm : m = 0
  · subst hm
    -- Zero is only canonical without a shift.
    obtain rfl | hnormal := h.normal
    · rw [Nat.zero_mul, Nat.log2_zero]
      omega
    · exact absurd hnormal (Nat.not_le.2 (Nat.two_pow_pos _))
  · have hlog : (m * 2 ^ s).log2 = m.log2 + s := by
      rw [Nat.log2_eq_iff (Nat.mul_ne_zero hm (Nat.ne_of_gt (Nat.two_pow_pos s)))]
      obtain ⟨hlow, hhigh⟩ := (Nat.log2_eq_iff hm).1 rfl
      rw [Nat.pow_add, Nat.add_right_comm, Nat.pow_add]
      exact ⟨Nat.mul_le_mul_right _ hlow, Nat.mul_lt_mul_of_pos_right hhigh (Nat.two_pow_pos s)⟩
    have hlt : m.log2 < f.precision := (Nat.log2_lt hm).2 h.mantissa_lt
    -- A mantissa with a shift has all the bits of the format.
    obtain rfl | hnormal := h.normal
    · omega
    · have hge : f.precision - 1 ≤ m.log2 := (Nat.le_log2 hm).2 hnormal
      omega

/-- A quotient that is a number of the format rounds to that number. -/
lemma ofUnits_of_canonical {f : Format} {m s : Nat} (h : Canonical f m s) (negative : Bool)
    {den : Nat} (hden : 0 < den) :
    ofUnits f negative (m * 2 ^ s * den) den = .finite negative m s h := by
  have hround : divNearestEven (m * 2 ^ s * den) (den * 2 ^ s) = m := by
    rw [Nat.mul_assoc, Nat.mul_comm (2 ^ s)]
    exact divNearestEven_mul_right m (Nat.mul_pos hden (Nat.two_pow_pos s))
  simp only [ofUnits, Nat.mul_div_cancel _ hden, shift_of_canonical h, hround]
  rw [if_pos h.mantissa_lt, ofParts, dif_pos h]

/-- A number of units that is short enough and not too large is a number of the format. -/
lemma exists_canonical (f : Format) {m k : Nat} (hm : m < 2 ^ f.precision)
    (hlarge : m * 2 ^ k < 2 ^ (f.precision + f.maxShift)) :
    ∃ m' s, Canonical f m' s ∧ m' * 2 ^ s = m * 2 ^ k := by
  by_cases hzero : m = 0
  · subst hzero
    exact ⟨0, 0, ⟨Nat.two_pow_pos _, Nat.zero_le _, .inl rfl⟩, by simp⟩
  have hne : m * 2 ^ k ≠ 0 := Nat.mul_ne_zero hzero (Nat.ne_of_gt (Nat.two_pow_pos k))
  -- The shift that rounding would choose divides the number.
  obtain ⟨s, hs⟩ : ∃ s, s = (m * 2 ^ k).log2 + 1 - f.precision := ⟨_, rfl⟩
  have hsk : s ≤ k := by
    have hlt : m * 2 ^ k < 2 ^ (f.precision + k) := by
      rw [Nat.pow_add]
      exact Nat.mul_lt_mul_of_pos_right hm (Nat.two_pow_pos k)
    have := (Nat.log2_lt hne).2 hlt
    omega
  have heq : m * 2 ^ (k - s) * 2 ^ s = m * 2 ^ k := by
    rw [Nat.mul_assoc, ← Nat.pow_add, Nat.sub_add_cancel hsk]
  refine ⟨m * 2 ^ (k - s), s, ⟨?_, ?_, ?_⟩, heq⟩
  · have hlog : (m * 2 ^ k).log2 < f.precision + s := by omega
    have hlt : m * 2 ^ (k - s) * 2 ^ s < 2 ^ f.precision * 2 ^ s := by
      rw [heq, ← Nat.pow_add]
      exact (Nat.log2_lt hne).1 hlog
    exact Nat.lt_of_mul_lt_mul_right hlt
  · have := (Nat.log2_lt hne).2 hlarge
    omega
  · by_cases hs0 : s = 0
    · exact .inl hs0
    · have hp := f.precision_pos
      have hlog : f.precision - 1 + s ≤ (m * 2 ^ k).log2 := by omega
      refine .inr (Nat.le_of_mul_le_mul_right ?_ (Nat.two_pow_pos s))
      rw [heq, ← Nat.pow_add]
      exact (Nat.le_log2 hne).1 hlog

/-! ## Finite numbers -/

lemma isFinite_ofParts {f : Format} (negative : Bool) {m s : Nat} (h : Canonical f m s) :
    (ofParts f negative m s).isFinite = true := by
  rw [ofParts, dif_pos h]
  rfl

/-- A quotient well below the greatest number of the format does not round to an infinity. -/
lemma isFinite_ofUnits {f : Format} (negative : Bool) {num den : Nat}
    (h : num / den < 2 ^ (f.precision + f.maxShift - 1)) :
    (ofUnits f negative num den).isFinite = true := by
  have hp := f.precision_pos
  have hM : 0 < f.maxShift := by cases f <;> decide
  obtain ⟨s, hs⟩ : ∃ s, s = (num / den).log2 + 1 - f.precision := ⟨_, rfl⟩
  obtain ⟨q, hq⟩ : ∃ q, q = num / (den * 2 ^ s) := ⟨_, rfl⟩
  obtain ⟨hlow, hhigh⟩ := divNearestEven_mem num (den * 2 ^ s)
  rw [← hq] at hlow hhigh
  have hquotient : q = num / den / 2 ^ s := by rw [hq, Nat.div_div_eq_div_mul]
  -- The shift leaves no more bits than fit, and one shift more is still one that the format has.
  have hfit : q < 2 ^ f.precision := by
    rw [hquotient, Nat.div_lt_iff_lt_mul (Nat.two_pow_pos s), ← Nat.pow_add]
    refine Nat.lt_of_lt_of_le Nat.lt_log2_self (Nat.pow_le_pow_right Nat.zero_lt_two ?_)
    omega
  have hshift : s + 1 ≤ f.maxShift := by
    by_cases hzero : num / den = 0
    · rw [hzero, Nat.log2_zero] at hs
      omega
    · have := (Nat.log2_lt hzero).2 h
      omega
  have hnormal : s = 0 ∨ 2 ^ (f.precision - 1) ≤ q := by
    by_cases hs0 : s = 0
    · exact .inl hs0
    · right
      have hne : num / den ≠ 0 := by
        intro hzero
        rw [hzero, Nat.log2_zero] at hs
        omega
      rw [hquotient, Nat.le_div_iff_mul_le (Nat.two_pow_pos s), ← Nat.pow_add]
      refine Nat.le_trans (Nat.pow_le_pow_right Nat.zero_lt_two ?_) (Nat.log2_self_le hne)
      omega
  simp only [ofUnits, ← hs]
  split_ifs with hcarry
  · refine isFinite_ofParts negative ⟨hcarry, by omega, ?_⟩
    exact hnormal.imp_right fun hge => Nat.le_trans hge hlow
  · -- Rounding has carried to the next power of two.
    have hpow : 2 ^ f.precision = 2 * 2 ^ (f.precision - 1) := by
      rw [← Nat.pow_succ', Nat.succ_eq_add_one, Nat.sub_add_cancel hp]
    refine isFinite_ofParts negative ⟨by omega, hshift, .inr (by omega)⟩

/-- A whole number of 65 bits is rounded to a finite number of 64 bits. -/
lemma isFinite_ofInt {n : Int} (h : n.natAbs < 2 ^ (65 : Nat)) :
    (ofInt .binary64 n).isFinite = true := by
  refine isFinite_ofUnits _ ?_
  rw [Nat.div_one, Format.one]
  have hmul : n.natAbs * 2 ^ Format.binary64.unitExponent <
      2 ^ (65 : Nat) * 2 ^ Format.binary64.unitExponent :=
    Nat.mul_lt_mul_of_pos_right h (Nat.two_pow_pos _)
  refine Nat.lt_of_lt_of_le hmul ?_
  rw [← Nat.pow_add]
  exact Nat.pow_le_pow_right Nat.zero_lt_two (by decide)

/-! ## Widening -/

/-- A 32-bit number is the same number of 64 bits. -/
lemma convert_single (negative : Bool) (m s : Nat) (h : Canonical .binary32 m s) :
    ∃ m' s' h', convert .binary64 (.finite negative m s h) = .finite negative m' s' h' ∧
      m' * 2 ^ s' = m * 2 ^ (s + 925) := by
  have hm : m < 2 ^ Format.binary64.precision :=
    Nat.lt_trans h.mantissa_lt (Nat.pow_lt_pow_right (by decide) (by decide))
  have hlarge : m * 2 ^ (s + 925) <
      2 ^ (Format.binary64.precision + Format.binary64.maxShift) := by
    have hshift : s + 925 ≤ Format.binary64.maxShift :=
      Nat.le_trans (Nat.add_le_add_right h.shift_le 925) (by decide)
    rw [Nat.pow_add 2 Format.binary64.precision]
    exact Nat.mul_lt_mul_of_lt_of_le hm (Nat.pow_le_pow_right Nat.zero_lt_two hshift)
      (Nat.two_pow_pos _)
  obtain ⟨m', s', h', heq⟩ := exists_canonical .binary64 hm hlarge
  refine ⟨m', s', h', ?_, heq⟩
  -- The unit of 64-bit numbers is finer by 925 places.
  have hunits : m * 2 ^ s * Format.binary64.one = m' * 2 ^ s' * Format.binary32.one := by
    rw [heq, Format.one, Format.one, Nat.mul_assoc, Nat.mul_assoc, ← Nat.pow_add, ← Nat.pow_add]
    rfl
  rw [convert, hunits]
  exact ofUnits_of_canonical h' negative (Nat.two_pow_pos _)

/-- A 32-bit number that is widened to 64 bits converts back to itself. -/
theorem convert_convert_single {x : Binary32} (hx : x.isFinite = true) :
    (x.convert .binary64).isFinite = true ∧
      (x.convert .binary64).convert .binary32 = x := by
  cases x with
  | nan => cases hx
  | infinity negative => cases hx
  | finite negative m s h =>
    obtain ⟨m', s', h', hwide, heq⟩ := convert_single negative m s h
    rw [hwide]
    refine ⟨rfl, ?_⟩
    have hunits : m' * 2 ^ s' * Format.binary32.one = m * 2 ^ s * Format.binary64.one := by
      rw [heq, Format.one, Format.one, Nat.mul_assoc, Nat.mul_assoc, ← Nat.pow_add,
        ← Nat.pow_add]
      rfl
    rw [convert, hunits]
    exact ofUnits_of_canonical h negative (Nat.two_pow_pos _)

end Binary

end SearchCriteria.Numeric
