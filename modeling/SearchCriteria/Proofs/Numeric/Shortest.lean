/-
# The shortest decimal reads back

Whatever decimal is chosen for a number rounds to the number.  A candidate is only taken if it
does, and where no candidate does the number is written out exactly.
-/
import SearchCriteria.Numeric.Shortest
import SearchCriteria.Proofs.Numeric.Decimal

namespace SearchCriteria.Numeric

/-- A neighbour on the grid is only taken if it reads as the number. -/
lemma Shortest.reads_of_onGrid {reads : Decimal → Bool} {tie : Tie} {num den : Nat}
    {exponent : Int} {d : Decimal} (h : onGrid reads tie num den exponent = some d) :
    reads d = true := by
  simp only [onGrid] at h
  split at h
  case h_1 hbelow habove =>
    obtain rfl := Option.some.inj h
    split
    · exact hbelow
    · exact habove
  case h_2 hbelow _ =>
    obtain rfl := Option.some.inj h
    exact hbelow
  case h_3 _ habove =>
    obtain rfl := Option.some.inj h
    exact habove
  case h_4 => cases h

namespace Binary

variable {f : Format} {m s : Nat}

/-- The numbers of either format lie below a power of ten within the reach. -/
lemma exists_pow_le (f : Format) :
    ∃ r ≤ 400, 2 ^ (f.precision + f.maxShift) ≤ 10 ^ r * 2 ^ f.unitExponent :=
  ⟨400, Nat.le_refl _, by cases f <;> decide +kernel⟩

/-- The unit of either format lies above a power of ten within the reach. -/
lemma pow_le_five_pow (f : Format) : 10 ^ (f.unitExponent - 401) ≤ 5 ^ f.unitExponent := by
  cases f <;> decide +kernel

/-- The exact decimal of a nonzero number of the format lies within the reach. -/
lemma exactDecimal_reach (hm : m ≠ 0) (h : Canonical f m s) {d : Decimal}
    (hd : d = ⟨m * 2 ^ s * 5 ^ f.unitExponent, -f.unitExponent⟩) :
    -Decimal.reach ≤ d.magnitude ∧ d.magnitude ≤ Decimal.reach := by
  obtain ⟨r, hr, hlarge⟩ := exists_pow_le f
  have hsmall := pow_le_five_pow f
  have hfive : 0 < 5 ^ f.unitExponent := Nat.pow_pos (by decide)
  have hunits : 1 ≤ m * 2 ^ s := Nat.mul_pos (Nat.pos_of_ne_zero hm) (Nat.two_pow_pos s)
  have hlt : m * 2 ^ s < 2 ^ (f.precision + f.maxShift) := by
    rw [Nat.pow_add]
    exact Nat.mul_lt_mul_of_lt_of_le h.mantissa_lt
      (Nat.pow_le_pow_right Nat.zero_lt_two h.shift_le) (Nat.two_pow_pos _)
  -- Every number lies below a power of ten, and the places behind the point add their own.
  have hupper : (Nat.toDigits 10 d.coefficient).length ≤ r + f.unitExponent := by
    have hpos : 0 < r + f.unitExponent := by cases f <;> exact Nat.succ_pos _
    refine (Nat.length_toDigits_le_iff (by decide) hpos).2 ?_
    calc d.coefficient = m * 2 ^ s * 5 ^ f.unitExponent := by rw [hd]
      _ < 2 ^ (f.precision + f.maxShift) * 5 ^ f.unitExponent :=
        Nat.mul_lt_mul_of_pos_right hlt hfive
      _ ≤ 10 ^ r * 2 ^ f.unitExponent * 5 ^ f.unitExponent := Nat.mul_le_mul_right _ hlarge
      _ = 10 ^ (r + f.unitExponent) := by
        rw [Nat.mul_assoc, ← Nat.mul_pow, Nat.pow_add]
  -- A coefficient with fewer digits would be less than that of one unit.
  have hlower : f.unitExponent ≤ (Nat.toDigits 10 d.coefficient).length + 400 := by
    refine Nat.not_lt.1 fun hshort => ?_
    have hpos : 0 < (Nat.toDigits 10 d.coefficient).length := Nat.length_toDigits_pos
    have hcoefficient : d.coefficient < 10 ^ (f.unitExponent - 401) :=
      (Nat.length_toDigits_le_iff (by decide) (by omega)).1 (by omega)
    have hge : 5 ^ f.unitExponent ≤ d.coefficient := by
      rw [hd]
      exact Nat.le_mul_of_pos_left _ hunits
    omega
  have hexponent : d.exponent = -f.unitExponent := by rw [hd]
  simp only [Decimal.magnitude, Decimal.digits, Decimal.reach, hexponent]
  omega

/-- The exact decimal of a number reads as the number. -/
lemma toBinary_exactDecimal (hm : m ≠ 0) (h : Canonical f m s) :
    (exactDecimal f (m * 2 ^ s)).toBinary f false = .finite false m s h := by
  obtain ⟨hlow, hhigh⟩ := exactDecimal_reach hm h rfl
  have hne : m * 2 ^ s * 5 ^ f.unitExponent ≠ 0 :=
    Nat.mul_ne_zero (Nat.mul_ne_zero hm (Nat.ne_of_gt (Nat.two_pow_pos s)))
      (Nat.ne_of_gt (Nat.pow_pos (by decide)))
  rw [exactDecimal, Decimal.toBinary_trim, Decimal.toBinary_eq, if_neg hne,
    if_neg (Int.not_lt.2 hhigh), if_neg (Int.not_lt.2 hlow)]
  -- The quotient is a whole number of units, which rounding does not change.
  have hexact : ofUnits f false
      (m * 2 ^ s * 5 ^ f.unitExponent * 10 ^ (-(f.unitExponent : Int)).toNat * f.one)
        (10 ^ (- -(f.unitExponent : Int)).toNat) = ofUnits f false (m * 2 ^ s * 1) 1 := by
    have hzero : (-(f.unitExponent : Int)).toNat = 0 := by omega
    have hten : (- -(f.unitExponent : Int)).toNat = f.unitExponent := by omega
    refine ofUnits_congr f false (Nat.pow_pos (by decide)) (by decide) ?_
    rw [hzero, hten, Nat.pow_zero, Nat.mul_one, Nat.mul_one, Nat.mul_one, Nat.mul_assoc,
      Format.one, ← Nat.mul_pow]
  rw [hexact, ofUnits_of_canonical h false (by decide)]

/-- The shortest decimal of a number reads as the number. -/
theorem toBinary_shortest (hm : m ≠ 0) (h : Canonical f m s) (tie : Tie) (negative : Bool) :
    (shortest f tie m s).toBinary f negative = .finite negative m s h := by
  have hpositive : (shortest f tie m s).toBinary f false = .finite false m s h := by
    have hparts : ofParts f false m s = .finite false m s h := dif_pos h
    unfold shortest
    cases hfind : (List.range maxDigits).findSome? fun n : Nat =>
        Shortest.onGrid (fun d : Decimal => decide (d.toBinary f false = ofParts f false m s)) tie
          (m * 2 ^ s) f.one (Shortest.magnitude (m * 2 ^ s) f.one - (n + 1)) with
    | none =>
      -- No candidate reads as the number, so it is written out.
      simp only [hfind, Option.getD_none]
      exact toBinary_exactDecimal hm h
    | some d =>
      simp only [hfind, Option.getD_some]
      obtain ⟨n, -, hgrid⟩ := List.exists_of_findSome?_eq_some hfind
      rw [← hparts]
      exact of_decide_eq_true (Shortest.reads_of_onGrid hgrid)
  rw [Decimal.toBinary_withSign, hpositive, withSign]

/-- Zero, which has no shortest decimal, is written as the decimal zero; whatever is written reads
as the number. -/
lemma toBinary_written (h : Canonical f m s) (tie : Tie) (negative : Bool) :
    (if m = 0 then ⟨0, 0⟩ else shortest f tie m s : Decimal).toBinary f negative =
      .finite negative m s h := by
  by_cases hm : m = 0
  · subst hm
    obtain rfl : s = 0 := by
      obtain hs | hnormal := h.normal
      · exact hs
      · exact absurd hnormal (Nat.not_le.2 (Nat.two_pow_pos _))
    rw [if_pos rfl, Decimal.toBinary_eq, if_pos rfl, ofParts, dif_pos h]
  · rw [if_neg hm, toBinary_shortest hm h]

lemma coefficient_shortest_ne_zero (hm : m ≠ 0) (h : Canonical f m s) (tie : Tie) :
    (shortest f tie m s).coefficient ≠ 0 := by
  intro hzero
  have hread := toBinary_shortest hm h tie false
  rw [Decimal.toBinary_eq, if_pos hzero, ofParts] at hread
  split at hread
  · injection hread with _ hmantissa
    exact hm hmantissa.symm
  · cases hread

end Binary

end SearchCriteria.Numeric
