/-
# The texts of distances

An amount of a unit is written as a whole number with the abbreviation of the unit behind it.  The
number is the integer part of the amount, as long as this is a signed integer of 64 bits; the
greatest of these stands for whatever is beyond.

* `Distance.wholeNumber`: the number that is written for an amount;
* `Distance.IsText`: the texts that consist of a number and a unit;
* `toText_eq_iff`: which amounts of a unit have the same text;
* `filterLeaf_distanceText`: the distance in a compiled clause.
-/
import SearchCriteria.Proofs.Compile.Places
import SearchCriteria.Proofs.Numeric.Rounding
import SearchCriteria.Proofs.Text.Digits

namespace SearchCriteria

open Numeric Text

namespace Distance

/-- The whole number that is written for an amount: its integer part, or the greatest signed integer
of 64 bits if this is less. -/
def wholeNumber (amount : ℚ) : ℕ :=
  min ⌊amount⌋₊ (2 ^ 63 - 1)

/-- The text consists of the digits of a number and the abbreviation of a unit. -/
def IsText (unit : DistanceUnit) (n : ℕ) (text : String) : Prop :=
  ∃ digits, text.toList = digits ++ unit.abbreviation.toList ∧ IsDecimal digits n

lemma IsText.unique {unit : DistanceUnit} {n m : ℕ} {text : String} (hn : IsText unit n text)
    (hm : IsText unit m text) : n = m := by
  obtain ⟨digits, htext, hdigits⟩ := hn
  obtain ⟨digits', htext', hdigits'⟩ := hm
  have hsame : digits = digits' := List.append_cancel_right (htext.symm.trans htext')
  rw [← hdigits.value, ← hdigits'.value, hsame]

/-! ## Numbers for amounts -/

section Amounts

variable {q q' : ℚ}

lemma wholeNumber_mono (h : q ≤ q') : wholeNumber q ≤ wholeNumber q' :=
  min_le_min_right _ (Nat.floor_mono h)

lemma wholeNumber_le (hq : 0 ≤ q) : (wholeNumber q : ℚ) ≤ q :=
  calc (wholeNumber q : ℚ) ≤ ⌊q⌋₊ := by exact_mod_cast min_le_left _ _
    _ ≤ q := Nat.floor_le hq

lemma wholeNumber_of_lt (h : q < 2 ^ 63) : wholeNumber q = ⌊q⌋₊ := by
  have hfloor : ⌊q⌋₊ < 2 ^ 63 := (Nat.floor_lt' (by decide)).2 (by exact_mod_cast h)
  exact min_eq_left (by omega)

lemma wholeNumber_of_le (h : 2 ^ 63 - 1 ≤ q) : wholeNumber q = 2 ^ 63 - 1 :=
  min_eq_right (Nat.le_floor (by exact_mod_cast h))

/-- The number is the integer part just for the amounts below the integers that need more than 64
bits. -/
lemma lt_wholeNumber_add_one_iff : q < wholeNumber q + 1 ↔ q < 2 ^ 63 := by
  constructor
  · intro h
    have hle : wholeNumber q + 1 ≤ 2 ^ 63 := by
      have hmin : wholeNumber q ≤ 2 ^ 63 - 1 := min_le_right _ _
      omega
    exact h.trans_le (by exact_mod_cast hle)
  · intro h
    rw [wholeNumber_of_lt h]
    exact Nat.lt_floor_add_one q

/-- The same number is written for amounts that have the same integer part, and for all that are not
below the greatest integer of 64 bits. -/
lemma wholeNumber_eq_iff (hq : 0 ≤ q) (hq' : 0 ≤ q') : wholeNumber q = wholeNumber q' ↔
    ⌊q⌋₊ = ⌊q'⌋₊ ∨ 2 ^ 63 - 1 ≤ q ∧ 2 ^ 63 - 1 ≤ q' := by
  have hbeyond : ∀ r : ℚ, 0 ≤ r → (2 ^ 63 - 1 ≤ r ↔ 2 ^ 63 - 1 ≤ ⌊r⌋₊) := by
    intro r hr
    rw [Nat.le_floor_iff hr]
    norm_num
  rw [hbeyond q hq, hbeyond q' hq', wholeNumber, wholeNumber]
  omega

end Amounts

/-! ## Texts of amounts -/

section Texts

variable {d d' : Distance} {q q' : ℚ} (hvalue : d.value.toRat? = some q) (hq : 0 ≤ q)

include hvalue hq

lemma toText_eq : d.toText = (wholeNumber q).repr ++ d.unit.abbreviation := by
  rw [toText, Binary.toInt_truncate hvalue hq]
  rfl

lemma isText_toText : IsText d.unit (wholeNumber q) d.toText := by
  refine ⟨Nat.toDigits 10 (wholeNumber q), ?_, isDecimal_toDigits _⟩
  rw [toText_eq hvalue hq, String.toList_append, Nat.toList_repr]

/-- Two amounts of a unit have the same text if and only if the same number is written for them. -/
theorem toText_eq_iff (hunit : d'.unit = d.unit) (hvalue' : d'.value.toRat? = some q')
    (hq' : 0 ≤ q') : d.toText = d'.toText ↔
      ⌊q⌋₊ = ⌊q'⌋₊ ∨ 2 ^ 63 - 1 ≤ q ∧ 2 ^ 63 - 1 ≤ q' := by
  rw [← wholeNumber_eq_iff hq hq']
  constructor
  · intro h
    have htext' := isText_toText hvalue' hq'
    rw [← h, hunit] at htext'
    exact (isText_toText hvalue hq).unique htext'
  · intro h
    rw [toText_eq hvalue hq, toText_eq hvalue' hq', hunit, h]

end Texts

end Distance

namespace Compile

open Distance

/-- An amount that is finite and not negative is written in the clause of an entry as a whole number
with its unit.  The number is not above the amount, and less than one below it if and only if the
amount is below the integers that need more than 64 bits.  Greater amounts of a unit have no smaller
numbers.  Two of them have the same text if and only if they have the same integer part, or neither
is below the greatest integer of 64 bits. -/
theorem filterLeaf_distanceText (config : Config) (field : Field) {center : Value} {l : Location}
    {d : Distance} {q : ℚ} (hcenter : center.Locates l) (hvalue : d.value.toRat? = some q)
    (hq : 0 ≤ q) :
    filterLeaf config field (.of .within (.list [center, .distance d])) =
        .ok (.leaf (.geoDistance ⟨field.name, d.toText, config.geoDistanceType, l⟩)) ∧
      IsText d.unit (wholeNumber q) d.toText ∧ (wholeNumber q : ℚ) ≤ q ∧
      (q < wholeNumber q + 1 ↔ q < 2 ^ 63) ∧
      ∀ (d' : Distance) (q' : ℚ), d'.unit = d.unit → d'.value.toRat? = some q' → 0 ≤ q' →
        (q ≤ q' → wholeNumber q ≤ wholeNumber q') ∧
        (d.toText = d'.toText ↔ ⌊q⌋₊ = ⌊q'⌋₊ ∨ 2 ^ 63 - 1 ≤ q ∧ 2 ^ 63 - 1 ≤ q') := by
  refine ⟨?_, isText_toText hvalue hq, wholeNumber_le hq, lt_wholeNumber_add_one_iff, ?_⟩
  · exact filterLeaf_eq_ok_iff.2 ⟨_, .within hcenter (.distance ⟨q, hvalue, hq⟩), rfl⟩
  · intro d' q' hunit hvalue' hq'
    exact ⟨wholeNumber_mono, toText_eq_iff hvalue hq hunit hvalue' hq'⟩

/-! ## Amounts just below an integer and beyond the integers -/

lemma cast_one_binary64 : (Format.one .binary64 : ℚ) = 2 ^ (49 + 1025) := by
  rw [Format.one, Nat.cast_pow]
  rfl

/-- The greatest number of the format that is below 13. -/
def belowThirteen : Binary64 :=
  .finite false (13 * 2 ^ 49 - 1) 1025 ⟨by decide, by decide, .inr (by decide)⟩

/-- Twelve kilometres are written for an amount however little below thirteen. -/
theorem filterLeaf_belowThirteen :
    belowThirteen.toRat? = some (13 - 1 / 2 ^ 49) ∧
      filterLeaf {} (.named "place")
          (.of .within (.list [.text "u0qvy", .distance ⟨belowThirteen, .kilometers⟩])) =
        .ok (.leaf (.geoDistance ⟨"place", "12km", .plane, .geohash "u0qvy"⟩)) ∧
      (12 : ℚ) ≤ 13 - 1 / 2 ^ 49 ∧ (13 - 1 / 2 ^ 49 : ℚ) < 12 + 1 := by
  have hvalue : belowThirteen.toRat? = some (13 - 1 / 2 ^ 49) := by
    refine Binary.toRat?_of_units ?_
    rw [cast_one_binary64, pow_add 2 49 1025, ← mul_assoc]
    norm_num
  have hq : (0 : ℚ) ≤ 13 - 1 / 2 ^ 49 := by norm_num
  have hnumber : wholeNumber (13 - 1 / 2 ^ 49) = 12 := by
    have hfloor : ⌊(13 - 1 / 2 ^ 49 : ℚ)⌋₊ = 12 := by
      rw [Nat.floor_eq_iff hq]
      norm_num
    rw [wholeNumber, hfloor]
    rfl
  have htext : Distance.toText ⟨belowThirteen, .kilometers⟩ = "12km" := by decide +kernel
  have hcenter : (Value.text "u0qvy").Locates (.geohash "u0qvy") := .text rfl
  obtain ⟨hclause, -, hle, hlt, -⟩ := filterLeaf_distanceText {} (.named "place") hcenter
    (d := ⟨belowThirteen, .kilometers⟩) hvalue hq
  rw [htext] at hclause
  rw [hnumber] at hle hlt
  exact ⟨hvalue, hclause, by exact_mod_cast hle, by exact_mod_cast hlt.2 (by norm_num)⟩

lemma toRat?_two_pow (k : ℕ) (hk : k ≤ 1023) :
    (Binary.ofInt .binary64 (2 ^ k)).toRat? = some (2 ^ k) := by
  have hreach : 1 * 2 ^ (k + 1074) <
      2 ^ (Format.precision .binary64 + Format.maxShift .binary64) := by
    rw [Nat.one_mul]
    exact Nat.pow_lt_pow_right (by decide) (by simp only [Format.precision, Format.maxShift]; omega)
  obtain ⟨m, s, hcanonical, hunits⟩ := Binary.exists_canonical .binary64 (by decide) hreach
  have hint : Binary.ofInt .binary64 (2 ^ k) = .finite false m s hcanonical := by
    rw [← Binary.ofUnits_of_canonical hcanonical false Nat.one_pos, hunits, Binary.ofInt]
    have hpos : ¬(2 ^ k : Int) < 0 := not_lt.2 (by positivity)
    have habs : (2 ^ k : Int).natAbs = 2 ^ k := Int.natAbs_pow 2 k
    simp only [hpos, decide_false, habs, Format.one, Format.unitExponent, ← Nat.pow_add,
      Nat.one_mul, Nat.mul_one]
  rw [hint]
  refine Binary.toRat?_of_units ?_
  rw [cast_one_binary64, ← pow_add]
  exact_mod_cast hunits.trans (Nat.one_mul _)

/-- Every amount that is not below the greatest integer of 64 bits is written as this integer. -/
lemma filterLeaf_of_le {amount : Binary64} {q : ℚ} (hvalue : amount.toRat? = some q)
    (hbeyond : 2 ^ 63 - 1 ≤ q) :
    filterLeaf {} (.named "place")
        (.of .within (.list [.text "u0qvy", .distance ⟨amount, .kilometers⟩])) =
      .ok (.leaf (.geoDistance ⟨"place", "9223372036854775807km", .plane, .geohash "u0qvy"⟩)) := by
  let d : Distance := ⟨amount, .kilometers⟩
  have hq : 0 ≤ q := le_trans (by norm_num) hbeyond
  have htext : d.toText = "9223372036854775807km" := by
    rw [toText_eq (d := d) hvalue hq, wholeNumber_of_le hbeyond]
    rfl
  have hdistance : (Value.distance d).Measures "9223372036854775807km" := by
    rw [← htext]
    exact .distance ⟨q, hvalue, hq⟩
  exact filterLeaf_eq_ok_iff.2 ⟨_, .within (.text rfl) hdistance, rfl⟩

/-- An amount that needs more than 64 bits is written as the greatest integer of 64 bits.  This is
not its integer part, and it is written for twice the amount as well. -/
theorem filterLeaf_beyondIntegers :
    let place (amount : Int) := filterLeaf {} (.named "place") (.of .within
      (.list [.text "u0qvy", .distance ⟨.ofInt .binary64 amount, .kilometers⟩]))
    let clause : Query :=
      .leaf (.geoDistance ⟨"place", "9223372036854775807km", .plane, .geohash "u0qvy"⟩)
    (Binary.ofInt .binary64 (2 ^ 63)).toRat? = some (2 ^ 63) ∧ place (2 ^ 63) = .ok clause ∧
      (¬∃ n : ℕ, IsText .kilometers n "9223372036854775807km" ∧ (n : ℚ) ≤ 2 ^ 63 ∧
        (2 ^ 63 : ℚ) < n + 1) ∧
      (Binary.ofInt .binary64 (2 ^ 64)).toRat? = some (2 ^ 64) ∧ place (2 ^ 64) = .ok clause := by
  intro place clause
  have hshown : IsText .kilometers (2 ^ 63 - 1) "9223372036854775807km" :=
    ⟨Nat.toDigits 10 (2 ^ 63 - 1), by decide, isDecimal_toDigits _⟩
  have hone := toRat?_two_pow 63 (by decide)
  have htwo := toRat?_two_pow 64 (by decide)
  refine ⟨hone, filterLeaf_of_le hone (by norm_num), ?_, htwo, filterLeaf_of_le htwo (by norm_num)⟩
  rintro ⟨n, hn, -, hlt⟩
  rw [hn.unique hshown] at hlt
  norm_num at hlt

end Compile

end SearchCriteria
