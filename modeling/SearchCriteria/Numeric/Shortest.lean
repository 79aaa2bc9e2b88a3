/-
# The shortest decimal that reads back

A finite number is written with the fewest decimal digits that round to it again, and among
those with the digits nearest to it.  For one digit, two digits and so on, the number's two
neighbours on that decimal grid are tried by reading them back; the first grid on which one
reads back gives the digits.
-/
import SearchCriteria.Numeric.Decimal

namespace SearchCriteria.Numeric

/-- What is written when the number lies halfway between two candidates. -/
inductive Tie where
  /-- The larger candidate. -/
  | up
  /-- The candidate with an even last digit. -/
  | even
deriving DecidableEq, Repr

namespace Shortest

/-- The least `k` with `num / den < 10 ^ k`, for nonzero arguments. -/
def magnitude (num den : Nat) : Int :=
  if den ≤ num then (Nat.toDigits 10 (num / den)).length
  else
    let inverse := (den + num - 1) / num
    1 - ((Nat.toDigits 10 (inverse - 1)).length : Int)

/-- The quotient of `num / den` by `10 ^ exponent`, as a numerator and a denominator. -/
def scaled (num den : Nat) (exponent : Int) : Nat × Nat :=
  if 0 ≤ exponent then (num, den * 10 ^ exponent.toNat)
  else (num * 10 ^ (-exponent).toNat, den)

/-- The neighbour of `num / den` among the multiples of `10 ^ exponent` that satisfies
`reads`; if both do, the nearer one. -/
def onGrid (reads : Decimal → Bool) (tie : Tie) (num den : Nat) (exponent : Int) :
    Option Decimal :=
  let (n, d) := scaled num den exponent
  let below : Decimal := .trim ⟨n / d, exponent⟩
  let above : Decimal := .trim ⟨n / d + 1, exponent⟩
  let rest := n % d
  let takeBelow := 2 * rest < d || (2 * rest == d && tie = .even && n / d % 2 == 0)
  match reads below, reads above with
  | true, true => some (if takeBelow then below else above)
  | true, false => some below
  | false, true => some above
  | false, false => none

end Shortest

/-- No number of either format needs more decimal digits than this to read back. -/
def maxDigits : Nat := 17

namespace Binary

variable {f : Format}

/-- The number of `units` units as a decimal, without rounding. -/
def exactDecimal (f : Format) (units : Nat) : Decimal :=
  .trim ⟨units * 5 ^ f.unitExponent, -f.unitExponent⟩

/-- The shortest decimal that rounds to the number with this mantissa and shift. -/
def shortest (f : Format) (tie : Tie) (mantissa shift : Nat) : Decimal :=
  let units := mantissa * 2 ^ shift
  let magnitude := Shortest.magnitude units f.one
  let reads := fun d : Decimal => decide (d.toBinary f false = ofParts f false mantissa shift)
  ((List.range maxDigits).findSome? fun n : Nat =>
    Shortest.onGrid reads tie units f.one (magnitude - (n + 1))).getD (exactDecimal f units)

end Binary

end SearchCriteria.Numeric
