/-
# Binary floating-point numbers

The two interchange formats that query expressions carry: 64-bit numbers in values and
coordinates, 32-bit numbers in boosts.  A finite number is a whole number of the format's
smallest positive number, its *unit*, so that comparison, conversion between the formats and
truncation are arithmetic on integers.  There is one rounding function, `Binary.ofUnits`; it
rounds an exact quotient to the nearest number of the format, an exact tie to the even one.
-/
import SearchCriteria.Numeric.Core

namespace SearchCriteria.Numeric

/-- An interchange format for binary floating-point numbers. -/
inductive Format where
  /-- Single precision, used for boosts. -/
  | binary32
  /-- Double precision, used for values and coordinates. -/
  | binary64
deriving DecidableEq, Repr

namespace Format

/-- The number of significant bits. -/
def precision : Format → Nat
  | binary32 => 24
  | binary64 => 53

/-- The unit of the format, its smallest positive number, is `2 ^ -unitExponent`. -/
def unitExponent : Format → Nat
  | binary32 => 149
  | binary64 => 1074

/-- The largest power of two by which a mantissa can be scaled. -/
def maxShift : Format → Nat
  | binary32 => 253
  | binary64 => 2045

/-- The number of units in one. -/
def one (f : Format) : Nat := 2 ^ f.unitExponent

end Format

/-- A mantissa and a shift name the number `mantissa * 2 ^ shift` of units in the only way
that the format allows: the mantissa fits, and it uses all its bits unless the shift is zero. -/
structure Canonical (f : Format) (mantissa shift : Nat) : Prop where
  /-- The mantissa fits into the precision. -/
  mantissa_lt : mantissa < 2 ^ f.precision
  /-- The shift is one the format has. -/
  shift_le : shift ≤ f.maxShift
  /-- Only the smallest numbers may leave the leading bit empty. -/
  normal : shift = 0 ∨ 2 ^ (f.precision - 1) ≤ mantissa

instance (f : Format) (m s : Nat) : Decidable (Canonical f m s) :=
  if h : m < 2 ^ f.precision ∧ s ≤ f.maxShift ∧ (s = 0 ∨ 2 ^ (f.precision - 1) ≤ m) then
    .isTrue ⟨h.1, h.2.1, h.2.2⟩
  else
    .isFalse fun c => h ⟨c.mantissa_lt, c.shift_le, c.normal⟩

/-- A binary floating-point number.  All not-a-number values are one. -/
inductive Binary (f : Format) where
  /-- Not a number. -/
  | nan
  /-- An infinity. -/
  | infinity (negative : Bool)
  /-- The number of `mantissa * 2 ^ shift` units, with its sign; zero has two signs. -/
  | finite (negative : Bool) (mantissa shift : Nat) (canonical : Canonical f mantissa shift)
deriving DecidableEq

/-- A 64-bit number. -/
abbrev Binary64 : Type := Binary .binary64

/-- A 32-bit number. -/
abbrev Binary32 : Type := Binary .binary32

/-- The quotient of two natural numbers rounded to the nearest, a tie to the even one. -/
def divNearestEven (num den : Nat) : Nat :=
  let quotient := num / den
  let rest := num % den
  if 2 * rest < den then quotient
  else if den < 2 * rest then quotient + 1
  else quotient + quotient % 2

namespace Binary

variable {f : Format}

/-- The number with the given mantissa and shift, or an infinity if the format has none. -/
def ofParts (f : Format) (negative : Bool) (mantissa shift : Nat) : Binary f :=
  if h : Canonical f mantissa shift then .finite negative mantissa shift h
  else .infinity negative

/-- The number nearest to `num / den` units.

The shift is the least one for which the quotient's whole part fits into the precision; a
mantissa that rounding carries to the next power of two is halved. -/
def ofUnits (f : Format) (negative : Bool) (num den : Nat) : Binary f :=
  let shift := (num / den).log2 + 1 - f.precision
  let mantissa := divNearestEven num (den * 2 ^ shift)
  if mantissa < 2 ^ f.precision then ofParts f negative mantissa shift
  else ofParts f negative (mantissa / 2) (shift + 1)

/-- The number nearest to an integer. -/
def ofInt (f : Format) (n : Int) : Binary f :=
  ofUnits f (n < 0) (n.natAbs * f.one) 1

/-- The number of another format nearest to this one. -/
def convert (g : Format) : Binary f → Binary g
  | .nan => .nan
  | .infinity negative => .infinity negative
  | .finite negative mantissa shift _ =>
    ofUnits g negative (mantissa * 2 ^ shift * g.one) f.one

/-- Whether this is not a number. -/
def isNaN : Binary f → Bool
  | .nan => true
  | _ => false

/-- Whether this is neither an infinity nor not a number. -/
def isFinite : Binary f → Bool
  | .finite .. => true
  | _ => false

/-- The place on the number line, in units; infinities lie beyond every finite number. -/
def position? : Binary f → Option Int
  | .nan => none
  | .infinity negative =>
    let beyond : Int := 2 ^ (f.precision + f.maxShift)
    some (if negative then -beyond else beyond)
  | .finite negative mantissa shift _ =>
    let units : Int := mantissa * 2 ^ shift
    some (if negative then -units else units)

/-- Equality of numbers: both zeros are equal, and not-a-number equals nothing. -/
protected def beq (x y : Binary f) : Bool :=
  match x.position?, y.position? with
  | some p, some q => p == q
  | _, _ => false

instance : BEq (Binary f) := ⟨Binary.beq⟩

/-- Strict order of numbers; not-a-number is below and above nothing. -/
def lt (x y : Binary f) : Bool :=
  match x.position?, y.position? with
  | some p, some q => p < q
  | _, _ => false

/-- Whether the number lies between two integers, both included. -/
def isBetween (lower upper : Int) (x : Binary f) : Bool :=
  match x.position? with
  | some p => lower * f.one ≤ p && p ≤ upper * f.one
  | none => false

/-- The integer part, rounding toward zero, forced into the range of 64-bit integers;
not-a-number counts as zero. -/
def truncate : Binary f → Int64
  | .nan => 0
  | .infinity negative => if negative then Int64.minValue else Int64.maxValue
  | .finite negative mantissa shift _ =>
    let whole : Int := (mantissa * 2 ^ shift / f.one : Nat)
    let signed := if negative then -whole else whole
    Int64.ofInt (max Int64.minValue.toInt (min Int64.maxValue.toInt signed))

end Binary

end SearchCriteria.Numeric
