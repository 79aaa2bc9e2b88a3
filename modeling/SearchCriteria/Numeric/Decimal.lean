/-
# Decimal numbers

A decimal is a coefficient scaled by a power of ten.  `Decimal.toBinary` rounds one to a
binary format, and `Decimal.ofText?` reads the number texts that coordinates are given in:

* an optional sign, then digits with at most one point among them, then an optional exponent;
* `inf`, `infinity` and `nan` after the sign, in any case.
-/
import SearchCriteria.Numeric.Binary

namespace SearchCriteria.Numeric

/-- The number `coefficient * 10 ^ exponent`. -/
structure Decimal where
  /-- The digits, read as one whole number. -/
  coefficient : Nat
  /-- The power of ten. -/
  exponent : Int
deriving DecidableEq, Repr

namespace Decimal

/-- The digits of the coefficient, the leading one first. -/
def digits (d : Decimal) : List Char :=
  Nat.toDigits 10 d.coefficient

/-- A nonzero decimal lies below `10 ^ magnitude` and not below a tenth of it. -/
def magnitude (d : Decimal) : Int :=
  d.digits.length + d.exponent

/-- The same number without the zeros at the end of its coefficient. -/
def trim (d : Decimal) : Decimal :=
  let zeros := (d.digits.reverse.takeWhile (· == '0')).length
  ⟨d.coefficient / 10 ^ zeros, d.exponent + zeros⟩

/-- Every number of either format is zero or between `10 ^ -reach` and `10 ^ reach`. -/
def reach : Int := 400

/-- The number of format `f` nearest to the decimal.

A decimal beyond the reach of the formats is answered without computing its power of ten. -/
def toBinary (f : Format) (negative : Bool) (d : Decimal) : Binary f :=
  if d.coefficient = 0 then .ofParts f negative 0 0
  else if reach < d.magnitude then .infinity negative
  else if d.magnitude < -reach then .ofParts f negative 0 0
  else if 0 ≤ d.exponent then
    .ofUnits f negative (d.coefficient * 10 ^ d.exponent.toNat * f.one) 1
  else
    .ofUnits f negative (d.coefficient * f.one) (10 ^ (-d.exponent).toNat)

/-- The decimal written by `whole`, a point, and `fraction`, scaled by `10 ^ exponent`. -/
def ofDigits (whole fraction : List Char) (exponent : Int) : Decimal :=
  ⟨Nat.ofDigitChars 10 (whole ++ fraction) 0, exponent - fraction.length⟩

/-- Reads the exponent of a number text: nothing, or `e` with an optional sign and digits. -/
def exponentOfText? : List Char → Option Int
  | [] => some 0
  | c :: rest =>
    if c = 'e' ∨ c = 'E' then
      let (negative, digits) := match rest with
        | '+' :: r => (false, r)
        | '-' :: r => (true, r)
        | r => (false, r)
      if digits ≠ [] ∧ digits.all Char.isDigit then
        let n : Int := Nat.ofDigitChars 10 digits 0
        some (if negative then -n else n)
      else none
    else none

/-- Reads an unsigned number text. -/
def ofText? (text : List Char) : Option Decimal :=
  let whole := text.takeWhile Char.isDigit
  let (fraction, rest) := match text.dropWhile Char.isDigit with
    | '.' :: r => (r.takeWhile Char.isDigit, r.dropWhile Char.isDigit)
    | r => ([], r)
  if whole = [] ∧ fraction = [] then none
  else (exponentOfText? rest).map (ofDigits whole fraction)

end Decimal

/-- Reads an unsigned number text, among them the names of what is no finite number. -/
def Binary.ofUnsignedText? (f : Format) (negative : Bool) (text : List Char) :
    Option (Binary f) :=
  match String.ofList (text.map Char.toLower) with
  | "inf" => some (.infinity negative)
  | "infinity" => some (.infinity negative)
  | "nan" => some .nan
  | _ => (Decimal.ofText? text).map (Decimal.toBinary f negative)

/-- Reads a number text. -/
def Binary.ofText? (f : Format) (text : String) : Option (Binary f) :=
  match text.toList with
  | '+' :: rest => Binary.ofUnsignedText? f false rest
  | '-' :: rest => Binary.ofUnsignedText? f true rest
  | rest => Binary.ofUnsignedText? f false rest

end SearchCriteria.Numeric
