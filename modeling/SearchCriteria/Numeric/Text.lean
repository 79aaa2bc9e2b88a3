/-
# Number texts

Two ways of writing a number.  In messages and in query text a number is written out in full,
never with an exponent and with a point only where it has a fraction.  In JSON it keeps a point,
and numbers that would need many zeros are written with an exponent.
-/
import SearchCriteria.Numeric.Shortest

namespace SearchCriteria.Numeric

/-- The choices that a way of writing finite numbers makes. -/
structure Style where
  /-- Which of two equally near decimals is written. -/
  tie : Tie
  /-- The powers of ten of the leading digit for which no exponent is written. -/
  positional : Int → Bool
  /-- Whether a whole number written without an exponent ends in `.0`. -/
  pointZero : Bool

namespace Style

/-- Numbers in messages and in query text: never an exponent, `1` and not `1.0`. -/
def plain : Style := ⟨.up, fun _ => true, false⟩

/-- Numbers in JSON: `1.0`, and an exponent for long runs of zeros. -/
def json : Format → Style
  | .binary32 => ⟨.even, fun e => -6 ≤ e && e ≤ 12, true⟩
  | .binary64 => ⟨.even, fun e => -5 ≤ e && e ≤ 15, true⟩

/-- Writes digits scaled by a power of ten without an exponent. -/
def writePositional (pointZero : Bool) (digits : List Char) (exponent : Int) : List Char :=
  let point := digits.length + exponent
  if 0 ≤ exponent then
    digits ++ List.replicate exponent.toNat '0' ++ (if pointZero then ['.', '0'] else [])
  else if point ≤ 0 then
    '0' :: '.' :: List.replicate (-point).toNat '0' ++ digits
  else
    digits.take point.toNat ++ '.' :: digits.drop point.toNat

/-- Writes digits, the first before the point, with the power of ten of the first. -/
def writeScientific (digits : List Char) (leading : Int) : List Char :=
  let mantissa := match digits with
    | first :: second :: rest => first :: '.' :: second :: rest
    | short => short
  mantissa ++ 'e' :: (if leading < 0 then '-' else '+') :: Nat.toDigits 10 leading.natAbs

/-- Writes a decimal that is not negative. -/
def write (style : Style) (d : Decimal) : List Char :=
  let leading := d.magnitude - 1
  if style.positional leading then writePositional style.pointZero d.digits d.exponent
  else writeScientific d.digits leading

/-- Writes the finite number with the given sign, mantissa and shift. -/
def writeFinite (style : Style) (f : Format) (negative : Bool) (mantissa shift : Nat) : String :=
  let d := if mantissa = 0 then ⟨0, 0⟩ else Binary.shortest f style.tie mantissa shift
  String.ofList ((if negative then ['-'] else []) ++ style.write d)

end Style

namespace Binary

variable {f : Format}

/-- The text of a number in messages and in query text. -/
def toText : Binary f → String
  | .nan => "NaN"
  | .infinity negative => if negative then "-inf" else "inf"
  | .finite negative mantissa shift _ => Style.plain.writeFinite f negative mantissa shift

/-- The JSON text of a number; JSON has none for infinities and not-a-number. -/
def toJsonText? : Binary f → Option String
  | .finite negative mantissa shift _ =>
    some ((Style.json f).writeFinite f negative mantissa shift)
  | _ => none

instance : ToString (Binary f) := ⟨toText⟩

end Binary

end SearchCriteria.Numeric
