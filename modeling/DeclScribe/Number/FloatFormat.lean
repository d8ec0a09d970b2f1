import DeclScribe.Number.Shortest

/-!
# Writing floating-point numbers

A number is written with its shortest digits, either positionally or with an exponent. What differs
from one output to the next is gathered in `FloatFormat`: where positional writing ends, whether a
whole number keeps a zero behind the point, how the exponent is signed and what the words for
infinity and for no number are.
-/

set_option autoImplicit false

namespace DeclScribe

/-- How floating-point numbers are written in one kind of output. -/
structure FloatFormat where
  /-- Whether a number whose first digit stands for this power of ten is written positionally. -/
  positional : Int → Bool
  /-- Whether a whole number is written with `.0`. -/
  pointZero : Bool
  /-- Whether a positive exponent has a plus sign. -/
  plusSign : Bool
  /-- Which of two equally near digits is taken. -/
  tie : Tie
  /-- The text of positive infinity. -/
  infinity : String
  /-- The text of negative infinity. -/
  negativeInfinity : String
  /-- The text of a word that stands for no number. -/
  nan : String

namespace FloatFormat

/-- Digits with a point at their place, and zeros where the digits do not reach it. -/
def writePositional (pointZero : Bool) (d : Decimal) : List Char :=
  let digits := d.digits
  if 0 ≤ d.exponent then
    digits ++ List.replicate d.exponent.natAbs '0' ++ (if pointZero then ['.', '0'] else [])
  else
    let places := d.exponent.natAbs
    let padded := List.replicate (places + 1 - digits.length) '0' ++ digits
    let whole := padded.length - places
    padded.take whole ++ ('.' :: padded.drop whole)

/-- One digit, a point with the other ones, and the power of ten. -/
def writeExponent (plusSign : Bool) (d : Decimal) : List Char :=
  let exponent := d.leading
  let sign := if exponent < 0 then ['-'] else if plusSign then ['+'] else []
  let mantissa :=
    match d.digits with
    | first :: second :: rest => first :: '.' :: second :: rest
    | digits => digits
  mantissa ++ 'e' :: (sign ++ Nat.toDigits 10 exponent.natAbs)

def write (format : FloatFormat) (x : Binary64) : String :=
  if x.isNaN then format.nan
  else if x.isInfinite then (if x.isNegative then format.negativeInfinity else format.infinity)
  else
    let d := x.shortest format.tie
    let body :=
      if x.isZero || format.positional d.leading then writePositional format.pointZero d
      else writeExponent format.plusSign d
    String.ofList (if x.isNegative then '-' :: body else body)

end FloatFormat

end DeclScribe
