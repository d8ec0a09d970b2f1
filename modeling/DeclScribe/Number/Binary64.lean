import DeclScribe.Number.IntRange

/-!
# Binary floating-point words

A 64-bit floating-point number is its word: a sign, eleven bits of exponent and 52 bits of
fraction. A finite number is a significand times a power of two, `m · 2^q`, and everything said
about it here is exact arithmetic on `m` and `q`.

`BinaryFormat.round` is the one place where a number is rounded: it takes a positive fraction to
the nearest word of a format, a half to the even neighbour. Reading a decimal and narrowing to 32
bits are both instances of it.
-/

set_option autoImplicit false

namespace DeclScribe

/-- A binary interchange format: how many bits a significand has, and the power of two that the
last bit of the smallest numbers stands for. -/
structure BinaryFormat where
  precision : Nat
  minPower : Int
  /-- The word of positive infinity. -/
  infinity : Nat
deriving Repr, DecidableEq, Inhabited

namespace BinaryFormat

/-- The 64-bit format. -/
def double : BinaryFormat := ⟨53, -1074, 0x7ff0000000000000⟩

/-- The 32-bit format. -/
def single : BinaryFormat := ⟨24, -149, 0x7f800000⟩

/-- A quotient rounded to the nearest integer, a half to the even one. -/
def roundDiv (num den : Nat) : Nat :=
  let quotient := num / den
  let twice := 2 * (num % den)
  if twice < den then quotient
  else if den < twice then quotient + 1
  else quotient + quotient % 2

/-- A fraction divided by a power of two, as a fraction. -/
def scaled (num den : Nat) (power : Int) : Nat × Nat :=
  if power < 0 then (num * Number.twoPow power.natAbs, den)
  else (num, den * Number.twoPow power.natAbs)

/-- The power of two of the last bit of a fraction's significand. -/
def lastBit (format : BinaryFormat) (num den : Nat) : Int :=
  let high : Int := (num.log2 : Int) - den.log2 + 1 - format.precision
  let (n, d) := scaled num den high
  let power := if n / d < Number.twoPow (format.precision - 1) then high - 1 else high
  max power format.minPower

/-- The word of the number nearest to a positive fraction. A significand that rounds up to the next
power of two carries into the exponent by itself. -/
def round (format : BinaryFormat) (num den : Nat) : Nat :=
  if num = 0 then 0
  else
    let power := format.lastBit num den
    let (n, d) := scaled num den power
    let word :=
      (power - format.minPower).toNat * Number.twoPow (format.precision - 1) + roundDiv n d
    min word format.infinity

end BinaryFormat

/-- A 64-bit floating-point number. -/
structure Binary64 where
  bits : UInt64
deriving Repr, DecidableEq, Inhabited

namespace Binary64

/-- The number with the given sign and magnitude word. -/
def ofWord (negative : Bool) (word : Nat) : Binary64 :=
  ⟨UInt64.ofNat (if negative then Number.twoPow 63 + word else word)⟩

/-- Whether the sign bit is set, of a zero or a NaN too. -/
def isNegative (x : Binary64) : Bool :=
  Number.twoPow 63 ≤ x.bits.toNat

/-- The word without its sign bit. -/
def magnitude (x : Binary64) : Nat :=
  x.bits.toNat % Number.twoPow 63

/-- Whether the word stands for no number. -/
def isNaN (x : Binary64) : Bool :=
  BinaryFormat.double.infinity < x.magnitude

def isInfinite (x : Binary64) : Bool :=
  x.magnitude = BinaryFormat.double.infinity

/-- Whether the number is zero, of either sign. -/
def isZero (x : Binary64) : Bool :=
  x.magnitude = 0

/-- The same number with the other sign. -/
def negate (x : Binary64) : Binary64 :=
  ofWord (!x.isNegative) x.magnitude

def abs (x : Binary64) : Binary64 :=
  ofWord false x.magnitude

/-- The exponent field of the word. -/
def exponentField (x : Binary64) : Nat :=
  x.magnitude / Number.twoPow 52

/-- The integer `m` of a finite number `m · 2^q`. -/
def significand (x : Binary64) : Nat :=
  let fraction := x.magnitude % Number.twoPow 52
  if x.exponentField = 0 then fraction else Number.twoPow 52 + fraction

/-- The power `q` of a finite number `m · 2^q`. -/
def power (x : Binary64) : Int :=
  if x.exponentField = 0 then -1074 else (x.exponentField : Int) - 1075

def infinity : Binary64 := ofWord false BinaryFormat.double.infinity

/-- A word that stands for no number. -/
def nan : Binary64 := ofWord false (BinaryFormat.double.infinity + Number.twoPow 51)

/-- The number of decimal digits of an integer. -/
def decimalWidth (n : Nat) : Nat :=
  (Nat.toDigits 10 n).length

/-- The number nearest to `digits · 10^exponent`. Exponents far outside the range of the format
are decided without computing the power of ten. -/
def ofDecimal (negative : Bool) (digits : Nat) (exponent : Int) : Binary64 :=
  let size := exponent + decimalWidth digits
  ofWord negative <|
    if digits = 0 ∨ size < -330 then 0
    else if 310 < size then BinaryFormat.double.infinity
    else if exponent < 0 then BinaryFormat.double.round digits (Number.tenPow exponent.natAbs)
    else BinaryFormat.double.round (digits * Number.tenPow exponent.natAbs) 1

/-- The word of the 32-bit number nearest to a number. -/
def toSingleWord (x : Binary64) : UInt32 :=
  let word :=
    if x.isNaN then BinaryFormat.single.infinity + Number.twoPow 22
    else if x.isInfinite then BinaryFormat.single.infinity
    else if x.power < 0 then BinaryFormat.single.round x.significand (Number.twoPow x.power.natAbs)
    else BinaryFormat.single.round (x.significand * Number.twoPow x.power.natAbs) 1
  UInt32.ofNat (if x.isNegative then Number.twoPow 31 + word else word)

end Binary64

end DeclScribe
