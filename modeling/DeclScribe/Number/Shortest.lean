import DeclScribe.Number.Binary64

/-!
# The shortest decimal

Every finite number is the middle of an interval of reals that round to it. Of the decimals in that
interval the shortest one is the decimal on the coarsest grid of powers of ten that hits the
interval at all: only the two grid points beside the number can be the hit, and of two hits the
nearer one is taken. Which of two equally near ones is taken is left to the caller.

The interval of `m · 2^q` is measured in quarters of the last bit, so that its ends are integers.
-/

set_option autoImplicit false

namespace DeclScribe

/-- The decimal `coefficient · 10^exponent`. -/
structure Decimal where
  coefficient : Nat
  exponent : Int
deriving Repr, DecidableEq, Inhabited

/-- What to do with a number exactly between two grid points. -/
inductive Tie where
  | up | toEven
deriving Repr, DecidableEq, Inhabited

namespace Decimal

/-- The same decimal with a coefficient that does not end in a zero; `fuel` bounds the number of
zeros taken off. -/
def trimmed : Nat → Decimal → Decimal
  | 0, d => d
  | fuel + 1, d =>
    if d.coefficient ≠ 0 ∧ d.coefficient % 10 = 0 then
      trimmed fuel ⟨d.coefficient / 10, d.exponent + 1⟩
    else d

def digits (d : Decimal) : List Char :=
  Nat.toDigits 10 d.coefficient

/-- The power of ten of the first digit. -/
def leading (d : Decimal) : Int :=
  d.exponent + d.digits.length - 1

end Decimal

namespace Shortest

/-- The interval of reals that round to `m · 2^q`, its ends in quarters of the last bit. -/
structure Interval where
  low : Nat
  middle : Nat
  high : Nat
  /-- Whether the ends belong to the interval. -/
  closed : Bool
deriving Repr, DecidableEq, Inhabited

/-- The interval of a finite number that is not zero. Below a power of two the numbers lie twice as
dense. -/
def interval (x : Binary64) : Interval :=
  let m := x.significand
  let isPower := m = Number.twoPow 52 ∧ 1 < x.exponentField
  ⟨if isPower then 4 * m - 1 else 4 * m - 2, 4 * m, 4 * m + 2, m % 2 = 0⟩

/-- The factors that take quarters of the last bit to multiples of `10^k`: a count of quarters is
`count · numerator / denominator` of them. -/
def toGrid (x : Binary64) (k : Int) : Nat × Nat :=
  let quarter := x.power - 2
  (Number.twoPow quarter.toNat * Number.tenPow (-k).toNat,
    Number.twoPow (-quarter).toNat * Number.tenPow k.toNat)

/-- The multiple of `10^k` beside the number that lies in its interval. -/
def hit? (tie : Tie) (x : Binary64) (k : Int) : Option Nat :=
  let i := interval x
  let (num, den) := toGrid x k
  let below := i.middle * num / den
  let above := below + 1
  let inside (count : Nat) : Bool :=
    if i.closed then i.low * num ≤ count * den && count * den ≤ i.high * num
    else i.low * num < count * den && count * den < i.high * num
  let twice := 2 * (i.middle * num - below * den)
  match inside below, inside above with
  | true, true =>
    if twice < den then some below
    else if den < twice then some above
    else
      match tie with
      | .up => some above
      | .toEven => some (if below % 2 = 0 then below else above)
  | true, false => some below
  | false, true => some above
  | false, false => none

/-- The hit on the coarsest of the grids `10^k, 10^(k-1), …`, at most `fuel` of them. -/
def search (tie : Tie) (x : Binary64) : Nat → Int → Decimal
  | 0, k => ⟨0, k⟩
  | fuel + 1, k =>
    match hit? tie x k with
    | some coefficient => ⟨coefficient, k⟩
    | none => search tie x fuel (k - 1)

/-- A power of ten that is not below the number. -/
def ceiling (x : Binary64) : Int :=
  ((x.significand.log2 : Int) + 1 + x.power) * 30103 / 100000 + 1

end Shortest

/-- The shortest decimal that rounds to a finite number, its sign left aside. -/
def Binary64.shortest (tie : Tie) (x : Binary64) : Decimal :=
  if x.isZero then ⟨0, 0⟩
  else (Shortest.search tie x 24 (Shortest.ceiling x)).trimmed 24

end DeclScribe
