import DeclScribe.Number.Binary64

/-!
# Reading numbers

The value of a run of digits, and of a decimal with an optional fraction and exponent. A decimal is
rounded to the nearest floating-point number; a point needs a digit on one of its sides.
-/

set_option autoImplicit false

namespace DeclScribe.Number

/-- The value of a digit, in either letter case. -/
def digitValue? (c : Char) : Option Nat :=
  if '0' ≤ c ∧ c ≤ '9' then some (c.toNat - 48)
  else if 'a' ≤ c ∧ c ≤ 'z' then some (c.toNat - 87)
  else if 'A' ≤ c ∧ c ≤ 'Z' then some (c.toNat - 55)
  else none

/-- The value of a run of digits behind digits of the value `high`. -/
def valueFrom? (base high : Nat) : List Char → Option Nat
  | [] => some high
  | c :: rest =>
    match digitValue? c with
    | some digit => if digit < base then valueFrom? base (high * base + digit) rest else none
    | none => none

/-- The value of a run of digits, which must not be empty. -/
def value? (base : Nat) : List Char → Option Nat
  | [] => none
  | digits => valueFrom? base 0 digits

def isDecimalDigit (c : Char) : Bool :=
  '0' ≤ c && c ≤ '9'

/-- The power of ten that the end of a decimal names: none at all, or a mark with signed digits. -/
def exponent? : List Char → Option Int
  | [] => some 0
  | mark :: rest =>
    if mark = 'e' ∨ mark = 'E' then
      match rest with
      | '-' :: digits => (value? 10 digits).map fun n => -(n : Int)
      | '+' :: digits => (value? 10 digits).map fun n => (n : Int)
      | digits => (value? 10 digits).map fun n => (n : Int)
    else none

/-- A decimal without sign as its digits and the power of ten of the last one. -/
def decimal? (text : List Char) : Option (Nat × Int) :=
  let whole := text.takeWhile isDecimalDigit
  let behind := text.drop whole.length
  let fraction := match behind with
    | '.' :: rest => rest.takeWhile isDecimalDigit
    | _ => []
  let tail := match behind with
    | '.' :: _ => behind.drop (fraction.length + 1)
    | _ => behind
  match value? 10 (whole ++ fraction), exponent? tail with
  | some digits, some exponent => some (digits, exponent - fraction.length)
  | _, _ => none

/-- The floating-point number nearest to a decimal without sign. -/
def binary64? (negative : Bool) (text : List Char) : Option Binary64 :=
  (decimal? text).map fun (digits, exponent) => .ofDecimal negative digits exponent

end DeclScribe.Number
