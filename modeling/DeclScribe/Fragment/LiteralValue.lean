import DeclScribe.Fragment
import DeclScribe.Number.FloatFormat

/-!
# Values as literals

A value that is to be written as C# becomes an expression without being parsed: text and characters
are escaped, a negative number is a minus sign before the literal of its magnitude, and the
floating-point numbers that no literal denotes are members of `double`. Raw text is the exception
and has to parse.
-/

set_option autoImplicit false

namespace DeclScribe

/-- A value to be written as an expression. -/
inductive LiteralValue where
  | string (text : String)
  | char (c : Char)
  /-- A signed integer. -/
  | int (value : Int)
  /-- An unsigned integer. -/
  | uint (value : Nat)
  | float (value : Binary64)
  | bool (value : Bool)
  | null
  /-- An expression that is already spelled. -/
  | raw (text : String)
deriving Repr, DecidableEq, Inhabited

namespace LiteralValue

/-- Real literals always show that they are real: they have a point, or an exponent from `10^16` up
and below `10^-4`. -/
def floatFormat : FloatFormat where
  positional leading := -5 < leading && leading < 16
  pointZero := true
  plusSign := false
  tie := .up
  infinity := "inf"
  negativeInfinity := "-inf"
  nan := "NaN"

def natLiteral (n : Nat) : Expr :=
  .literal (.numeric (toString n))

/-- A floating-point number as an expression. The sign of a zero is not kept. -/
def floatExpr (x : Binary64) : Expr :=
  if x.isNaN then .member (.predefined .double) "NaN"
  else if x.isInfinite then
    .member (.predefined .double) (if x.isNegative then "NegativeInfinity" else "PositiveInfinity")
  else
    let literal : Expr := .literal (.numeric (floatFormat.write x.abs))
    if x.isNegative && !x.isZero then .unary .minus literal else literal

def toExpr : LiteralValue → Except ParseError Expr
  | .string text => .ok (.literal (.ofString text))
  | .char c => .ok (.literal (.ofChar c))
  | .int value =>
    .ok (if value < 0 then .unary .minus (natLiteral value.natAbs) else natLiteral value.natAbs)
  | .uint value => .ok (natLiteral value)
  | .float value => .ok (floatExpr value)
  | .bool value => .ok (.literal (.ofBool value))
  | .null => .ok (.literal .null)
  | .raw text => Expr.parse text

end LiteralValue

end DeclScribe
