import DeclScribe.Constant.Basic
import DeclScribe.Constant.Decode
import DeclScribe.Fragment.Expr
import DeclScribe.Number.IntRange

/-!
# The constant an expression denotes

Literals are read the way C# reads them: an integer takes the first type whose range holds it among
those that its suffix admits, a real number the type of its suffix. A minus sign is folded into a
number as long as the result fits 64 bits. `A.B` is the member `B` of the enum `A`. Every other
expression is kept as its text.
-/

set_option autoImplicit false

namespace DeclScribe

/-- The types that an integer literal can have. -/
inductive IntegerType where
  | int | uint | long | ulong
deriving Repr, DecidableEq, Inhabited

namespace IntegerType

def word : IntegerType → String
  | .int => "int"
  | .uint => "uint"
  | .long => "long"
  | .ulong => "ulong"

def greatest : IntegerType → Nat
  | .int => Number.twoPow 31 - 1
  | .uint => Number.twoPow 32 - 1
  | .long => Number.twoPow 63 - 1
  | .ulong => Number.twoPow 64 - 1

/-- A number as a value of the type. -/
def value : IntegerType → Nat → ConstantValue
  | .int, n => .int n
  | .uint, n => .uint n
  | .long, n => .int n
  | .ulong, n => .uint n

/-- The types that a suffix admits, smallest first. -/
def admitted (unsigned long : Bool) : List IntegerType :=
  match unsigned, long with
  | false, false => [.int, .uint, .long, .ulong]
  | true, false => [.uint, .ulong]
  | false, true => [.long, .ulong]
  | true, true => [.ulong]

end IntegerType

namespace Constant

/-- The first type of a list whose range holds a number, as the type of that number. -/
def ofMagnitude? (types : List IntegerType) (n : Nat) : Option Constant :=
  (types.find? fun type => n ≤ type.greatest).map fun type =>
    primitive type.word (type.value n)

/-- An integer, typed `int` if that holds it and else `long`. -/
def ofInteger (value : Int) : Constant :=
  if (IntRange.signed 32).holds value then int value else long value

/-- A text without the characters of a class at its end. -/
def trimEnd (p : Char → Bool) (text : List Char) : List Char :=
  (text.reverse.dropWhile p).reverse

def isRealSuffix (c : Char) : Bool :=
  c == 'f' || c == 'd' || c == 'm'

def isIntegerSuffix (c : Char) : Bool :=
  c == 'u' || c == 'l'

/-- The base of a number in lower case, and the number without the mark of its base. -/
def radixAndBody : List Char → Nat × List Char
  | '0' :: 'x' :: body => (16, body)
  | '0' :: 'b' :: body => (2, body)
  | body => (10, body)

/-- Whether the body of a decimal number makes it a real one. -/
def isReal (body : List Char) : Bool :=
  body.any (fun c => c == '.' || c == 'e') || (body.getLast?.any isRealSuffix)

/-- The type of a real literal, by its last character. -/
def realTypeWord (body : List Char) : String :=
  if body.getLast? = some 'f' then "float"
  else if body.getLast? = some 'm' then "decimal"
  else "double"

/-- The constant that the token of a numeric literal denotes. A number that no type holds is kept
as its text. -/
def ofNumeral (token : String) : Constant :=
  let text := (token.toList.filter (· != '_')).map Char.toLower
  let (radix, body) := radixAndBody text
  if radix == 10 && isReal body then
    match Number.binary64? false (trimEnd isRealSuffix body) with
    | some value => primitive (realTypeWord body) (.float value)
    | none => opaqueText token
  else
    let digits := trimEnd isIntegerSuffix body
    let suffix := body.drop digits.length
    match Number.value? radix digits with
    | none => opaqueText token
    | some n =>
      (ofMagnitude? (IntegerType.admitted (suffix.contains 'u') (suffix.contains 'l')) n).getD
        (opaqueText token)

def ofLiteral (literal : Literal) : Constant :=
  match literal.kind with
  | .string => ofString (String.ofList (Decode.string literal.token.toList))
  | .char =>
    match Decode.char? literal.token.toList with
    | some c => ofChar c
    | none => null
  | .numeric => ofNumeral literal.token
  | .true => ofBool true
  | .false => ofBool false
  | .null => null

/-- The constant with the opposite sign, if it is a number and the result fits. -/
def negate? (c : Constant) : Option Constant :=
  match c.value with
  | .int value => if (IntRange.signed 64).holds (-value) then some (ofInteger (-value)) else none
  | .uint value =>
    if (IntRange.signed 64).holds (-(value : Int)) then some (long (-(value : Int))) else none
  | .float value => some (.mk c.kind c.typeName (.float value.negate))
  | _ => none

/-- What `nameof` gives: the last name of an expression. -/
def nameOfText : Expr → String
  | .member _ field => field
  | .name path => path.simpleIdentifier
  | other => other.print

def ofExpr : Expr → Constant
  | .literal value => ofLiteral value
  | .paren inner => ofExpr inner
  | .unary .minus operand =>
    ((ofExpr operand).negate?).getD (opaqueText (Expr.unary .minus operand).print)
  | .typeOf type => typeOf type.print
  | .nameOf inner => ofString (nameOfText inner)
  | .member receiver field => enumMember receiver.print field
  | other => opaqueText other.print

end Constant

end DeclScribe
