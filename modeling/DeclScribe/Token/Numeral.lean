import DeclScribe.Text.Alphabetic
import DeclScribe.Text.Classes

/-!
# The shape of numbers

A number is a run of digits after `0x` or `0b`, or a decimal with an optional fraction and an
optional exponent; underscores may stand among the digits, and one suffix may close it. Each part
is cut off the front of the text by a function that returns exactly the characters it takes, so
that the parts of a number put together are the number's text.
-/

set_option autoImplicit false

namespace DeclScribe

def isIdentifierStart (c : Char) : Bool :=
  Text.isAlphabetic c || c == '_'

def isIdentifierPart (c : Char) : Bool :=
  Text.isAlphabetic c || Text.isNumeric c || c == '_'

/-- The bases in which a number can be written. -/
inductive Radix where
  | binary | decimal | hexadecimal
deriving Repr, DecidableEq, Inhabited

namespace Radix

def base : Radix → Nat
  | .binary => 2
  | .decimal => 10
  | .hexadecimal => 16

/-- The value of a hexadecimal digit, in either letter case. -/
def digitValue? (c : Char) : Option Nat :=
  if '0' ≤ c ∧ c ≤ '9' then some (c.toNat - 48)
  else if 'a' ≤ c ∧ c ≤ 'f' then some (c.toNat - 87)
  else if 'A' ≤ c ∧ c ≤ 'F' then some (c.toNat - 55)
  else none

/-- Whether a character is a digit of the base. -/
def isDigit (radix : Radix) (c : Char) : Bool :=
  match digitValue? c with
  | some value => value < radix.base
  | none => false

/-- The longest run of digits and underscores at the front of a text. -/
def run (radix : Radix) (text : List Char) : List Char :=
  text.takeWhile fun c => radix.isDigit c || c == '_'

/-- Whether a run of digits and underscores has a digit in it. -/
def hasDigit (radix : Radix) (digits : List Char) : Bool :=
  digits.any radix.isDigit

/-- The base that the first two characters of a number announce. -/
def announced? : List Char → Option Radix
  | '0' :: 'x' :: _ => some .hexadecimal
  | '0' :: 'X' :: _ => some .hexadecimal
  | '0' :: 'b' :: _ => some .binary
  | '0' :: 'B' :: _ => some .binary
  | _ => none

end Radix

namespace Numeral

/-- A point with the digits behind it. The point counts only when a digit follows at once. -/
def fraction : List Char → List Char
  | '.' :: c :: rest =>
    if Radix.decimal.isDigit c then '.' :: Radix.decimal.run (c :: rest) else []
  | _ => []

def sign : List Char → List Char
  | '+' :: _ => ['+']
  | '-' :: _ => ['-']
  | _ => []

/-- The mark of an exponent, its sign and the run behind it, which may lack its digits. -/
def exponent : List Char → List Char
  | c :: rest =>
    if c == 'e' || c == 'E' then
      let s := sign rest
      c :: (s ++ Radix.decimal.run (rest.drop s.length))
    else []
  | [] => []

/-- The second letter of a two-letter suffix, in either case. -/
def pair (letter : Char) : List Char → List Char
  | c :: _ => if c.toLower == letter then [c] else []
  | [] => []

/-- The suffix of a number. A real suffix needs a decimal number, an integer suffix one without
fraction and exponent. -/
def suffix (isDecimal isReal : Bool) : List Char → List Char
  | c :: rest =>
    let letter := c.toLower
    if isDecimal && (letter == 'f' || letter == 'd' || letter == 'm') then [c]
    else if !isReal && letter == 'u' then c :: pair 'l' rest
    else if !isReal && letter == 'l' then c :: pair 'u' rest
    else []
  | [] => []

end Numeral

end DeclScribe
