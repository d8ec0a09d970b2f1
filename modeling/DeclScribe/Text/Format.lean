/-!
# Lists and code points as text

Lists of things are written with a comma and a space between them. The separator stands between
items only, so no items give no text. Code points are written with lower-case hexadecimal digits, in
a fixed width or without leading zeros.
-/

set_option autoImplicit false

namespace DeclScribe.Text

/-- Texts with a separator between them. -/
def joined (separator : String) : List String → String
  | [] => ""
  | [text] => text
  | text :: next :: rest => text ++ separator ++ joined separator (next :: rest)

/-- Texts with commas between them. -/
def commaSeparated (texts : List String) : String :=
  joined ", " texts

/-- The hexadecimal digit of a number below 16. -/
def hexDigit (n : Nat) : Char :=
  if n < 10 then Char.ofNat (48 + n) else Char.ofNat (87 + n)

/-- The last `width` hexadecimal digits of a number. -/
def hexFixed : Nat → Nat → List Char
  | 0, _ => []
  | width + 1, n => hexFixed width (n / 16) ++ [hexDigit (n % 16)]

/-- The least number of hexadecimal digits that hold a number, at most `limit` and at least one. -/
def hexWidth : Nat → Nat → Nat
  | 0, _ => 1
  | limit + 1, n => if n < 16 then 1 else hexWidth limit (n / 16) + 1

/-- A code point without leading zeros. -/
def hexShort (n : Nat) : List Char :=
  hexFixed (hexWidth 16 n) n

end DeclScribe.Text
