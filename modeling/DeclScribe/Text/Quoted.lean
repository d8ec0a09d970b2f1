import DeclScribe.Text.Extender
import DeclScribe.Text.Format
import DeclScribe.Text.Unprintable

/-!
# Quoted display

A text between quotes in which every character can be seen: the common controls and the backslash
have short escapes, the enclosing quote is escaped, and a character that has no picture of its own
or would join the one before it is written as its code point.
-/

set_option autoImplicit false

namespace DeclScribe.Text

/-- A character as it is displayed between the given quotes. -/
def displayed (quote c : Char) : List Char :=
  if c = '\x00' then ['\\', '0']
  else if c = '\t' then ['\\', 't']
  else if c = '\r' then ['\\', 'r']
  else if c = '\n' then ['\\', 'n']
  else if c = '\\' ∨ c = quote then ['\\', c]
  else if isExtender c || isUnprintable c then
    ['\\', 'u', '\x7b'] ++ hexShort c.toNat ++ ['\x7d']
  else [c]

/-- A text between double quotes. -/
def displayString (text : String) : String :=
  String.ofList ('"' :: (text.toList.flatMap (displayed '"') ++ ['"']))

/-- A character between single quotes. -/
def displayChar (c : Char) : String :=
  String.ofList ('\'' :: (displayed '\'' c ++ ['\'']))

end DeclScribe.Text
