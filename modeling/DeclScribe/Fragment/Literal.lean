import DeclScribe.Text.Format

/-!
# Literals

A literal keeps the text it is written with. Strings and characters are written in regular form:
a backslash, the enclosing quote, the common controls, every other control character and the two
Unicode line separators become escape sequences, and all else stands for itself, so the text of a
literal is always a single line.
-/

set_option autoImplicit false

namespace DeclScribe

inductive LiteralKind where
  | string | char | numeric | true | false | null
deriving Repr, DecidableEq, Inhabited

/-- A literal: its kind and the text it is written with. -/
structure Literal where
  kind : LiteralKind
  token : String
deriving Repr, DecidableEq, Inhabited

namespace Literal

/-- Control characters, Unicode category Cc. -/
def isControl (c : Char) : Bool :=
  c.toNat < 0x20 || (0x7f ≤ c.toNat && c.toNat < 0xa0)

/-- A character as it is written inside a literal, quotes apart. -/
def escaped (c : Char) : List Char :=
  if c = '\\' then ['\\', '\\']
  else if c = '\x00' then ['\\', '0']
  else if c = '\n' then ['\\', 'n']
  else if c = '\r' then ['\\', 'r']
  else if c = '\t' then ['\\', 't']
  else if c = '\u2028' ∨ c = '\u2029' ∨ isControl c then '\\' :: 'u' :: Text.hexFixed 4 c.toNat
  else [c]

/-- A character as it is written inside a string literal. -/
def escapedInString (c : Char) : List Char :=
  if c = '"' then ['\\', '"'] else escaped c

/-- A character as it is written inside a character literal. -/
def escapedInChar (c : Char) : List Char :=
  if c = '\'' then ['\\', '\''] else escaped c

def quote (text : String) : String :=
  String.ofList ('"' :: (text.toList.flatMap escapedInString ++ ['"']))

def ofString (text : String) : Literal := ⟨.string, quote text⟩

def ofChar (c : Char) : Literal := ⟨.char, String.ofList ('\'' :: (escapedInChar c ++ ['\'']))⟩

/-- A number that is written as the given text. -/
def numeric (text : String) : Literal := ⟨.numeric, text⟩

def ofBool : Bool → Literal
  | .true => ⟨.true, "true"⟩
  | .false => ⟨.false, "false"⟩

def null : Literal := ⟨.null, "null"⟩

end Literal

end DeclScribe
