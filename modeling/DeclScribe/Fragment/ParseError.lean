import DeclScribe.Position

/-!
# Why a fragment does not parse

A fragment is a piece of C# small enough to stand in one slot of a declaration: a name, a type or
an expression. Each way of failing is a constructor with the place where it showed; the wording is
`ParseError.message` and nothing else depends on it.
-/

set_option autoImplicit false

namespace DeclScribe

inductive FragmentKind where
  | name | type | expression
deriving Repr, DecidableEq, Inhabited

/-- What a fragment of this kind is called behind the word "after". -/
def FragmentKind.describe : FragmentKind → String
  | .name => "name"
  | .type => "type name"
  | .expression => "expression"

/-- What an identifier stands for where one is read. -/
inductive NameRole where
  | name | memberName | expression
deriving Repr, DecidableEq, Inhabited

/-- What a role is called behind the words "cannot be used as". -/
def NameRole.describe : NameRole → String
  | .name => "a name"
  | .memberName => "a member name"
  | .expression => "an expression"

/-- What could have come next where something else did. -/
inductive Expectation where
  | identifier
  | expression
  | aliasIdentifier
  | argumentName
  | simpleIdentifier
  | openParen
  | closeParen
  | closeBracket
  | closeAngle
  | radixDigits
  | exponentDigits
deriving Repr, DecidableEq, Inhabited

/-- What an expectation is called behind the word "expected". -/
def Expectation.describe : Expectation → String
  | .identifier => "an identifier"
  | .expression => "an expression"
  | .aliasIdentifier => "an identifier before '::'"
  | .argumentName => "an argument name"
  | .simpleIdentifier => "a simple identifier"
  | .openParen => "'('"
  | .closeParen => "')'"
  | .closeBracket => "']'"
  | .closeAngle => "'>'"
  | .radixDigits => "hexadecimal or binary digits"
  | .exponentDigits => "exponent digits"

/-- Why a text is not the fragment it was read as. -/
inductive ParseError where
  /-- A character that starts no token. -/
  | unexpectedChar (char : Char) (pos : Position)
  /-- A string literal without its closing quote. -/
  | unterminatedString (pos : Position)
  /-- A character literal without its closing apostrophe. -/
  | unterminatedChar (pos : Position)
  /-- A backslash before a character that starts no escape sequence. -/
  | invalidEscape (char : Char) (pos : Position)
  /-- A token where another one was needed. -/
  | expected (what : Expectation) (found : String) (pos : Position)
  /-- A reserved word where an identifier was needed. -/
  | reservedKeyword (word : String) (role : NameRole) (pos : Position)
  /-- More text behind a complete fragment. -/
  | trailingInput (found : String) (parsed : FragmentKind) (pos : Position)
  /-- An assignment to something that is not a plain name. -/
  | invalidAssignmentTarget (found : String) (pos : Position)
  /-- No token at all. -/
  | emptyInput
deriving Repr, DecidableEq, Inhabited

namespace ParseError

/-- Where the error showed. An empty text has no place to point at. -/
def position? : ParseError → Option Position
  | .unexpectedChar _ pos => some pos
  | .unterminatedString pos => some pos
  | .unterminatedChar pos => some pos
  | .invalidEscape _ pos => some pos
  | .expected _ _ pos => some pos
  | .reservedKeyword _ _ pos => some pos
  | .trailingInput _ _ pos => some pos
  | .invalidAssignmentTarget _ pos => some pos
  | .emptyInput => none

/-- The error in words, without its place. -/
def cause : ParseError → String
  | .unexpectedChar c _ => "unexpected character '" ++ c.toString ++ "'"
  | .unterminatedString _ => "unterminated string literal"
  | .unterminatedChar _ => "unterminated character literal"
  | .invalidEscape c _ => "invalid escape sequence '\\" ++ c.toString ++ "'"
  | .expected what found _ => "expected " ++ what.describe ++ ", found " ++ found
  | .reservedKeyword word role _ =>
    "'" ++ word ++ "' is a reserved keyword and cannot be used as " ++ role.describe
  | .trailingInput found parsed _ => "unexpected " ++ found ++ " after " ++ parsed.describe
  | .invalidAssignmentTarget found _ =>
    "left side of an assignment must be a name, found '" ++ found ++ "'"
  | .emptyInput => "empty input"

def message (e : ParseError) : String :=
  match e.position? with
  | some pos => e.cause ++ " at " ++ pos.describe
  | none => e.cause

end ParseError

end DeclScribe
