import DeclScribe.Position

/-!
# Tokens

The smallest pieces of a fragment that have a meaning. A token keeps the exact text it was read
from, quotes and escapes included, and the place where that text starts. The end of a text is no
token: it is the place where the reading stopped.
-/

set_option autoImplicit false

namespace DeclScribe

inductive TokenKind where
  | identifier | string | char | number
  | dot | comma | doubleColon
  | leftParen | rightParen | leftBracket | rightBracket | less | greater
  | question | equals | minus | plus | bang | tilde
deriving Repr, DecidableEq, Inhabited

/-- The kind of the tokens that are one fixed character. A dot is only one of them when no digit
follows, which the character alone cannot tell. -/
def TokenKind.ofChar? : Char → Option TokenKind
  | '.' => some .dot
  | ',' => some .comma
  | '(' => some .leftParen
  | ')' => some .rightParen
  | '[' => some .leftBracket
  | ']' => some .rightBracket
  | '<' => some .less
  | '>' => some .greater
  | '?' => some .question
  | '=' => some .equals
  | '-' => some .minus
  | '+' => some .plus
  | '!' => some .bang
  | '~' => some .tilde
  | _ => none

/-- A token: its kind, the text it was read from and the place where that text starts. -/
structure Token where
  kind : TokenKind
  lexeme : String
  pos : Position
deriving Repr, DecidableEq, Inhabited

def Token.describe (t : Token) : String :=
  "'" ++ t.lexeme ++ "'"

/-- How the end of a text reads in a message. -/
def endOfInput : String := "end of input"

/-- A text read as tokens: the tokens in order and the place where the text ends. -/
structure TokenStream where
  tokens : List Token
  stop : Position
deriving Repr, DecidableEq, Inhabited

end DeclScribe
