import DeclScribe.Fragment.Parser

/-!
# Fragments as whole texts

A text is a fragment of a kind when its tokens, all of them, are one. A text without tokens is no
fragment of any kind, and tokens left over behind a complete fragment are an error of their own.
-/

set_option autoImplicit false

namespace DeclScribe

/-- Reads a whole text with a parsing step. -/
def Parser.whole {α : Type} (kind : FragmentKind)
    (step : Position → (ahead : List Token) → Except ParseError (α × Fewer ahead))
    (text : String) : Except ParseError α :=
  match tokenize text with
  | .error e => .error e
  | .ok ⟨[], _⟩ => .error .emptyInput
  | .ok ⟨t :: rest, stop⟩ =>
    match step stop (t :: rest) with
    | .error e => .error e
    | .ok (value, ⟨[], _⟩) => .ok value
    | .ok (_, ⟨extra :: _, _⟩) => .error (.trailingInput extra.describe kind extra.pos)

def Name.parse (text : String) : Except ParseError Name :=
  Parser.whole .name Parser.name text

def TypeRef.parse (text : String) : Except ParseError TypeRef :=
  Parser.whole .type Parser.typeRef text

def Expr.parse (text : String) : Except ParseError Expr :=
  Parser.whole .expression Parser.expression text

/-- Reads a text as a name that must be one plain identifier; `what` says what it is to be. -/
def Name.parseIdentifier (what : Expectation) (text : String) : Except ParseError String :=
  match Name.parse text with
  | .error e => .error e
  | .ok (.identifier word) => .ok word
  | .ok other => .error (.expected what ("'" ++ other.print ++ "'") .start)

end DeclScribe
