import DeclScribe.Fragment.ParseError
import DeclScribe.Text.Classes
import DeclScribe.Token
import DeclScribe.Token.Numeral

/-!
# Reading tokens

`tokenize` splits a text into tokens from left to right. White space between tokens is skipped and
never changes what a token is. Each reader below looks at the text behind the first character of a
token and returns the characters it takes, so that the text is always the taken part followed by
what is left; a reader that fails says how much it had read, and the place of the error is the
place of the token moved over that much.
-/

set_option autoImplicit false

namespace DeclScribe

namespace Lexer

/-- What stops the reading of a token. -/
inductive Obstacle where
  /-- No token starts or continues with this character. -/
  | unexpected (char : Char)
  /-- A string literal is open where the text or the line ends. -/
  | openString
  /-- A character literal is not closed behind its one character. -/
  | openChar
  /-- The text ends behind a backslash. -/
  | openEscape
  /-- No escape sequence starts with this character, or its digits are missing. -/
  | invalidEscape (char : Char)
  /-- Digits are missing before this character, or before the end of the text. -/
  | noDigits (what : Expectation) (found : Option Char)
deriving Repr, DecidableEq, Inhabited

/-- A failed reading: the obstacle and the text of the token that was read up to it. -/
structure Fault where
  obstacle : Obstacle
  read : List Char
deriving Repr, DecidableEq, Inhabited

/-- The same failure, seen from further left. -/
def Fault.behind (fault : Fault) (text : List Char) : Fault :=
  ⟨fault.obstacle, text ++ fault.read⟩

/-- The error a failure amounts to in a token that starts at `start`. An open literal is reported
where it opens, anything else where the reading stopped. -/
def Fault.toError (fault : Fault) (start : Position) : ParseError :=
  let here := start.after fault.read
  match fault.obstacle with
  | .unexpected c => .unexpectedChar c here
  | .openString => .unterminatedString start
  | .openChar => .unterminatedChar start
  | .openEscape => .unterminatedString here
  | .invalidEscape c => .invalidEscape c here
  | .noDigits what none => .expected what endOfInput here
  | .noDigits what (some c) => .expected what ("'" ++ c.toString ++ "'") here

/-- A reader's answer: the characters it takes, or its failure. -/
abbrev Taken := Except Fault (List Char)

/-- The characters that make a complete escape sequence behind a backslash. -/
def simpleEscapes : List Char :=
  ['\'', '"', '\\', '0', 'a', 'b', 'f', 'n', 'r', 't', 'v']

/-- How many hexadecimal digits an escape letter needs at least and takes at most. -/
def escapeDigits? : Char → Option (Nat × Nat)
  | 'u' => some (4, 4)
  | 'U' => some (8, 8)
  | 'x' => some (1, 4)
  | _ => none

/-- The escape sequence behind a backslash. -/
def escape : List Char → Taken
  | [] => .error ⟨.openEscape, []⟩
  | c :: rest =>
    if simpleEscapes.contains c then .ok [c]
    else
      match escapeDigits? c with
      | none => .error ⟨.invalidEscape c, []⟩
      | some (least, most) =>
        let digits := (rest.take most).takeWhile Radix.hexadecimal.isDigit
        if digits.length < least then .error ⟨.invalidEscape c, []⟩ else .ok (c :: digits)

/-- A string literal behind its opening quote, closing quote included. -/
def stringTail : List Char → Taken
  | [] => .error ⟨.openString, []⟩
  | c :: rest =>
    if c = '\n' then .error ⟨.openString, []⟩
    else if c = '"' then .ok [c]
    else if c = '\\' then
      match escape rest with
      | .error fault => .error (fault.behind [c])
      | .ok sequence =>
        match stringTail (rest.drop sequence.length) with
        | .error fault => .error (fault.behind (c :: sequence))
        | .ok more => .ok (c :: (sequence ++ more))
    else
      match stringTail rest with
      | .error fault => .error (fault.behind [c])
      | .ok more => .ok (c :: more)
termination_by text => text.length
decreasing_by
  · simp only [List.length_drop, List.length_cons]
    omega
  · simp

/-- A verbatim string behind its opening quote, closing quote included: two quotes stand for one
and every other character for itself. -/
def verbatimTail : List Char → Taken
  | [] => .error ⟨.openString, []⟩
  | '"' :: '"' :: rest =>
    match verbatimTail rest with
    | .error fault => .error (fault.behind ['"', '"'])
    | .ok more => .ok ('"' :: '"' :: more)
  | c :: rest =>
    if c = '"' then .ok [c]
    else
      match verbatimTail rest with
      | .error fault => .error (fault.behind [c])
      | .ok more => .ok (c :: more)

/-- The closing apostrophe of a character literal whose body was `body`. -/
def closeChar (body rest : List Char) : Taken :=
  match rest with
  | '\'' :: _ => .ok (body ++ ['\''])
  | _ => .error ⟨.openChar, body⟩

/-- A character literal behind its opening apostrophe, closing apostrophe included. -/
def charTail : List Char → Taken
  | [] => .error ⟨.openChar, []⟩
  | c :: rest =>
    if c = '\n' ∨ c = '\'' then .error ⟨.openChar, []⟩
    else if c = '\\' then
      match escape rest with
      | .error fault => .error (fault.behind [c])
      | .ok sequence => closeChar (c :: sequence) (rest.drop sequence.length)
    else closeChar [c] rest

/-- A number without its suffix, and whether it has a fraction or an exponent. -/
def numberBody (text : List Char) : Except Fault (List Char × Bool) :=
  match Radix.announced? text with
  | some radix =>
    let digits := radix.run (text.drop 2)
    let body := text.take 2 ++ digits
    if radix.hasDigit digits then .ok (body, false)
    else .error ⟨.noDigits .radixDigits (text.drop body.length).head?, body⟩
  | none =>
    let whole := Radix.decimal.run text
    let fraction := Numeral.fraction (text.drop whole.length)
    let significand := whole ++ fraction
    let exponent := Numeral.exponent (text.drop significand.length)
    let body := significand ++ exponent
    if exponent.isEmpty then .ok (body, !fraction.isEmpty)
    else if Radix.decimal.hasDigit exponent then .ok (body, true)
    else .error ⟨.noDigits .exponentDigits (text.drop body.length).head?, body⟩

/-- A number with its suffix. An identifier character directly behind it spoils it. -/
def number (text : List Char) : Taken :=
  match numberBody text with
  | .error fault => .error fault
  | .ok (body, isReal) =>
    let isDecimal := (Radix.announced? text).isNone
    let lexeme := body ++ Numeral.suffix isDecimal isReal (text.drop body.length)
    match text.drop lexeme.length with
    | c :: _ => if isIdentifierPart c then .error ⟨.unexpected c, lexeme⟩ else .ok lexeme
    | [] => .ok lexeme

/-- Whether a text goes on with a character of some class. -/
def startsWith (p : Char → Bool) : List Char → Bool
  | c :: _ => p c
  | [] => false

/-- One token: its kind and the characters behind its first one. -/
def token (first : Char) (rest : List Char) : Except Fault (TokenKind × List Char) :=
  if first = '.' ∧ startsWith Radix.decimal.isDigit rest then
    (number (first :: rest)).map fun lexeme => (.number, lexeme.tail)
  else
    match TokenKind.ofChar? first with
    | some kind => .ok (kind, [])
    | none =>
      if first = ':' ∧ startsWith (· == ':') rest then .ok (.doubleColon, [':'])
      else if first = '"' then
        match stringTail rest with
        | .error fault => .error (fault.behind [first])
        | .ok more => .ok (.string, more)
      else if first = '\'' then
        match charTail rest with
        | .error fault => .error (fault.behind [first])
        | .ok more => .ok (.char, more)
      else if first = '@' ∧ startsWith (· == '"') rest then
        match verbatimTail rest.tail with
        | .error fault => .error (fault.behind [first, '"'])
        | .ok more => .ok (.string, '"' :: more)
      else if first = '@' ∧ startsWith isIdentifierStart rest then
        .ok (.identifier, rest.takeWhile isIdentifierPart)
      else if Radix.decimal.isDigit first then
        (number (first :: rest)).map fun lexeme => (.number, lexeme.tail)
      else if isIdentifierStart first then
        .ok (.identifier, rest.takeWhile isIdentifierPart)
      else .error ⟨.unexpected first, []⟩

/-- The tokens of a text that starts at `pos`. -/
def tokensFrom (pos : Position) : List Char → Except ParseError TokenStream
  | [] => .ok ⟨[], pos⟩
  | c :: rest =>
    if Text.isBlank c then tokensFrom (pos.next c) rest
    else
      match token c rest with
      | .error fault => .error (fault.toError pos)
      | .ok (kind, more) =>
        match tokensFrom (pos.after (c :: more)) (rest.drop more.length) with
        | .error e => .error e
        | .ok stream =>
          .ok ⟨⟨kind, String.ofList (c :: more), pos⟩ :: stream.tokens, stream.stop⟩
termination_by text => text.length
decreasing_by
  · simp
  · simp only [List.length_drop, List.length_cons]
    omega

end Lexer

def tokenize (text : String) : Except ParseError TokenStream :=
  Lexer.tokensFrom .start text.toList

end DeclScribe
