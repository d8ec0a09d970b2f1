import DeclScribe.Number.Reading

/-!
# The text of a literal, decoded

What a string or character literal stands for. In a regular literal a backslash starts an escape
sequence; in a verbatim string two quotes stand for one. An escape that names no Unicode scalar
value stands for nothing at all.
-/

set_option autoImplicit false

namespace DeclScribe.Decode

/-- The text between two delimiters, or all of it if it does not stand between them. -/
def inside (delimiter : Char) (text : List Char) : List Char :=
  match text with
  | [] => []
  | c :: rest =>
    if c = delimiter ∧ rest.getLast? = some delimiter then rest.dropLast else text

/-- The character with a code point, if it is a scalar value. -/
def scalar? (n : Nat) : Option Char :=
  if n < 0xd800 ∨ (0xdfff < n ∧ n < 0x110000) then some (Char.ofNat n) else none

/-- The hexadecimal digits at the front of a text, at most `most` of them. -/
def hexRun (most : Nat) (text : List Char) : List Char :=
  (text.take most).takeWhile fun c => (Number.value? 16 [c]).isSome

/-- The escape letters that a number of hexadecimal digits follows, at most so many. -/
def hexEscape? : Char → Option Nat
  | 'u' => some 4
  | 'U' => some 8
  | 'x' => some 4
  | _ => none

/-- What a letter behind a backslash stands for. Any other character stands for itself. -/
def escaped : Char → Char
  | '0' => '\x00'
  | 'a' => '\x07'
  | 'b' => '\x08'
  | 'f' => '\x0c'
  | 'n' => '\n'
  | 'r' => '\r'
  | 't' => '\t'
  | 'v' => '\x0b'
  | c => c

/-- The body of a regular literal with its escape sequences resolved. -/
def unescape : List Char → List Char
  | [] => []
  | [c] => [c]
  | c :: letter :: rest =>
    if c = '\\' then
      match hexEscape? letter with
      | some most =>
        let digits := hexRun most rest
        let value := (Number.valueFrom? 16 0 digits).getD 0
        (scalar? value).toList ++ unescape (rest.drop digits.length)
      | none => escaped letter :: unescape rest
    else c :: unescape (letter :: rest)
termination_by text => text.length
decreasing_by
  · simp only [List.length_drop, List.length_cons]
    omega
  · simp only [List.length_cons]
    omega
  · simp

/-- A text with every two quotes made one. -/
def undouble : List Char → List Char
  | '"' :: '"' :: rest => '"' :: undouble rest
  | c :: rest => c :: undouble rest
  | [] => []

/-- What a string literal stands for. -/
def string (token : List Char) : List Char :=
  match token with
  | '@' :: verbatim => undouble (inside '"' verbatim)
  | _ => unescape (inside '"' token)

/-- What a character literal stands for, if it stands for anything. -/
def char? (token : List Char) : Option Char :=
  (unescape (inside '\'' token)).head?

end DeclScribe.Decode
