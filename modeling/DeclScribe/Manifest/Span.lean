import DeclScribe.Text.Classes

/-!
# Places of texts in a document

A span is a place in a document, counted in UTF-8 bytes. Values are looked for by their text,
between quotes first, and keys by a line that starts with them. A search starts at an offset and,
for values, falls back to the whole document.
-/

set_option autoImplicit false

namespace DeclScribe

/-- A stretch of a text: where it starts and how long it is, in bytes. -/
structure Span where
  offset : Nat
  length : Nat
deriving Repr, DecidableEq, Inhabited

namespace Span

/-- The number of bytes of a text. -/
def byteLength : List Char → Nat
  | [] => 0
  | c :: rest => c.utf8Size + byteLength rest

/-- The text behind a number of bytes, unless they end inside a character or behind the text. -/
def dropBytes? : List Char → Nat → Option (List Char)
  | text, 0 => some text
  | [], _ + 1 => none
  | c :: rest, n + 1 =>
    if c.utf8Size ≤ n + 1 then dropBytes? rest (n + 1 - c.utf8Size) else none

/-- The number of bytes before the first place where a text occurs in another one. -/
def first? (wanted : List Char) : List Char → Option Nat
  | [] => if wanted.isEmpty then some 0 else none
  | c :: rest =>
    if wanted.isPrefixOf (c :: rest) then some 0
    else (first? wanted rest).map (· + c.utf8Size)

/-- The number of bytes before the last place where a text occurs in another one. -/
def last? (wanted : List Char) : List Char → Option Nat
  | [] => if wanted.isEmpty then some 0 else none
  | c :: rest =>
    match last? wanted rest with
    | some n => some (n + c.utf8Size)
    | none => if wanted.isPrefixOf (c :: rest) then some 0 else none

/-- A text between quotes. -/
def quoted (text : List Char) : List Char :=
  '"' :: (text ++ ['"'])

/-- The first place of a value at or behind an offset, with quotes around it if possible. -/
def valueFrom? (source value : List Char) (start : Nat) : Option Span :=
  let tail := (dropBytes? source start).getD []
  match first? (quoted value) tail with
  | some n => some ⟨start + n + 1, byteLength value⟩
  | none => (first? value tail).map fun n => ⟨start + n, byteLength value⟩

/-- The place of a value, at or behind an offset if possible. -/
def value? (source value : List Char) (start : Nat) : Option Span :=
  if value.isEmpty then none
  else
    match valueFrom? source value start with
    | some span => some span
    | none => if start = 0 then none else valueFrom? source value 0

/-- The last place of a value with quotes around it. -/
def lastValue? (source value : List Char) : Option Span :=
  (last? (quoted value) source).map fun n => ⟨n + 1, byteLength value⟩

/-- The lines of a text, each with its line feed. -/
def lines : List Char → List (List Char)
  | [] => []
  | c :: rest =>
    if c = '\n' then [c] :: lines rest
    else
      match lines rest with
      | [] => [[c]]
      | line :: more => (c :: line) :: more

/-- Text behind the blanks at its front. -/
def trimStart (text : List Char) : List Char :=
  text.dropWhile Text.isBlank

/-- Whether a line without blanks at its front is the entry of a key. -/
def isEntry (key line : List Char) : Bool :=
  key.isPrefixOf line && (trimStart (line.drop key.length)).head? == some '='

/-- The place of a key in the first of the lines that is its entry and starts at or behind an
offset, blanks skipped. -/
def keyInLines? (key : List Char) (start : Nat) : Nat → List (List Char) → Option Span
  | _, [] => none
  | offset, line :: rest =>
    let trimmed := trimStart line
    let place := offset + (byteLength line - byteLength trimmed)
    if start ≤ place ∧ isEntry key trimmed then some ⟨place, byteLength key⟩
    else keyInLines? key start (offset + byteLength line) rest

/-- The place of a key at the start of a line at or behind an offset. -/
def key? (source key : List Char) (start : Nat) : Option Span :=
  keyInLines? key start 0 (lines source)

end Span

end DeclScribe
