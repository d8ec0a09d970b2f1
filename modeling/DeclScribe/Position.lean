/-!
# Places in a text

A place is kept three ways at once: as a count of UTF-8 bytes from the start, as a line and as a
column. All three are functions of the text that comes before the place, which is how they are
computed: `Position.after` walks that text one character at a time, and only a line feed starts a
new line.
-/

set_option autoImplicit false

namespace DeclScribe

/-- A place in a text. Bytes are counted from 0, lines and columns from 1. -/
structure Position where
  offset : Nat
  line : Nat
  column : Nat
deriving Repr, DecidableEq, Inhabited

namespace Position

/-- The place before the first character. -/
def start : Position := ⟨0, 1, 1⟩

/-- The place behind one more character. -/
def next (p : Position) (c : Char) : Position :=
  if c = '\n' then ⟨p.offset + c.utf8Size, p.line + 1, 1⟩
  else ⟨p.offset + c.utf8Size, p.line, p.column + 1⟩

/-- The place behind a run of characters. -/
def after (p : Position) (text : List Char) : Position :=
  text.foldl next p

def describe (p : Position) : String :=
  "line " ++ toString p.line ++ ", column " ++ toString p.column

theorem after_append (p : Position) (a b : List Char) :
    p.after (a ++ b) = (p.after a).after b := by
  simp [after]

end Position

end DeclScribe
