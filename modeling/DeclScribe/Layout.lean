/-!
# Layout

Source text is described as a tree of lines, blank lines, blocks and sequences, and written out by
one writer that knows the indentation. Each enclosing block indents a line by one unit; a blank
line carries no indentation; a sequence adds nothing of its own.
-/

set_option autoImplicit false

namespace DeclScribe

/-- A piece of laid out text. -/
inductive Layout where
  /-- One line. -/
  | line (text : String)
  /-- An empty line. -/
  | blank
  /-- A header line, an indented body and a closing line if there is one. -/
  | block (header : String) (body : List Layout) (close : Option String)
  /-- Several pieces in order. -/
  | sequence (parts : List Layout)
deriving Repr, Inhabited

/-- A header line and a body in braces on lines of their own. -/
def Layout.braced (header : String) (body : List Layout) : Layout :=
  .sequence [.line header, .block "\x7b" body (some "\x7d")]

inductive Indent where
  | spaces (count : Nat)
  | tab
deriving Repr, DecidableEq, Inhabited

/-- The text of one level of indentation. Only two, four and eight spaces are in use: any other
count stands for four. -/
def Indent.unit : Indent → String
  | .spaces 2 => "  "
  | .spaces 8 => "        "
  | .spaces _ => "    "
  | .tab => "\t"

def Indent.standard : Indent := .spaces 4

/-- A text in the making: the indentation, how many blocks are open and what has been written. -/
structure Writer where
  unit : String
  depth : Nat
  text : String
deriving Repr, DecidableEq, Inhabited

namespace Writer

/-- A writer that has written nothing. -/
def new (indent : Indent) : Writer := ⟨indent.unit, 0, ""⟩

/-- The text with a unit appended to it a number of times. -/
def indented (text unit : String) : Nat → String
  | 0 => text
  | depth + 1 => indented (text ++ unit) unit depth

def line (w : Writer) (text : String) : Writer :=
  { w with text := indented w.text w.unit w.depth ++ text ++ "\n" }

def deeper (w : Writer) : Writer := { w with depth := w.depth + 1 }

def shallower (w : Writer) : Writer := { w with depth := w.depth - 1 }

mutual

def put (w : Writer) : Layout → Writer
  | .line text => w.line text
  | .blank => { w with text := w.text ++ "\n" }
  | .block header body close =>
    let inner := ((w.line header).deeper.putAll body).shallower
    match close with
    | some text => inner.line text
    | none => inner
  | .sequence parts => w.putAll parts

/-- Writes pieces of layout in order. -/
def putAll (w : Writer) : List Layout → Writer
  | [] => w
  | part :: rest => (w.put part).putAll rest

end

end Writer

def Layout.render (indent : Indent) (parts : List Layout) : String :=
  ((Writer.new indent).putAll parts).text

end DeclScribe
