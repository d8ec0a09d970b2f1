import DeclScribe.Proofs.Layout

/-!
# The rows of a layout

A layout is a list of rows in disguise: each of its lines stands in a row of its own, behind one
unit of indentation for every block around it, and a blank line is a row without indentation. Which
rows there are, and how many blocks are around each of them, does not depend on the indentation. So
a writer that is given several layouts in turn writes the rows of all of them, one behind the other,
and two indentations differ in nothing but the units in front of the rows.
-/

set_option autoImplicit false

namespace DeclScribe

/-- A row of written text: a line with a number of blocks around it, or an empty one. -/
inductive Row where
  | line (depth : Nat) (text : String)
  | blank
deriving Repr, DecidableEq

namespace Row

/-- How many units of indentation stand in front of a row. -/
def depth : Row → Nat
  | .line depth _ => depth
  | .blank => 0

/-- What stands behind the indentation, line feed included. -/
def body : Row → List Char
  | .line _ text => text.toList ++ ['\n']
  | .blank => ['\n']

/-- The row as it is written: one unit for each block around it, then its body. -/
def written (unit : String) (row : Row) : List Char :=
  Layout.margin unit row.depth ++ row.body

/-- What is left of the text of rows when the indentation of each of them is taken away. -/
def unindented (unit : String) : List Row → List Char → List Char
  | [], text => text
  | row :: rest, text =>
    let behind := text.drop (row.depth * unit.length)
    behind.take row.body.length ++ unindented unit rest (behind.drop row.body.length)

/-- A margin is as long as its units are together. -/
theorem length_margin (unit : String) (depth : Nat) :
    (Layout.margin unit depth).length = depth * unit.length := by
  simp [Layout.margin, String.length_toList]

/-- A row without its margin is its body. -/
theorem drop_written (unit : String) (row : Row) (more : List Char) :
    (row.written unit ++ more).drop (row.depth * unit.length) = row.body ++ more := by
  rw [written, List.append_assoc, ← length_margin, List.drop_left]

/-- Without their indentation rows are their bodies, whatever the unit was. -/
theorem unindented_written (unit : String) (rows : List Row) :
    unindented unit rows (rows.flatMap (written unit)) = rows.flatMap body := by
  induction rows with
  | nil => rfl
  | cons row rest ih =>
    rw [List.flatMap_cons, List.flatMap_cons, unindented, drop_written]
    simp only [List.take_left, List.drop_left, ih]

end Row

namespace Layout

mutual

/-- The rows of a piece of layout with a number of blocks around it. A block adds one to what is
around its body, and has a closing row only if it has a closing line; a sequence adds nothing. -/
def rows (depth : Nat) : Layout → List Row
  | .line text => [.line depth text]
  | .blank => [.blank]
  | .block header body close =>
    .line depth header :: (rowsAll (depth + 1) body ++ (close.map (Row.line depth)).toList)
  | .sequence parts => rowsAll depth parts

/-- The rows of several pieces of layout, one behind the other. -/
def rowsAll (depth : Nat) : List Layout → List Row
  | [] => []
  | part :: rest => rows depth part ++ rowsAll depth rest

end

mutual

/-- A piece of layout is written row by row. The induction is on the layout, together with the one
on several pieces. -/
theorem written_eq_flatMap_rows (unit : String) (depth : Nat) (part : Layout) :
    written unit depth part = (rows depth part).flatMap (Row.written unit) := by
  match part with
  | .line text => simp [written, rows, writtenLine, Row.written, Row.depth, Row.body]
  | .blank => simp [written, rows, Row.written, Row.depth, Row.body, margin]
  | .block header body none =>
    rw [written, rows, List.flatMap_cons, List.flatMap_append,
      writtenAll_eq_flatMap_rows unit (depth + 1) body]
    simp [writtenLine, Row.written, Row.depth, Row.body]
  | .block header body (some text) =>
    rw [written, rows, List.flatMap_cons, List.flatMap_append,
      writtenAll_eq_flatMap_rows unit (depth + 1) body]
    simp [writtenLine, Row.written, Row.depth, Row.body]
  | .sequence parts => rw [written, rows, writtenAll_eq_flatMap_rows unit depth parts]

/-- Several pieces of layout are written row by row. -/
theorem writtenAll_eq_flatMap_rows (unit : String) (depth : Nat) (parts : List Layout) :
    writtenAll unit depth parts = (rowsAll depth parts).flatMap (Row.written unit) := by
  match parts with
  | [] => rfl
  | part :: rest =>
    rw [writtenAll, rowsAll, List.flatMap_append, written_eq_flatMap_rows unit depth part,
      writtenAll_eq_flatMap_rows unit depth rest]

end

end Layout

namespace Writer

/-- Writes layouts in turn. -/
def putEach (w : Writer) (layouts : List (List Layout)) : Writer :=
  layouts.foldl putAll w

/-- Pieces can be written in two goes. -/
theorem putAll_append (w : Writer) (parts more : List Layout) :
    w.putAll (parts ++ more) = (w.putAll parts).putAll more := by
  rw [putAll_eq, putAll_eq, putAll_eq, append_append, append_unit, append_depth,
    Layout.writtenAll_append]

/-- Writing layouts in turn is writing them as one. -/
theorem putEach_eq_putAll_flatten (w : Writer) (layouts : List (List Layout)) :
    w.putEach layouts = w.putAll layouts.flatten := by
  induction layouts generalizing w with
  | nil => rw [List.flatten_nil, putAll]; rfl
  | cons parts rest ih =>
    rw [List.flatten_cons, putAll_append, ← ih]
    rfl

/-- Layouts that are written in turn leave the depth as it was. -/
theorem depth_putEach (w : Writer) (layouts : List (List Layout)) :
    (w.putEach layouts).depth = w.depth := by
  rw [putEach_eq_putAll_flatten, putAll_eq, append_depth]

/-- Layouts that are written in turn give the rows of all of them. -/
theorem toList_text_putEach (indent : Indent) (layouts : List (List Layout)) :
    ((new indent).putEach layouts).text.toList =
      (Layout.rowsAll 0 layouts.flatten).flatMap (Row.written indent.unit) := by
  rw [putEach_eq_putAll_flatten, ← Layout.writtenAll_eq_flatMap_rows]
  exact Layout.toList_render indent layouts.flatten

/-- A writer that is given layouts in turn writes the rows of all of them in order; no block is open
behind any of the layouts; they could have been given as one; and any other indentation leads to
the same text, once the indentation of the rows is taken away. -/
theorem writes_rows_in_turn (indent other : Indent) (layouts : List (List Layout)) :
    ((new indent).putEach layouts).text.toList =
        (Layout.rowsAll 0 layouts.flatten).flatMap (Row.written indent.unit) ∧
      (∀ count, ((new indent).putEach (layouts.take count)).depth = 0) ∧
      (new indent).putEach layouts = (new indent).putAll layouts.flatten ∧
      Row.unindented indent.unit (Layout.rowsAll 0 layouts.flatten)
          ((new indent).putEach layouts).text.toList =
        Row.unindented other.unit (Layout.rowsAll 0 layouts.flatten)
          ((new other).putEach layouts).text.toList := by
  refine ⟨toList_text_putEach indent layouts, ?_, putEach_eq_putAll_flatten _ _, ?_⟩
  · intro count
    rw [depth_putEach]
    rfl
  · rw [toList_text_putEach, toList_text_putEach, Row.unindented_written, Row.unindented_written]

example : ((new .tab).putEach [[.line "a"], [.block "b" [.line "c", .blank] none]]).text =
    "a\nb\n\tc\n\n" := by
  decide

end Writer

end DeclScribe
