import DeclScribe.Layout
import Mathlib.Tactic.Common

/-!
# The text of a layout

The writer appends: what a piece of layout comes to depends on the indentation and on how many
blocks are open around it, and on nothing that was written before. That text is given here piece by
piece, and shown to be what the writer puts behind its text.
-/

set_option autoImplicit false

namespace DeclScribe

namespace Layout

/-- The indentation of a line with a number of blocks around it. -/
def margin (unit : String) (depth : Nat) : List Char :=
  (List.replicate depth unit.toList).flatten

/-- A line with a number of blocks around it. -/
def writtenLine (unit : String) (depth : Nat) (text : String) : List Char :=
  margin unit depth ++ (text.toList ++ ['\n'])

mutual

/-- The text of a piece of layout with a number of blocks around it. -/
def written (unit : String) (depth : Nat) : Layout → List Char
  | .line text => writtenLine unit depth text
  | .blank => ['\n']
  | .block header body close =>
    writtenLine unit depth header ++ (writtenAll unit (depth + 1) body ++
      match close with
      | some text => writtenLine unit depth text
      | none => [])
  | .sequence parts => writtenAll unit depth parts

/-- The text of several pieces of layout, one behind the other. -/
def writtenAll (unit : String) (depth : Nat) : List Layout → List Char
  | [] => []
  | part :: rest => written unit depth part ++ writtenAll unit depth rest

end

/-- Pieces one behind the other are written one behind the other. -/
theorem writtenAll_append (unit : String) (depth : Nat) (parts more : List Layout) :
    writtenAll unit depth (parts ++ more) =
      writtenAll unit depth parts ++ writtenAll unit depth more := by
  induction parts with
  | nil => rfl
  | cons part rest ih => rw [List.cons_append, writtenAll, writtenAll, ih, List.append_assoc]

/-- One piece alone is written as itself. -/
theorem writtenAll_singleton (unit : String) (depth : Nat) (part : Layout) :
    writtenAll unit depth [part] = written unit depth part := by
  rw [writtenAll, writtenAll, List.append_nil]

end Layout

namespace Writer

open Layout (margin writtenLine written writtenAll)

/-- The writer with more text behind what it has written. -/
def append (w : Writer) (text : List Char) : Writer :=
  { w with text := w.text ++ String.ofList text }

/-- Writing does not change the unit of indentation. -/
@[simp] theorem append_unit (w : Writer) (text : List Char) : (w.append text).unit = w.unit := rfl

/-- Writing does not change the depth. -/
@[simp] theorem append_depth (w : Writer) (text : List Char) :
    (w.append text).depth = w.depth := rfl

/-- Writing nothing changes nothing. -/
theorem append_nil (w : Writer) : w.append [] = w := by
  simp [append]

/-- Texts one behind the other can be written in one go. -/
theorem append_append (w : Writer) (text more : List Char) :
    (w.append text).append more = w.append (text ++ more) := by
  simp [append, String.append_assoc]

/-- The margin of a line is as many units as the depth says. -/
theorem indented_eq (text unit : String) (depth : Nat) :
    indented text unit depth = text ++ String.ofList (margin unit depth) := by
  induction depth generalizing text with
  | zero => simp [indented, margin]
  | succ depth ih =>
    rw [indented, ih]
    simp [margin, List.replicate_succ, String.append_assoc]

/-- A line is written with its margin and its end. -/
theorem line_eq (w : Writer) (text : String) :
    w.line text = w.append (writtenLine w.unit w.depth text) := by
  have hbreak : String.ofList ['\n'] = "\n" := rfl
  rw [line, append, writtenLine, indented_eq, String.ofList_append, String.ofList_append,
    String.ofList_toList, hbreak, String.append_assoc, String.append_assoc]

mutual

/-- A piece is written at the depth it is met at, which a block restores. The induction is on the
layout, together with the one on several pieces. -/
theorem put_eq (w : Writer) (part : Layout) :
    w.put part = w.append (written w.unit w.depth part) := by
  match part with
  | .line text => rw [put, written, line_eq]
  | .blank => rfl
  | .block header body close =>
    have hinner : ((w.line header).deeper.putAll body).shallower =
        w.append (writtenLine w.unit w.depth header ++ writtenAll w.unit (w.depth + 1) body) := by
      rw [putAll_eq, line_eq]
      simp [deeper, shallower, append, String.append_assoc]
    cases close with
    | none => rw [put, written, hinner, List.append_nil]
    | some text =>
      rw [put, written, hinner, line_eq, append_append, List.append_assoc, append_unit,
        append_depth]
  | .sequence parts => rw [put, written, putAll_eq]

/-- Several pieces are written at the depth of the first one. -/
theorem putAll_eq (w : Writer) (parts : List Layout) :
    w.putAll parts = w.append (writtenAll w.unit w.depth parts) := by
  match parts with
  | [] => rw [putAll, writtenAll, append_nil]
  | part :: rest =>
    rw [putAll, writtenAll, putAll_eq, put_eq, append_unit, append_depth, append_append]

end

end Writer

/-- A rendered layout is the text of its pieces, outside of all blocks. -/
theorem Layout.toList_render (indent : Indent) (parts : List Layout) :
    (Layout.render indent parts).toList = writtenAll indent.unit 0 parts := by
  rw [render, Writer.putAll_eq]
  simp [Writer.new, Writer.append]

end DeclScribe
