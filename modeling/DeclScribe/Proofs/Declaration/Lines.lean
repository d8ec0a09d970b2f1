import DeclScribe.Proofs.Fragment.Containment
import DeclScribe.Proofs.Layout

/-!
# Lines with braces

Declarations are laid out in lines, and braces stand on lines of their own or within one line. Code
is balanced when its brackets are nested, and its opening braces are counted. Balanced lines stay
balanced when they are put one below the other or into the body of a block, however they are
indented, and their braces add up.
-/

set_option autoImplicit false

namespace DeclScribe

open Lexer (startsWith)
open Text (blanked literalMarks IsClosed IsCode IsComplete IsNested bracketsOf)

/-! ## Nested code -/

/-- The brackets that declarations are written with. -/
def unitBrackets : List (Char × Char) :=
  [('\x7b', '\x7d'), ('(', ')'), ('[', ']')]

/-- Code that is nested and opens a number of braces. -/
structure IsBalanced (braces : Nat) (shown : List Char) : Prop where
  nested : IsNested unitBrackets shown
  count : shown.count '\x7b' = braces

/-- Characters that are code and no brackets of declarations. -/
def ArePlain (text : List Char) : Prop :=
  ∀ c ∈ text, c ∉ literalMarks ++ bracketsOf unitBrackets

/-- Whether characters are plain can be decided. -/
instance (text : List Char) : Decidable (ArePlain text) :=
  List.decidableBAll (fun c => c ∉ literalMarks ++ bracketsOf unitBrackets) text

/-- Plain characters open no literal. -/
theorem ArePlain.isCode {text : List Char} (h : ArePlain text) : IsCode text :=
  fun c hc hmark => h c hc (List.mem_append_left _ hmark)

namespace IsBalanced

variable {braces moreBraces : Nat} {shown more : List Char}

/-- Balanced texts one behind the other are balanced, and their braces add up. -/
theorem append (h : IsBalanced braces shown) (hmore : IsBalanced moreBraces more) :
    IsBalanced (braces + moreBraces) (shown ++ more) where
  nested := h.nested.append hmore.nested
  count := by rw [List.count_append, h.count, hmore.count]

/-- Plain characters are no brackets. -/
theorem of_plain (h : ArePlain shown) : IsBalanced 0 shown := by
  have hother : ∀ c ∈ shown, c ∉ bracketsOf unitBrackets :=
    fun c hc hbracket => h c hc (List.mem_append_right _ hbracket)
  refine ⟨.of_other hother, List.count_eq_zero.mpr fun hbrace => ?_⟩
  exact absurd (by decide) (hother _ hbrace)

/-- A pair of braces around balanced code is one more. -/
theorem braced (h : IsBalanced braces shown) :
    IsBalanced (braces + 1) ('\x7b' :: (shown ++ ['\x7d'])) where
  nested := h.nested.enclosed (by decide)
  count := by simp [List.count_append, h.count]

end IsBalanced

/-- The code of a contained text is nested as code of declarations too, and has no braces. -/
theorem IsContained.isBalanced {text : List Char} (h : IsContained text) :
    IsBalanced 0 (blanked text) := by
  have hbrace : ∀ c ∈ blanked text, c ≠ '\x7b' ∧ c ≠ '\x7d' := by
    intro c hc
    refine ⟨?_, ?_⟩
    · rintro rfl
      exact absurd (by decide) (h.inert _ hc)
    · rintro rfl
      exact absurd (by decide) (h.inert _ hc)
  refine ⟨h.nested.restrict (by decide) ?_, List.count_eq_zero.mpr fun hmem => ?_⟩
  · intro c hc hbracket
    have hall : ((bracketsOf unitBrackets).all fun d =>
        d = '\x7b' ∨ d = '\x7d' ∨ d ∈ bracketsOf fragmentBrackets) = true := by
      decide
    obtain ⟨hopening, hclosing⟩ := hbrace c hc
    have hcases := of_decide_eq_true (List.all_eq_true.mp hall c hbracket)
    exact (hcases.resolve_left hopening).resolve_left hclosing
  · exact (hbrace _ hmem).1 rfl

/-! ## Lines -/

/-- A text on one line whose code is balanced and which leaves no literal open. -/
structure IsLine (braces : Nat) (text : List Char) : Prop where
  closed : IsClosed text
  balanced : IsBalanced braces (blanked text)

/-- Whole lines whose code is balanced. -/
structure AreLines (braces : Nat) (text : List Char) : Prop where
  complete : IsComplete text
  balanced : IsBalanced braces (blanked text)

/-- A contained text is a line without braces. -/
theorem IsContained.isLine {text : List Char} (h : IsContained text) : IsLine 0 text :=
  ⟨h.closed, h.isBalanced⟩

namespace IsLine

variable {braces moreBraces : Nat} {text more : List Char}

/-- Two texts make a line unless the second one continues a literal of the first, as a quote behind
a verbatim string does. -/
theorem append (h : IsLine braces text) (hmore : IsLine moreBraces more)
    (hstart : startsWith (· == '"') more = false) :
    IsLine (braces + moreBraces) (text ++ more) where
  closed := h.closed.append hmore.closed hstart
  balanced := by
    rw [h.closed.blanked_append hstart]
    exact h.balanced.append hmore.balanced

/-- Plain characters make a line. -/
theorem of_plain (h : ArePlain text) : IsLine 0 text := by
  obtain ⟨hclosed, hshown⟩ := blanked_of_code h.isCode
  exact ⟨hclosed, hshown.symm ▸ .of_plain h⟩

/-- Plain characters in front of a line change neither its braces nor where its literals are. -/
theorem plain_append (front : List Char) (h : IsLine braces text)
    (hfront : ArePlain front) : IsLine braces (front ++ text) := by
  have hcode := hfront.isCode
  refine ⟨(Text.isComplete_of_code hcode).append_closed h.closed, ?_⟩
  have hboth := (IsBalanced.of_plain hfront).append h.balanced
  rw [Nat.zero_add] at hboth
  rw [Text.blanked_append_of_code hcode]
  exact hboth

/-- Characters that end a declaration stand behind a text that leaves no literal open. -/
theorem append_plain (h : IsLine braces text) (behind : List Char) (hbehind : ArePlain behind)
    (hstart : startsWith (· == '"') behind = false) : IsLine braces (text ++ behind) :=
  h.append (.of_plain hbehind) hstart

/-- A semicolon ends a line. -/
theorem ended (h : IsLine braces text) : IsLine braces (text ++ [';']) :=
  h.append_plain _ (by decide) rfl

/-- A pair of braces closes whatever is inside it. -/
theorem braced (h : IsLine braces text) : AreLines (braces + 1) ('\x7b' :: (text ++ ['\x7d'])) := by
  have hopen : IsCode ['\x7b'] := by decide
  have hclose : IsCode ['\x7d'] := by decide
  have hshown : blanked ('\x7b' :: (text ++ ['\x7d'])) = '\x7b' :: (blanked text ++ ['\x7d']) := by
    rw [Text.blanked_cons (by decide), h.closed.blanked_append rfl, (blanked_of_code hclose).2]
  refine ⟨(Text.isComplete_of_code hopen).append
    (h.closed.append_complete (Text.isComplete_of_code hclose) (by simp) rfl), ?_⟩
  rw [hshown]
  exact h.balanced.braced

end IsLine

namespace AreLines

variable {braces moreBraces : Nat} {text more : List Char}

/-- Whole lines are a line as far as brackets go. -/
theorem isLine (h : AreLines braces text) : IsLine braces text :=
  ⟨h.complete.isClosed, h.balanced⟩

/-- No text is no lines. -/
theorem nil : AreLines 0 [] :=
  ⟨Text.isComplete_of_code (List.forall_mem_nil _), .of_plain (List.forall_mem_nil _)⟩

/-- Lines below lines are lines, and their braces add up. -/
theorem append (h : AreLines braces text) (hmore : AreLines moreBraces more) :
    AreLines (braces + moreBraces) (text ++ more) where
  complete := h.complete.append hmore.complete
  balanced := by
    rw [h.complete]
    exact h.balanced.append hmore.balanced

/-- Plain characters, line breaks among them, are lines. -/
theorem of_plain (h : ArePlain text) : AreLines 0 text :=
  ⟨Text.isComplete_of_code h.isCode,
    (blanked_of_code h.isCode).2.symm ▸ .of_plain h⟩

/-- A line ends with its line break. -/
theorem of_isLine (h : IsLine braces text) : AreLines braces (text ++ ['\n']) where
  complete := h.closed.append_complete (Text.isComplete_of_code (by decide)) (by simp) rfl
  balanced := (h.append_plain ['\n'] (by decide) rfl).balanced

end AreLines

/-! ## Layouts -/

namespace Layout

/-- A layout whose lines are balanced, wherever it stands and however it is indented. -/
def HasBraces (braces : Nat) (parts : List Layout) : Prop :=
  ∀ (indent : Indent) (depth : Nat), AreLines braces (writtenAll indent.unit depth parts)

/-- The margin of a line is white space. -/
theorem arePlain_margin (indent : Indent) (depth : Nat) : ArePlain (margin indent.unit depth) := by
  have hunit : ArePlain indent.unit.toList := by
    unfold Indent.unit
    split
    all_goals decide
  intro c hc
  obtain ⟨unit, hunitMem, hc⟩ := List.mem_flatten.mp hc
  rw [List.eq_of_mem_replicate hunitMem] at hc
  exact hunit c hc

/-- A line stays balanced when it is written behind its margin. -/
theorem areLines_writtenLine {braces : Nat} {text : String} (h : IsLine braces text.toList)
    (indent : Indent) (depth : Nat) : AreLines braces (writtenLine indent.unit depth text) := by
  have hline := AreLines.of_isLine (h.plain_append _ (arePlain_margin indent depth))
  rw [List.append_assoc] at hline
  exact hline

namespace HasBraces

variable {braces moreBraces : Nat} {parts more : List Layout}

/-- No pieces have no braces. -/
theorem nil : HasBraces 0 [] :=
  fun _ _ => .nil

/-- Pieces behind pieces have the braces of both. -/
theorem append (h : HasBraces braces parts) (hmore : HasBraces moreBraces more) :
    HasBraces (braces + moreBraces) (parts ++ more) := by
  intro indent depth
  rw [writtenAll_append]
  exact (h indent depth).append (hmore indent depth)

/-- A line that is balanced is a piece with its braces. -/
theorem line {text : String} (h : IsLine braces text.toList) : HasBraces braces [.line text] := by
  intro indent depth
  rw [writtenAll_singleton, written]
  exact areLines_writtenLine h indent depth

/-- A blank line has no braces. -/
theorem blank : HasBraces 0 [.blank] := by
  intro indent depth
  rw [writtenAll_singleton, written]
  exact .of_plain (by decide)

/-- A header and a body in braces have one more pair of braces. -/
theorem braced {header : String} (hheader : IsLine 0 header.toList) (h : HasBraces braces parts) :
    HasBraces (braces + 1) [.braced header parts] := by
  intro indent depth
  have hmargin := arePlain_margin indent depth
  -- Between the braces stand the end of one line, the body and the margin of the last line.
  have hinside : AreLines braces ('\n' :: (writtenAll indent.unit (depth + 1) parts ++
      margin indent.unit depth)) := by
    have hbreak : AreLines 0 ['\n'] := .of_plain (by decide)
    have hall := hbreak.append ((h indent (depth + 1)).append (.of_plain hmargin))
    rw [Nat.add_zero, Nat.zero_add] at hall
    exact hall
  have hend : AreLines 0 ['\n'] := .of_plain (by decide)
  have hwhole := (areLines_writtenLine hheader indent depth).append
    ((AreLines.of_plain hmargin).append (hinside.isLine.braced.append hend))
  rw [Nat.add_zero, Nat.zero_add, Nat.zero_add] at hwhole
  have htext : writtenAll indent.unit depth [.braced header parts] =
      writtenLine indent.unit depth header ++ (margin indent.unit depth ++
        ('\x7b' :: ('\n' :: (writtenAll indent.unit (depth + 1) parts ++
          margin indent.unit depth) ++ ['\x7d']) ++ ['\n'])) := by
    simp [Layout.braced, writtenAll, written, writtenLine]
  rw [htext]
  exact hwhole

end HasBraces

end Layout

end DeclScribe
