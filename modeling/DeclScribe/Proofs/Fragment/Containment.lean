import DeclScribe.Proofs.Fragment.RoundTrip
import DeclScribe.Proofs.Token.Blanking

/-!
# Fragments stay in their place

A fragment is put into a declaration as it is printed. What is printed for a well-formed tree, its
literals aside, has no character that ends a declaration, a body or a line, closes every bracket
that it opens, and leaves no literal open. Each of these is kept when texts that have it are put one
behind the other or between brackets, and that is all that printing does. So whatever text a parser
accepts, the tree that it is read as stays in its place.
-/

set_option autoImplicit false

namespace DeclScribe

open Lexer (startsWith)
open Text (blanked literalMarks IsClosed IsNested bracketsOf)

/-! ## Contained texts -/

/-- The characters that end a declaration, a body or a line. -/
def slotEnds : List Char :=
  [';', '\x7b', '\x7d', '\n', '\x0b', '\x0c', '\r', '\u0085', '\u2028', '\u2029']

/-- The brackets that fragments are written with. -/
def fragmentBrackets : List (Char × Char) :=
  [('(', ')'), ('[', ']'), ('<', '>')]

/-- A text that does not reach out of the place it is put in. -/
structure IsContained (text : List Char) : Prop where
  closed : IsClosed text
  inert : ∀ c ∈ blanked text, c ∉ slotEnds
  nested : IsNested fragmentBrackets (blanked text)

/-- The characters that mean something to what stands around a fragment. -/
def specialChars : List Char :=
  literalMarks ++ slotEnds ++ bracketsOf fragmentBrackets

/-- Characters without any such meaning. -/
def AreOrdinary (text : List Char) : Prop :=
  ∀ c ∈ text, c ∉ specialChars

/-- Whether characters are ordinary can be decided. -/
instance (text : List Char) : Decidable (AreOrdinary text) :=
  List.decidableBAll (fun c => c ∉ specialChars) text

/-- A character that is not special opens no literal, ends no slot and is no bracket. -/
theorem notMem_specialChars_iff {c : Char} :
    c ∉ specialChars ↔ c ∉ literalMarks ∧ c ∉ slotEnds ∧ c ∉ bracketsOf fragmentBrackets := by
  rw [specialChars, List.mem_append, List.mem_append, not_or, not_or, and_assoc]

/-- Ordinary characters are code that ends nothing and is nested. -/
theorem AreOrdinary.parts {text : List Char} (h : AreOrdinary text) :
    Text.IsCode text ∧ (∀ c ∈ text, c ∉ slotEnds) ∧ IsNested fragmentBrackets text := by
  refine ⟨?_, ?_, .of_other ?_⟩
  · intro c hc
    exact (notMem_specialChars_iff.mp (h c hc)).1
  · intro c hc
    exact (notMem_specialChars_iff.mp (h c hc)).2.1
  · intro c hc
    exact (notMem_specialChars_iff.mp (h c hc)).2.2

namespace IsContained

variable {text more : List Char}

/-- Ordinary characters stay where they are put. -/
theorem of_ordinary (h : AreOrdinary text) : IsContained text := by
  obtain ⟨hcode, hinert, hnested⟩ := h.parts
  obtain ⟨hclosed, hshown⟩ := blanked_of_code hcode
  refine ⟨hclosed, ?_, ?_⟩
  · rwa [hshown]
  · rwa [hshown]

/-- Contained texts one behind the other are contained, unless a quote continues a literal of the
first. -/
theorem append (h : IsContained text) (hmore : IsContained more)
    (hstart : startsWith (· == '"') more = false) : IsContained (text ++ more) where
  closed := h.closed.append hmore.closed hstart
  inert := by
    rw [h.closed.blanked_append hstart]
    exact List.forall_mem_append.mpr ⟨h.inert, hmore.inert⟩
  nested := by
    rw [h.closed.blanked_append hstart]
    exact h.nested.append hmore.nested

/-- In front of a text there may be ordinary characters, even if the text starts with a quote. -/
theorem ordinary_append (front : List Char) (h : IsContained text)
    (hfront : AreOrdinary front) : IsContained (front ++ text) := by
  obtain ⟨hcode, hinert, hnested⟩ := hfront.parts
  have hshown := Text.blanked_append_of_code hcode text
  refine ⟨(Text.isComplete_of_code hcode).append_closed h.closed, ?_, ?_⟩
  · rw [hshown]
    exact List.forall_mem_append.mpr ⟨hinert, h.inert⟩
  · rw [hshown]
    exact hnested.append h.nested

/-- What stands on the right side of an equal sign. -/
theorem assigned (h : IsContained text) : IsContained ([' ', '=', ' '] ++ text) :=
  h.ordinary_append _ (by decide)

/-- A pair of brackets closes whatever is inside it. -/
theorem enclosed (opening closing : Char) (h : IsContained text)
    (hpair : (opening, closing) ∈ fragmentBrackets) :
    IsContained (opening :: (text ++ [closing])) := by
  have hall : ∀ pair ∈ fragmentBrackets, pair.1 ∉ literalMarks ∧ pair.2 ∉ literalMarks ∧
      pair.1 ∉ slotEnds ∧ pair.2 ∉ slotEnds := by
    decide
  obtain ⟨hopening, hclosing, hopenEnds, hcloseEnds⟩ := hall _ hpair
  have hquote : startsWith (· == '"') [closing] = false := by
    have hne : closing ≠ '"' := fun h => hclosing (by simp [h, literalMarks])
    simpa using hne
  obtain ⟨hend, hendShown⟩ := blanked_of_code (List.forall_mem_singleton.mpr hclosing)
  have hshown : blanked (opening :: (text ++ [closing])) =
      opening :: (blanked text ++ [closing]) := by
    rw [Text.blanked_cons hopening, h.closed.blanked_append hquote, hendShown]
  have hopen := Text.isComplete_of_code (List.forall_mem_singleton.mpr hopening)
  refine ⟨hopen.append_closed (h.closed.append hend hquote), ?_, ?_⟩
  · rw [hshown]
    exact List.forall_mem_cons.mpr ⟨hopenEnds, List.forall_mem_append.mpr
      ⟨h.inert, List.forall_mem_singleton.mpr hcloseEnds⟩⟩
  · rw [hshown]
    exact h.nested.enclosed hpair

/-- Texts with commas between them, each of which may start with a quote. -/
theorem commaSeparated {texts : List String} (h : ∀ item ∈ texts, IsContained item.toList) :
    IsContained (Text.commaSeparated texts).toList := by
  match texts with
  | [] => exact of_ordinary (by decide)
  | [item] => exact h item List.mem_cons_self
  | item :: next :: rest =>
    obtain ⟨hitem, hrest⟩ := List.forall_mem_cons.mp h
    have hbehind := (commaSeparated hrest).ordinary_append [',', ' '] (by decide)
    have hwhole := hitem.append hbehind rfl
    simpa [Text.commaSeparated, Text.joined] using hwhole

end IsContained

/-! ## Tokens -/

/-- No character of an identifier is special. -/
theorem notMem_specialChars_of_part {c : Char} (h : isIdentifierPart c = true) :
    c ∉ specialChars :=
  notMem_of_isIdentifierPart (by decide) h

/-- No character of a number is special. -/
theorem AreNumberChars.areOrdinary {text : List Char} (h : AreNumberChars text) :
    AreOrdinary text := by
  intro c hc
  obtain hpart | rfl | rfl | rfl := h c hc
  · exact notMem_specialChars_of_part hpart
  all_goals decide

/-- Ordinary texts one behind the other are ordinary. -/
theorem AreOrdinary.append {text more : List Char} (h : AreOrdinary text)
    (hmore : AreOrdinary more) : AreOrdinary (text ++ more) :=
  List.forall_mem_append.mpr ⟨h, hmore⟩

/-- Lower-case letters are ordinary. -/
theorem AreOrdinary.of_letters {text : List Char}
    (h : (text.all fun c => 'a' ≤ c ∧ c ≤ 'z') = true) : AreOrdinary text := by
  intro c hc
  have hletter := of_decide_eq_true (List.all_eq_true.mp h c hc)
  exact notMem_specialChars_of_part
    (isIdentifierPart_of_start (isIdentifierStart_of_letter (.inl hletter)))

/-- A token that is blanked is contained whatever is in it. -/
theorem IsContained.of_blanks {text : List Char} {n : Nat} (hclosed : IsClosed text)
    (hshown : blanked text = List.replicate n ' ') : IsContained text := by
  have hblank : ∀ c ∈ blanked text, c = ' ' := by
    rw [hshown]
    exact fun c hc => List.eq_of_mem_replicate hc
  refine ⟨hclosed, ?_, .of_other ?_⟩
  · intro c hc
    rw [hblank c hc]
    decide
  · intro c hc
    rw [hblank c hc]
    decide

/-- A word is ordinary. -/
theorem areOrdinary_word {c : Char} {rest : List Char} (hstart : isIdentifierStart c = true)
    (hrest : ∀ d ∈ rest, isIdentifierPart d = true) : AreOrdinary (c :: rest) :=
  List.forall_mem_cons.mpr ⟨notMem_specialChars_of_part (isIdentifierPart_of_start hstart),
    fun d hd => notMem_specialChars_of_part (hrest d hd)⟩

/-- Identifiers, numbers and literals are contained; the tokens that are always written alike may
be brackets. -/
theorem IsLexeme.isContained {kind : TokenKind} {text : List Char} (h : IsLexeme kind text)
    (hkind : kind.spelling = "") : IsContained text := by
  obtain ⟨hclosed, hshown⟩ := h.blanked
  cases h with
  | single _ c hc =>
    rw [TokenKind.spelling_of_ofChar? hc] at hkind
    exact absurd hkind (by simp [String.ext_iff])
  | doubleColon => exact absurd hkind (by decide)
  | string => exact .of_blanks hclosed hshown
  | verbatim => exact .of_blanks hclosed hshown
  | char => exact .of_blanks hclosed hshown
  | identifier c rest hstart hrest => exact .of_ordinary (areOrdinary_word hstart hrest)
  | marked c rest hstart hrest =>
    obtain ⟨-, hinert, hnested⟩ := (areOrdinary_word hstart hrest).parts
    have hshown : Text.blanked ('@' :: c :: rest) = '@' :: c :: rest := hshown
    refine ⟨hclosed, ?_, ?_⟩
    · rw [hshown]
      exact List.forall_mem_cons.mpr ⟨by decide, hinert⟩
    · rw [hshown]
      exact .other (by decide) hnested
  | number _ hnumeral => exact .of_ordinary hnumeral.areNumberChars.areOrdinary

/-- An identifier is contained, with its mark or without. -/
theorem IsIdentifierText.isContained {text : String} (h : IsIdentifierText text) :
    IsContained text.toList :=
  (isSoleToken_iff.mp h.1).isContained rfl

/-- A predefined type is a word. -/
theorem Predefined.isContained_word (type : Predefined) : IsContained type.word.toList := by
  refine .of_ordinary (.of_letters ?_)
  cases type
  all_goals decide

/-! ## Names and types -/

mutual

/-- A name is contained: its type arguments close the bracket that they open. The induction is on
the tree, together with the ones on types and on lists of types. -/
theorem Name.isContained_print (n : Name) (hn : n.WellFormed) : IsContained n.print.toList := by
  match n with
  | .identifier text =>
    rw [Name.print]
    exact IsIdentifierText.isContained hn
  | .generic text arguments =>
    obtain ⟨htext, -, harguments⟩ := hn
    have hlist : IsContained (Text.commaSeparated (TypeRef.printAll arguments)).toList :=
      .commaSeparated (TypeRef.isContained_printAll arguments harguments)
    have hangled := hlist.enclosed '<' '>' (by decide)
    have hwhole := htext.isContained.append hangled rfl
    rw [Name.print]
    simpa using hwhole
  | .qualified left right =>
    obtain ⟨hleft, -, hright⟩ := hn
    have hbehind := (right.isContained_print hright).ordinary_append ['.'] (by decide)
    have hwhole := (left.isContained_print hleft).append hbehind rfl
    rw [Name.print]
    simpa using hwhole
  | .aliased qualifier name =>
    obtain ⟨hqualifier, -, hname⟩ := hn
    have hbehind := (name.isContained_print hname).ordinary_append [':', ':'] (by decide)
    have hwhole := hqualifier.isContained.append hbehind rfl
    rw [Name.print]
    simpa using hwhole

/-- A type is contained, with all its suffixes. -/
theorem TypeRef.isContained_print (type : TypeRef) (htype : type.WellFormed) :
    IsContained type.print.toList := by
  match type with
  | .predefined word =>
    rw [TypeRef.print]
    exact word.isContained_word
  | .named n =>
    rw [TypeRef.print]
    exact n.isContained_print htype
  | .array element rank =>
    have hcommas : AreOrdinary (List.replicate (rank - 1) ',') := by
      intro c hc
      rw [List.eq_of_mem_replicate hc]
      decide
    have hbrackets := (IsContained.of_ordinary hcommas).enclosed '[' ']' (by decide)
    have hwhole := (element.isContained_print htype.1).append hbrackets rfl
    rw [TypeRef.print]
    simpa using hwhole
  | .nullable inner =>
    have hquestion : IsContained ['?'] := .of_ordinary (by decide)
    have hwhole := (inner.isContained_print htype).append hquestion rfl
    rw [TypeRef.print]
    simpa using hwhole

/-- Each of several types is contained. -/
theorem TypeRef.isContained_printAll (types : List TypeRef)
    (htypes : TypeRef.AllWellFormed types) :
    ∀ item ∈ TypeRef.printAll types, IsContained item.toList := by
  match types with
  | [] => exact List.forall_mem_nil _
  | type :: rest =>
    rw [TypeRef.printAll]
    exact List.forall_mem_cons.mpr
      ⟨type.isContained_print htypes.1, TypeRef.isContained_printAll rest htypes.2⟩

end

/-! ## Expressions -/

/-- A literal is contained, since all of it but its quotes is blanked. -/
theorem Literal.isContained_token (value : Literal) (hvalue : value.WellFormed) :
    IsContained value.token.toList := by
  obtain ⟨kind, text⟩ := value
  cases kind
  case string => exact (isSoleToken_iff.mp hvalue).isContained rfl
  case char => exact (isSoleToken_iff.mp hvalue).isContained rfl
  case numeric => exact (isSoleToken_iff.mp hvalue).isContained rfl
  all_goals
    obtain rfl : text = _ := hvalue
    exact .of_ordinary (by decide)

/-- An operator in front of a contained text leaves it contained. -/
theorem PrefixOp.isContained_printUnary (op : PrefixOp) {operand : String}
    (h : IsContained operand.toList) : IsContained (Expr.printUnary op operand).toList := by
  have hsign : AreOrdinary [op.sign] ∧ AreOrdinary [op.sign, ' '] := by
    cases op
    all_goals exact ⟨by decide, by decide⟩
  unfold Expr.printUnary
  split
  · simpa using h.ordinary_append [op.sign, ' '] hsign.2
  · simpa using h.ordinary_append [op.sign] hsign.1

/-- Parentheses around a contained text close each other. -/
theorem IsContained.inParens {text : List Char} (h : IsContained text) :
    IsContained ('(' :: (text ++ [')'])) :=
  h.enclosed '(' ')' (by decide)

/-- An expression is contained. The induction is on the tree; wherever two parts meet the second one
does not start with a quote. -/
theorem Expr.isContained_print (e : Expr) (he : e.WellFormed) : IsContained e.print.toList := by
  induction e with
  | literal value => exact value.isContained_token he
  | name path => exact path.isContained_print he.2
  | predefined type => exact type.isContained_word
  | member receiver field ih =>
    obtain ⟨-, hreceiver, hfield⟩ := he
    have hbehind := hfield.isContained.ordinary_append ['.'] (by decide)
    have hwhole := (ih hreceiver).append hbehind rfl
    rw [Expr.print]
    simpa using hwhole
  | unary op operand ih => exact op.isContained_printUnary (ih he.2)
  | paren inner ih =>
    rw [Expr.print]
    simpa using (ih he).inParens
  | typeOf type =>
    have hwhole := (type.isContained_print he).inParens.ordinary_append "typeof".toList (by decide)
    rw [Expr.print]
    simpa using hwhole
  | nameOf inner ih =>
    have hwhole := (ih he).inParens.ordinary_append "nameof".toList (by decide)
    rw [Expr.print]
    simpa using hwhole
  | assign left right ihLeft ihRight =>
    obtain ⟨-, hleft, hright⟩ := he
    have hbehind := (ihRight hright).assigned
    have hwhole := (ihLeft hleft).append hbehind rfl
    rw [Expr.print]
    simpa using hwhole

/-! ## What is read -/

/-- A text that consists of tokens and, its string and character tokens aside, does not reach out of
the place it is put in. -/
structure StaysInPlace (text : String) : Prop where
  tokens : ∃ stream, tokenize text = .ok stream ∧
    LeavesCode (stream.tokens.map Token.piece) text.toList (blanked text.toList)
  contained : IsContained text.toList

/-- What is contained and is read as tokens again stays in its place. -/
theorem IsContained.staysInPlace {text : String} {pieces : List Piece}
    (h : IsContained text.toList)
    (htokens : ∃ stream, tokenize text = .ok stream ∧ stream.tokens.map Token.piece = pieces) :
    StaysInPlace text := by
  obtain ⟨stream, hstream, -⟩ := htokens
  exact ⟨⟨stream, hstream, leavesCode_of_tokenize hstream⟩, h⟩

/-- A name that was parsed stays in the place where it is printed. -/
theorem Name.staysInPlace_of_parse {text : String} {n : Name} (h : Name.parse text = .ok n) :
    StaysInPlace n.print := by
  have hn := (Name.parse_sound h).1
  exact (n.isContained_print hn).staysInPlace (Name.tokenize_print hn)

/-- A type that was parsed stays in the place where it is printed. -/
theorem TypeRef.staysInPlace_of_parse {text : String} {type : TypeRef}
    (h : TypeRef.parse text = .ok type) : StaysInPlace type.print := by
  have htype := (TypeRef.parse_sound h).1
  exact (type.isContained_print htype).staysInPlace (TypeRef.tokenize_print htype)

/-- An expression that was parsed stays in the place where it is printed. -/
theorem Expr.staysInPlace_of_parse {text : String} {e : Expr} (h : Expr.parse text = .ok e) :
    StaysInPlace e.print := by
  have he := (Expr.parse_sound h).1
  exact (e.isContained_print he).staysInPlace (Expr.tokenize_print he)

end DeclScribe
