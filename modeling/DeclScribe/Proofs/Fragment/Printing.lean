import DeclScribe.Proofs.Fragment.WellFormed

/-!
# The tokens of a printed tree

The text a well-formed tree is printed as is read as the tokens of the tree, whatever is printed
behind it, if only that makes its last token no longer. The printing puts in almost no spaces, so
what is shown at each seam is that the next character ends the token before it.
-/

set_option autoImplicit false

namespace DeclScribe

variable {tail : List Char} {pieces : List Piece}

/-! ## Single tokens -/

/-- A token that is always written alike, other than a dot, ends the token before it. -/
theorem isBreak_spelling (kind : TokenKind) (tail : List Char)
    (hkind : kind.spelling ≠ "" := by decide) (hdot : kind ≠ .dot := by decide) :
    IsBreak (kind.spelling.toList ++ tail) := by
  cases kind
  case dot => exact absurd rfl hdot
  case identifier => exact absurd rfl hkind
  case string => exact absurd rfl hkind
  case char => exact absurd rfl hkind
  case number => exact absurd rfl hkind
  all_goals exact .cons _ (by decide) (by decide) (by decide)

/-- A token that is always written alike is read in front of what is read already. -/
theorem Reads.fixed (kind : TokenKind) (htail : EndsToken tail kind) (h : Reads tail pieces)
    (hkind : kind.spelling ≠ "" := by decide) :
    Reads (kind.spelling.toList ++ tail) (.fixed kind :: pieces) := by
  have hread := Reads.cons (TokenKind.isLexeme_spelling hkind) htail h
  rw [String.ofList_toList] at hread
  exact hread

/-- A word is read in front of what is read already, unless that continues it. -/
theorem Reads.word {text : String} (htext : IsLexeme .identifier text.toList)
    (htail : IsBreak tail) (h : Reads tail pieces) :
    Reads (text.toList ++ tail) (.word text :: pieces) := by
  have hread := Reads.cons htext htail.part h
  rw [String.ofList_toList] at hread
  exact hread

/-- An identifier is a word of its own. -/
theorem IsIdentifierText.isLexeme {text : String} (h : IsIdentifierText text) :
    IsLexeme .identifier text.toList :=
  isSoleToken_iff.mp h.1

/-- The commas between brackets are one token each. -/
theorem Reads.commas (n : Nat) (h : Reads tail pieces) :
    Reads (List.replicate n ',' ++ tail) (List.replicate n (.fixed .comma) ++ pieces) := by
  induction n with
  | zero => exact h
  | succ n ih =>
    have hcomma := Reads.fixed .comma trivial ih
    rw [List.replicate_succ, List.replicate_succ]
    exact hcomma

/-- The name of a predefined type is a word of its own. -/
theorem Predefined.isLexeme_word (type : Predefined) : IsLexeme .identifier type.word.toList := by
  cases type
  all_goals exact .identifier_of_all rfl rfl

/-- An identifier does not start with a digit. -/
theorem IsIdentifierText.startsWith_isDigit {text : String} (h : IsIdentifierText text)
    (tail : List Char) :
    Lexer.startsWith Radix.decimal.isDigit (text.toList ++ tail) = false := by
  have hlexeme := h.isLexeme
  generalize text.toList = letters at hlexeme
  cases hlexeme with
  | single _ c hc =>
    have hempty : "" = String.ofList [c] := TokenKind.spelling_of_ofChar? hc
    exact absurd hempty (by simp [String.ext_iff])
  | identifier c rest hstart _ =>
    cases hdigit : Radix.decimal.isDigit c with
    | false => simp [hdigit]
    | true =>
      rw [isIdentifierStart_eq_false_of_decimal hdigit] at hstart
      exact absurd hstart (by simp)
  | marked c rest _ _ => rfl

/-! ## Names and types -/

/-- A name does not start with a digit, so that a dot in front of it is a dot. -/
theorem Name.startsWith_isDigit : (n : Name) → n.WellFormed → (tail : List Char) →
    Lexer.startsWith Radix.decimal.isDigit (n.print.toList ++ tail) = false
  | .identifier text, h, tail => by
    rw [print]
    exact IsIdentifierText.startsWith_isDigit h tail
  | .generic text arguments, h, tail => by
    rw [print]
    simp only [String.toList_append, List.append_assoc]
    exact h.1.startsWith_isDigit _
  | .qualified left right, h, tail => by
    rw [print]
    simp only [String.toList_append, List.append_assoc]
    exact left.startsWith_isDigit h.1 _
  | .aliased qualifier name, h, tail => by
    rw [print]
    simp only [String.toList_append, List.append_assoc]
    exact h.1.startsWith_isDigit _

/-- A comma and a space stand behind each text but the last. -/
theorem Text.commaSeparated_cons (first second : String) (rest : List String) :
    Text.commaSeparated (first :: second :: rest) =
      first ++ ", " ++ Text.commaSeparated (second :: rest) := rfl

mutual

/-- The print of a name is read as its pieces. It stands before any text that ends a word, so that
the induction reaches the parts of the name. -/
theorem Name.reads_print (n : Name) (hn : n.WellFormed) {tail : List Char} {pieces : List Piece}
    (htail : IsBreak tail) (h : Reads tail pieces) :
    Reads (n.print.toList ++ tail) (n.pieces ++ pieces) := by
  match n with
  | .identifier text =>
    rw [Name.print, Name.pieces]
    exact .word (IsIdentifierText.isLexeme hn) htail h
  | .generic text [] => exact absurd rfl hn.2.1
  | .generic text (first :: more) =>
    obtain ⟨htext, -, harguments⟩ := hn
    have hclose := Reads.fixed .greater trivial h
    have harguments' := TypeRef.reads_printAll first more harguments
      (isBreak_spelling .greater tail) hclose
    have hopen := Reads.fixed .less trivial harguments'
    have hwhole := Reads.word htext.isLexeme (isBreak_spelling .less _) hopen
    rw [Name.print, Name.pieces]
    simpa [TokenKind.spelling] using hwhole
  | .qualified left right =>
    obtain ⟨hleft, -, hright⟩ := hn
    -- A dot with a digit behind it would be the start of a number.
    have hdigit := right.startsWith_isDigit hright tail
    have hdot := Reads.fixed .dot hdigit
      (right.reads_print hright htail h)
    have hwhole := left.reads_print hleft (.dot hdigit) hdot
    rw [Name.print, Name.pieces]
    simpa [TokenKind.spelling] using hwhole
  | .aliased qualifier name =>
    obtain ⟨hqualifier, -, hname⟩ := hn
    have hcolon := Reads.fixed .doubleColon trivial
      (name.reads_print hname htail h)
    have hwhole := Reads.word hqualifier.isLexeme (isBreak_spelling .doubleColon _) hcolon
    rw [Name.print, Name.pieces]
    simpa [TokenKind.spelling] using hwhole
termination_by sizeOf n

/-- The print of a type is read as its pieces. -/
theorem TypeRef.reads_print (type : TypeRef) (htype : type.WellFormed) {tail : List Char}
    {pieces : List Piece} (htail : IsBreak tail) (h : Reads tail pieces) :
    Reads (type.print.toList ++ tail) (type.pieces ++ pieces) := by
  match type with
  | .predefined word =>
    rw [TypeRef.print, TypeRef.pieces]
    exact .word word.isLexeme_word htail h
  | .named n =>
    rw [TypeRef.print, TypeRef.pieces]
    exact n.reads_print htype htail h
  | .array element rank =>
    have hclose := Reads.fixed .rightBracket trivial h
    have hopen := Reads.fixed .leftBracket trivial (hclose.commas (rank - 1))
    have hwhole := element.reads_print htype.1 (isBreak_spelling .leftBracket _) hopen
    rw [TypeRef.print, TypeRef.pieces]
    simpa [TokenKind.spelling] using hwhole
  | .nullable inner =>
    have hquestion := Reads.fixed .question trivial h
    have hwhole := inner.reads_print htype (isBreak_spelling .question _) hquestion
    rw [TypeRef.print, TypeRef.pieces]
    simpa [TokenKind.spelling] using hwhole
termination_by sizeOf type

/-- The print of types with commas between them is read as their pieces. -/
theorem TypeRef.reads_printAll (first : TypeRef) (more : List TypeRef)
    (htypes : TypeRef.AllWellFormed (first :: more)) {tail : List Char} {pieces : List Piece}
    (htail : IsBreak tail) (h : Reads tail pieces) :
    Reads ((Text.commaSeparated (TypeRef.printAll (first :: more))).toList ++ tail)
      (TypeRef.argumentPieces (first :: more) ++ pieces) := by
  match more, htypes with
  | [], ⟨hfirst, _⟩ =>
    have hwhole := first.reads_print hfirst htail h
    simpa [TypeRef.printAll, Text.commaSeparated, Text.joined, TypeRef.argumentPieces,
      TypeRef.morePieces] using hwhole
  | second :: rest, ⟨hfirst, hmore⟩ =>
    have hrest := TypeRef.reads_printAll second rest hmore htail h
    have hcomma := Reads.fixed .comma trivial hrest.space
    have hwhole := first.reads_print hfirst (isBreak_spelling .comma _) hcomma
    rw [TypeRef.printAll, TypeRef.printAll, Text.commaSeparated_cons]
    simpa [TokenKind.spelling, TypeRef.printAll, TypeRef.argumentPieces, TypeRef.morePieces]
      using hwhole
termination_by sizeOf (first :: more)

end

/-! ## Expressions -/

/-- The token of a literal is read as its piece. -/
theorem Literal.reads_token (value : Literal) (hvalue : value.WellFormed) {tail : List Char}
    {pieces : List Piece} (htail : IsBreak tail) (h : Reads tail pieces) :
    Reads (value.token.toList ++ tail) (value.piece :: pieces) := by
  have hlexeme : IsLexeme value.piece.kind value.token.toList := by
    obtain ⟨kind, text⟩ := value
    cases kind
    case string => exact isSoleToken_iff.mp hvalue
    case char => exact isSoleToken_iff.mp hvalue
    case numeric => exact isSoleToken_iff.mp hvalue
    all_goals
      obtain rfl : text = _ := hvalue
      exact .identifier_of_all rfl rfl
  have htext : String.ofList value.token.toList = value.piece.lexeme := by
    rw [String.ofList_toList]
    obtain ⟨kind, text⟩ := value
    cases kind <;> rfl
  have hread := Reads.cons hlexeme (htail.endsToken _) h
  rw [htext] at hread
  exact hread

/-- An operator is a token of its own, with or without a space behind it. -/
theorem PrefixOp.reads_printUnary (op : PrefixOp) (operand : String)
    (h : Reads (operand.toList ++ tail) pieces) :
    Reads ((Expr.printUnary op operand).toList ++ tail) (.fixed op.kind :: pieces) := by
  have hspelling := op.spelling_ne
  have htail (text : List Char) : EndsToken text op.kind := by
    cases op <;> exact trivial
  unfold Expr.printUnary
  split
  · have hread := Reads.fixed op.kind (htail _) h.space hspelling
    rw [op.spelling_kind] at hread
    simpa using hread
  · have hread := Reads.fixed op.kind (htail _) h hspelling
    rw [op.spelling_kind] at hread
    simpa using hread

/-- What stands in parentheses ends at the closing one. -/
theorem Reads.inParens {text : List Char} {inner : List Piece}
    (hinner : ∀ {tail : List Char} {pieces : List Piece}, IsBreak tail → Reads tail pieces →
      Reads (text ++ tail) (inner ++ pieces)) (h : Reads tail pieces) :
    Reads (TokenKind.leftParen.spelling.toList ++
        (text ++ (TokenKind.rightParen.spelling.toList ++ tail)))
      (.fixed .leftParen :: (inner ++ .fixed .rightParen :: pieces)) := by
  have hclose := Reads.fixed .rightParen trivial h
  have hbreak := isBreak_spelling .rightParen tail
  exact .fixed .leftParen trivial (hinner hbreak hclose)

/-- The print of an expression is read as its pieces. Operators are the parts to look at: two signs
of one kind would be read as one token if nothing stood between them. -/
theorem Expr.reads_print (e : Expr) (he : e.WellFormed) {tail : List Char} {pieces : List Piece}
    (htail : IsBreak tail) (h : Reads tail pieces) :
    Reads (e.print.toList ++ tail) (e.pieces ++ pieces) := by
  induction e generalizing tail pieces with
  | literal value => exact value.reads_token he htail h
  | name path => exact path.reads_print he.2 htail h
  | predefined type => exact .word type.isLexeme_word htail h
  | member receiver field ih =>
    obtain ⟨-, hreceiver, hfield⟩ := he
    have hdigit := hfield.startsWith_isDigit tail
    -- the dot is no point of a number, since a name follows it
    have hdot := Reads.fixed .dot hdigit
      (.word hfield.isLexeme htail h)
    have hwhole := ih hreceiver (.dot hdigit) hdot
    rw [Expr.print, Expr.pieces]
    simpa [TokenKind.spelling] using hwhole
  | unary op operand ih =>
    rw [Expr.print, Expr.pieces]
    exact op.reads_printUnary operand.print (ih he.2 htail h)
  | paren inner ih =>
    have hwhole := Reads.inParens (ih he) h
    rw [Expr.print, Expr.pieces]
    simpa [TokenKind.spelling] using hwhole
  | typeOf type =>
    have hlexeme : IsLexeme .identifier "typeof".toList := .identifier_of_all rfl rfl
    have hwhole := Reads.word hlexeme (isBreak_spelling .leftParen _)
      (Reads.inParens (type.reads_print he) h)
    rw [Expr.print, Expr.pieces]
    simpa [TokenKind.spelling] using hwhole
  | nameOf inner ih =>
    have hlexeme : IsLexeme .identifier "nameof".toList := .identifier_of_all rfl rfl
    have hwhole := Reads.word hlexeme (isBreak_spelling .leftParen _)
      (Reads.inParens (ih he) h)
    rw [Expr.print, Expr.pieces]
    simpa [TokenKind.spelling] using hwhole
  | assign left right ihLeft ihRight =>
    obtain ⟨-, hleft, hright⟩ := he
    have hequals := Reads.fixed .equals trivial
      (ihRight hright htail h).space
    have hwhole := ihLeft hleft (.cons _ (by decide) (by decide) (by decide)) hequals.space
    rw [Expr.print, Expr.pieces]
    simpa [TokenKind.spelling] using hwhole

end DeclScribe
