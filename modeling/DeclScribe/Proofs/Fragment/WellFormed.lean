import DeclScribe.Fragment.Parser
import DeclScribe.Proofs.Keyword
import DeclScribe.Proofs.Token.Lexemes

/-!
# Well-formed fragments

Trees can be built that no text is read as: an array without dimensions, a generic name without
arguments, an identifier with a space in it. The trees that a text can be read as are told apart
here on the tree alone, and each of them is given the tokens it is written with.
-/

set_option autoImplicit false

namespace DeclScribe

/-! ## Trees -/

/-- A text that is an identifier: it is one token, and no reserved word unless it is marked. -/
def IsIdentifierText (text : String) : Prop :=
  IsSoleToken .identifier text ∧ (Parser.isVerbatim text = true ∨ isReserved text = false)

/-- A name without dots and aliases. -/
def Name.IsSimple : Name → Prop
  | .identifier _ => True
  | .generic _ _ => True
  | _ => False

mutual

/-- A name that a text can be read as. -/
def Name.WellFormed : Name → Prop
  | .identifier text => IsIdentifierText text
  | .generic text arguments =>
    IsIdentifierText text ∧ arguments ≠ [] ∧ TypeRef.AllWellFormed arguments
  | .qualified left right => left.WellFormed ∧ right.IsSimple ∧ right.WellFormed
  | .aliased qualifier name => IsIdentifierText qualifier ∧ name.IsSimple ∧ name.WellFormed

/-- A type that a text can be read as. -/
def TypeRef.WellFormed : TypeRef → Prop
  | .predefined _ => True
  | .named name => name.WellFormed
  | .array element rank => element.WellFormed ∧ 1 ≤ rank
  | .nullable type => type.WellFormed

/-- Types that texts can be read as. -/
def TypeRef.AllWellFormed : List TypeRef → Prop
  | [] => True
  | type :: rest => type.WellFormed ∧ TypeRef.AllWellFormed rest

end

/-- A literal whose text is one token of its kind, or the word of its kind. -/
def Literal.WellFormed (value : Literal) : Prop :=
  match value.kind with
  | .string => IsSoleToken .string value.token
  | .char => IsSoleToken .char value.token
  | .numeric => IsSoleToken .number value.token
  | .true => value.token = "true"
  | .false => value.token = "false"
  | .null => value.token = "null"

/-- A name that can be used as a value: an identifier, or one inside an alias. -/
def Name.IsPlain : Name → Prop
  | .identifier _ => True
  | .aliased _ (.identifier _) => True
  | _ => False

namespace Expr

/-- An expression that is no assignment, as the operand of an operator. -/
def IsOperand : Expr → Prop
  | .assign _ _ => False
  | _ => True

/-- An expression that is neither an operator with its operand nor an assignment, as the receiver
of a member access. -/
def IsReceiver : Expr → Prop
  | .unary _ _ => False
  | .assign _ _ => False
  | _ => True

/-- What can stand before a dot can be an operand. -/
theorem IsReceiver.isOperand {e : Expr} (h : e.IsReceiver) : e.IsOperand := by
  cases e with
  | assign left right => exact h
  | _ => trivial

/-- An expression that can be assigned to. -/
def IsTarget : Expr → Prop
  | .name (.identifier _) => True
  | _ => False

/-- An expression that a text can be read as. -/
def WellFormed : Expr → Prop
  | .literal value => value.WellFormed
  | .name path => path.IsPlain ∧ path.WellFormed
  | .predefined _ => True
  | .member receiver field => receiver.IsReceiver ∧ receiver.WellFormed ∧ IsIdentifierText field
  | .unary _ operand => operand.IsOperand ∧ operand.WellFormed
  | .paren inner => inner.WellFormed
  | .typeOf type => type.WellFormed
  | .nameOf inner => inner.WellFormed
  | .assign left right => left.IsTarget ∧ left.WellFormed ∧ right.WellFormed

end Expr

/-! ## Tokens of trees -/

/-- The text of the tokens that are always written alike; other tokens have none. -/
def TokenKind.spelling : TokenKind → String
  | .dot => "."
  | .comma => ","
  | .doubleColon => "::"
  | .leftParen => "("
  | .rightParen => ")"
  | .leftBracket => "["
  | .rightBracket => "]"
  | .less => "<"
  | .greater => ">"
  | .question => "?"
  | .equals => "="
  | .minus => "-"
  | .plus => "+"
  | .bang => "!"
  | .tilde => "~"
  | _ => ""

namespace Piece

/-- A token that is always written alike. -/
def fixed (kind : TokenKind) : Piece := ⟨kind, kind.spelling⟩

/-- An identifier, or a word that looks like one. -/
def word (text : String) : Piece := ⟨.identifier, text⟩

end Piece

mutual

/-- The tokens of a name. -/
def Name.pieces : Name → List Piece
  | .identifier text => [.word text]
  | .generic text arguments =>
    .word text :: .fixed .less :: (TypeRef.argumentPieces arguments ++ [.fixed .greater])
  | .qualified left right => left.pieces ++ .fixed .dot :: right.pieces
  | .aliased qualifier name => .word qualifier :: .fixed .doubleColon :: name.pieces

/-- The tokens of a type. -/
def TypeRef.pieces : TypeRef → List Piece
  | .predefined type => [.word type.word]
  | .named name => name.pieces
  | .array element rank =>
    element.pieces ++ .fixed .leftBracket ::
      (List.replicate (rank - 1) (.fixed .comma) ++ [.fixed .rightBracket])
  | .nullable type => type.pieces ++ [.fixed .question]

/-- The tokens of type arguments. -/
def TypeRef.argumentPieces : List TypeRef → List Piece
  | [] => []
  | type :: rest => type.pieces ++ TypeRef.morePieces rest

/-- The tokens of the type arguments behind the first one. -/
def TypeRef.morePieces : List TypeRef → List Piece
  | [] => []
  | type :: rest => .fixed .comma :: (type.pieces ++ TypeRef.morePieces rest)

end

/-- The token of a literal. -/
def Literal.piece (value : Literal) : Piece :=
  match value.kind with
  | .string => ⟨.string, value.token⟩
  | .char => ⟨.char, value.token⟩
  | .numeric => ⟨.number, value.token⟩
  | _ => .word value.token

/-- The kind of the token of an operator. -/
def PrefixOp.kind : PrefixOp → TokenKind
  | .minus => .minus
  | .plus => .plus
  | .not => .bang
  | .complement => .tilde

/-- The tokens of an expression. -/
def Expr.pieces : Expr → List Piece
  | .literal value => [value.piece]
  | .name path => path.pieces
  | .predefined type => [.word type.word]
  | .member receiver field => receiver.pieces ++ [.fixed .dot, .word field]
  | .unary op operand => .fixed op.kind :: operand.pieces
  | .paren inner => .fixed .leftParen :: (inner.pieces ++ [.fixed .rightParen])
  | .typeOf type =>
    .word "typeof" :: .fixed .leftParen :: (type.pieces ++ [.fixed .rightParen])
  | .nameOf inner =>
    .word "nameof" :: .fixed .leftParen :: (inner.pieces ++ [.fixed .rightParen])
  | .assign left right => left.pieces ++ .fixed .equals :: right.pieces

/-- A name starts with an identifier. -/
theorem Name.exists_pieces_eq_cons : (n : Name) → n.WellFormed →
    ∃ text rest, IsIdentifierText text ∧ n.pieces = .word text :: rest
  | .identifier text, h => ⟨text, [], h, by rw [pieces]⟩
  | .generic text arguments, h => ⟨text, _, h.1, by rw [pieces]⟩
  | .qualified left right, h => by
    obtain ⟨text, rest, htext, hrest⟩ := left.exists_pieces_eq_cons h.1
    exact ⟨text, _, htext, by rw [pieces, hrest, List.cons_append]⟩
  | .aliased qualifier inner, h => ⟨qualifier, _, h.1, by rw [pieces]⟩

/-! ## Words and signs -/

/-- A single character that is a token is how its kind is spelled. -/
theorem TokenKind.spelling_of_ofChar? {c : Char} {kind : TokenKind} (h : ofChar? c = some kind) :
    kind.spelling = String.ofList [c] := by
  unfold ofChar? at h
  split at h
  case h_15 => exact absurd h (by simp)
  all_goals
    injection h with h
    subst h
    rfl

/-- The tokens with a fixed text are written with it. -/
theorem IsLexeme.eq_spelling {kind : TokenKind} {text : List Char} (h : IsLexeme kind text)
    (hkind : kind.spelling ≠ "") : String.ofList text = kind.spelling := by
  cases h with
  | single kind c hc => exact (TokenKind.spelling_of_ofChar? hc).symm
  | doubleColon => rfl
  | string => exact absurd rfl hkind
  | verbatim => exact absurd rfl hkind
  | char => exact absurd rfl hkind
  | identifier => exact absurd rfl hkind
  | marked => exact absurd rfl hkind
  | number => exact absurd rfl hkind

/-- The spelling of a kind is a token of that kind. -/
theorem TokenKind.isLexeme_spelling {kind : TokenKind} (hkind : kind.spelling ≠ "") :
    IsLexeme kind kind.spelling.toList := by
  cases kind
  case doubleColon => exact .doubleColon
  case identifier => exact absurd rfl hkind
  case string => exact absurd rfl hkind
  case char => exact absurd rfl hkind
  case number => exact absurd rfl hkind
  all_goals exact .single _ _ rfl

/-- An operator is spelled by its sign. -/
theorem PrefixOp.spelling_kind (op : PrefixOp) : op.kind.spelling = op.sign.toString := by
  cases op <;> rfl

/-- Every operator has a spelling. -/
theorem PrefixOp.spelling_ne (op : PrefixOp) : op.kind.spelling ≠ "" := by
  cases op <;> decide

/-- The words of predefined types are reserved. -/
theorem Predefined.isReserved_word (type : Predefined) : isReserved type.word = true := by
  cases type <;> decide

/-- The words of predefined types bear no mark. -/
theorem Predefined.isVerbatim_word (type : Predefined) :
    Parser.isVerbatim type.word = false := by
  cases type <;> decide

/-- A reserved word is no identifier as long as it is not marked. -/
theorem IsIdentifierText.ne_of_isReserved {text word : String} (h : IsIdentifierText text)
    (hword : isReserved word = true := by decide)
    (hmark : Parser.isVerbatim word = false := by decide) : text ≠ word := by
  rintro rfl
  obtain ⟨-, hmarked | hfree⟩ := h
  · rw [hmark] at hmarked
    exact absurd hmarked (by simp)
  · rw [hword] at hfree
    exact absurd hfree (by simp)

/-- An identifier is no predefined type. -/
theorem IsIdentifierText.ofWord?_eq_none {text : String} (h : IsIdentifierText text) :
    Predefined.ofWord? text = none := by
  cases hword : Predefined.ofWord? text with
  | none => rfl
  | some type =>
    have htext := Predefined.ofWord?_eq_some_iff.mp hword
    exact absurd htext.symm
      (h.ne_of_isReserved type.isReserved_word type.isVerbatim_word)

end DeclScribe
