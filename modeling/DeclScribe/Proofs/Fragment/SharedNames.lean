import DeclScribe.Proofs.Fragment.RoundTrip

/-!
# The texts that are names, types and expressions

A dotted name can be read in three ways: as a name, as a type without a keyword of its own, and as
an expression, where the names behind the dots are members. The first two always come to the same
name. As an expression a name has no type arguments: angle brackets stand only inside the type of a
`typeof`, in parentheses, and a name has no parentheses. Without them the chain of member accesses
has the tokens of the name, and its spelling.
-/

set_option autoImplicit false

namespace DeclScribe

/-! ## Names as expressions -/

namespace Name

/-- Whether type arguments stand anywhere in a name. -/
def hasArguments : Name → Bool
  | .identifier _ => false
  | .generic _ _ => true
  | .qualified left right => left.hasArguments || right.hasArguments
  | .aliased _ name => name.hasArguments

/-- A name read as a value: what stands behind a dot is a member of what stands before it. -/
def toExpr : Name → Expr
  | .qualified left right => .member left.toExpr right.simpleIdentifier
  | other => .name other

/-- A simple name without type arguments is an identifier. -/
theorem IsSimple.exists_eq_identifier {n : Name} (h : n.IsSimple)
    (hplain : n.hasArguments = false) : ∃ text, n = .identifier text := by
  cases n with
  | identifier text => exact ⟨text, rfl⟩
  | generic => exact absurd hplain (by simp [hasArguments])
  | qualified => exact absurd h id
  | aliased => exact absurd h id

/-- The expression of a name can stand before a dot. -/
theorem isReceiver_toExpr (n : Name) : n.toExpr.IsReceiver := by
  cases n <;> exact trivial

/-- A name without type arguments is an expression with the same tokens and spelling. -/
theorem toExpr_spec : (n : Name) → n.WellFormed → n.hasArguments = false →
    n.toExpr.WellFormed ∧ n.toExpr.pieces = n.pieces ∧ n.toExpr.print = n.print
  | .identifier text, h, _ => ⟨⟨trivial, h⟩, rfl, rfl⟩
  | .generic _ _, _, hplain => absurd hplain (by simp [hasArguments])
  | .qualified left right, ⟨hleft, hsimple, hright⟩, hplain => by
    simp only [hasArguments, Bool.or_eq_false_iff] at hplain
    obtain ⟨field, rfl⟩ := hsimple.exists_eq_identifier hplain.2
    obtain ⟨hwf, hpieces, hprint⟩ := left.toExpr_spec hleft hplain.1
    refine ⟨⟨left.isReceiver_toExpr, hwf, hright⟩, ?_, ?_⟩
    · rw [toExpr, simpleIdentifier, Expr.pieces, hpieces, pieces, pieces]
    · rw [toExpr, simpleIdentifier, Expr.print, hprint, print, print]
  | .aliased qualifier inner, h, hplain => by
    obtain ⟨text, rfl⟩ := h.2.1.exists_eq_identifier hplain
    exact ⟨⟨trivial, h⟩, rfl, rfl⟩

end Name

/-! ## Brackets -/

/-- No token of a kind is among these. -/
def Lacks (kind : TokenKind) (pieces : List Piece) : Prop :=
  ∀ piece ∈ pieces, piece.kind ≠ kind

namespace Lacks

variable {kind : TokenKind} {first : Piece} {pieces more : List Piece}

/-- No token is of no kind. -/
@[simp] theorem nil : Lacks kind [] := by
  simp [Lacks]

/-- A kind is lacking if the first token is of another one and the others lack it. -/
@[simp] theorem cons : Lacks kind (first :: pieces) ↔ first.kind ≠ kind ∧ Lacks kind pieces :=
  List.forall_mem_cons

/-- A kind is lacking in tokens if both parts of them lack it. -/
@[simp] theorem append : Lacks kind (pieces ++ more) ↔ Lacks kind pieces ∧ Lacks kind more :=
  List.forall_mem_append

end Lacks

/-- The kind of a piece that is always written alike. -/
@[simp] theorem Piece.kind_fixed (kind : TokenKind) : (Piece.fixed kind).kind = kind := rfl

/-- Words are identifiers to the reader of tokens. -/
@[simp] theorem Piece.kind_word (text : String) : (Piece.word text).kind = .identifier := rfl

mutual

/-- Names have no parentheses. -/
theorem Name.lacks_leftParen : (n : Name) → Lacks .leftParen n.pieces
  | .identifier _ => by simp [Name.pieces]
  | .generic _ arguments => by
    simp [Name.pieces, TypeRef.lacks_leftParen_arguments arguments]
  | .qualified left right => by
    simp [Name.pieces, left.lacks_leftParen, right.lacks_leftParen]
  | .aliased _ inner => by simp [Name.pieces, inner.lacks_leftParen]

/-- Types have no parentheses. -/
theorem TypeRef.lacks_leftParen : (type : TypeRef) → Lacks .leftParen type.pieces
  | .predefined _ => by simp [TypeRef.pieces]
  | .named name => by simp [TypeRef.pieces, name.lacks_leftParen]
  | .array element rank => by
    have hcommas : Lacks .leftParen (List.replicate (rank - 1) (.fixed .comma)) := by
      simp [Lacks]
    simp [TypeRef.pieces, element.lacks_leftParen, hcommas]
  | .nullable type => by simp [TypeRef.pieces, type.lacks_leftParen]

/-- Type arguments hold no parentheses. -/
theorem TypeRef.lacks_leftParen_arguments :
    (types : List TypeRef) → Lacks .leftParen (TypeRef.argumentPieces types)
  | [] => by simp [TypeRef.argumentPieces]
  | type :: rest => by
    simp [TypeRef.argumentPieces, type.lacks_leftParen, TypeRef.lacks_leftParen_more rest]

/-- The types behind the first type argument hold no parentheses. -/
theorem TypeRef.lacks_leftParen_more :
    (types : List TypeRef) → Lacks .leftParen (TypeRef.morePieces types)
  | [] => by simp [TypeRef.morePieces]
  | type :: rest => by
    simp [TypeRef.morePieces, type.lacks_leftParen, TypeRef.lacks_leftParen_more rest]

end

/-- The type arguments of a name show in its angle brackets. -/
theorem Name.hasArguments_eq_false_iff :
    (n : Name) → (n.hasArguments = false ↔ Lacks .less n.pieces)
  | .identifier _ => by simp [hasArguments, pieces]
  | .generic _ _ => by simp [hasArguments, pieces]
  | .qualified left right => by
    simp [hasArguments, pieces, left.hasArguments_eq_false_iff, right.hasArguments_eq_false_iff]
  | .aliased _ inner => by simp [hasArguments, pieces, inner.hasArguments_eq_false_iff]

/-- No literal opens type arguments. -/
theorem Literal.lacks_less (value : Literal) : Lacks .less [value.piece] := by
  obtain ⟨kind, token⟩ := value
  cases kind <;> simp [piece]

/-- No prefix operator opens type arguments. -/
theorem PrefixOp.kind_ne_less (op : PrefixOp) : op.kind ≠ .less := by
  cases op <;> decide

/-- An expression without parentheses has no angle brackets, which stand in types behind `typeof`
only. -/
theorem Expr.lacks_less {e : Expr} (he : e.WellFormed) (h : Lacks .leftParen e.pieces) :
    Lacks .less e.pieces := by
  induction e with
  | literal value => exact value.lacks_less
  | name path =>
    cases path with
    | identifier text => simp [pieces, Name.pieces]
    | aliased qualifier inner =>
      cases inner with
      | identifier text => simp [pieces, Name.pieces]
      | _ => exact absurd he.1 id
    | _ => exact absurd he.1 id
  | predefined type => simp [pieces]
  | member receiver field ih =>
    simp only [pieces, Lacks.append] at h
    simp [pieces, ih he.2.1 h.1]
  | unary op operand ih =>
    simp only [pieces, Lacks.cons] at h
    simp [pieces, op.kind_ne_less, ih he.2 h.2]
  | paren inner => exact absurd h (by simp [pieces])
  | typeOf type => exact absurd h (by simp [pieces])
  | nameOf inner => exact absurd h (by simp [pieces])
  | assign left right ihLeft ihRight =>
    simp only [pieces, Lacks.append, Lacks.cons] at h
    simp [pieces, ihLeft he.2.1 h.1, ihRight he.2.2 h.2.2]

/-! ## The three ways of reading a name -/

/-- A text is read as a name exactly if it is read as the type of that name. -/
theorem Name.parse_eq_ok_iff_type {text : String} {n : Name} :
    Name.parse text = .ok n ↔ TypeRef.parse text = .ok (.named n) := by
  constructor
  · intro h
    obtain ⟨hn, stream, hstream, hpieces⟩ := Name.parse_sound h
    have htype : (TypeRef.named n).WellFormed := hn
    exact TypeRef.parse_of_pieces htype hstream (by rw [hpieces, TypeRef.pieces])
  · intro h
    obtain ⟨hn, stream, hstream, hpieces⟩ := TypeRef.parse_sound h
    rw [TypeRef.pieces] at hpieces
    exact Name.parse_of_pieces hn hstream hpieces

/-- A text that is a name is an expression only as the member accesses of the name. -/
theorem Name.parse_expr_iff {text : String} {n : Name} (h : Name.parse text = .ok n) {e : Expr} :
    Expr.parse text = .ok e ↔ n.hasArguments = false ∧ e = n.toExpr := by
  obtain ⟨hn, stream, hstream, hpieces⟩ := Name.parse_sound h
  have hread : n.hasArguments = false → Expr.parse text = .ok n.toExpr := by
    intro hplain
    obtain ⟨hwf, hsame, -⟩ := n.toExpr_spec hn hplain
    exact Expr.parse_of_pieces hwf hstream (hpieces.trans hsame.symm)
  constructor
  · intro he
    obtain ⟨hwf, stream', hstream', hpieces'⟩ := Expr.parse_sound he
    obtain rfl := Except.ok.inj (hstream.symm.trans hstream')
    have hsame : e.pieces = n.pieces := hpieces'.symm.trans hpieces
    have hplain : n.hasArguments = false := by
      rw [n.hasArguments_eq_false_iff, ← hsame]
      refine Expr.lacks_less hwf ?_
      rw [hsame]
      exact n.lacks_leftParen
    exact ⟨hplain, Except.ok.inj (he.symm.trans (hread hplain))⟩
  · rintro ⟨hplain, rfl⟩
    exact hread hplain

/-- Names, types and expressions agree on the texts they share: a name is read as a type and the
type is that name, and it is read as an expression exactly if it has no type arguments, and is then
spelled alike. -/
theorem Name.parsers_agree (text : String) (n : Name) :
    (Name.parse text = .ok n ↔ TypeRef.parse text = .ok (.named n)) ∧
      (Name.parse text = .ok n →
        ((∃ e, Expr.parse text = .ok e) ↔ n.hasArguments = false) ∧
          ∀ e, Expr.parse text = .ok e → e.print = n.print) := by
  refine ⟨Name.parse_eq_ok_iff_type, fun h => ⟨?_, ?_⟩⟩
  · simp only [Name.parse_expr_iff h, exists_and_left, exists_eq, and_true]
  · intro e he
    obtain ⟨hplain, rfl⟩ := (Name.parse_expr_iff h).mp he
    exact (n.toExpr_spec (Name.parse_sound h).1 hplain).2.2

/-- A chain behind an alias, with a word that has a meaning of its own in front of parentheses and a
marked word. -/
theorem Name.parsers_agree_sample :
    Name.parse "global::nameof.@class" =
        .ok (.qualified (.aliased "global" (.identifier "nameof")) (.identifier "@class")) ∧
      (∃ e, Expr.parse "global::nameof.@class" = .ok e) ∧
      ∀ e, Expr.parse "global::nameof.@class" = .ok e → e.print = "global::nameof.@class" := by
  have hname : Name.parse "global::nameof.@class" =
      .ok (.qualified (.aliased "global" (.identifier "nameof")) (.identifier "@class")) := by
    decide +kernel
  have hagree := (Name.parsers_agree "global::nameof.@class" _).2 hname
  exact ⟨hname, hagree.1.mpr rfl, hagree.2⟩

end DeclScribe
