import DeclScribe.Proofs.Fragment.Sound

/-!
# Well-formed trees are read from their tokens

The tokens of a well-formed tree are read as this tree, if nothing follows that belongs to it. A
name is read from the left while the tree of a dotted name nests to the left, so what is shown of a
name is that reading it and what follows is the same as going on behind it; the suffixes of types
and the members of expressions are treated alike.
-/

set_option autoImplicit false

namespace DeclScribe

namespace Parser

section

variable {stop : Position} {ahead left : List Token}

/-- A token of one kind is not ahead as one of another kind. -/
theorem nextIs_eq_false {kind other : TokenKind} {t : Token} {rest : List Token}
    (ht : t.kind = other) (hother : other ≠ kind := by decide) :
    nextIs kind (t :: rest) = false :=
  nextIs_cons_eq_false.mpr (ht ▸ hother)

/-- A piece that is always written alike says the kind of its token. -/
theorem kind_of_fixed {t : Token} {kind : TokenKind} (h : t.piece = .fixed kind) :
    t.kind = kind :=
  congrArg Piece.kind h

/-- A word stands for an identifier token. -/
theorem kind_of_word {t : Token} {text : String} (h : t.piece = .word text) :
    t.kind = .identifier :=
  congrArg Piece.kind h

/-- A word is what its token is written as. -/
theorem lexeme_of_word {t : Token} {text : String} (h : t.piece = .word text) :
    t.lexeme = text :=
  congrArg Piece.lexeme h

/-- The word of a predefined type is read as that type. -/
theorem predefined?_complete {t : Token} {type : Predefined} (ht : t.piece = .word type.word) :
    predefined? t = some type := by
  rw [predefined?, if_pos (kind_of_word ht), lexeme_of_word ht, Predefined.ofWord?_word]

/-- Identifiers are not taken for predefined types, whose words are reserved. -/
theorem predefined?_eq_none {t : Token} {text : String} (htext : IsIdentifierText text)
    (ht : t.piece = .word text) : predefined? t = none := by
  rw [predefined?, if_pos (kind_of_word ht), lexeme_of_word ht, htext.ofWord?_eq_none]

/-- No type goes on with what is next. -/
structure EndsType (ahead : List Token) : Prop where
  less : nextIs .less ahead = false
  doubleColon : nextIs .doubleColon ahead = false
  dot : nextIs .dot ahead = false
  question : nextIs .question ahead = false
  leftBracket : nextIs .leftBracket ahead = false

/-- A type may end with the text. -/
theorem EndsType.nil : EndsType [] := ⟨rfl, rfl, rfl, rfl, rfl⟩

/-- A type may end before a comma, behind type arguments and before a closing parenthesis. -/
theorem EndsType.cons {t : Token} {rest : List Token} {kind : TokenKind} (ht : t.kind = kind)
    (h : kind = .comma ∨ kind = .greater ∨ kind = .rightParen) : EndsType (t :: rest) := by
  obtain rfl | rfl | rfl := h
  all_goals exact ⟨nextIs_eq_false ht, nextIs_eq_false ht, nextIs_eq_false ht,
    nextIs_eq_false ht, nextIs_eq_false ht⟩

/-- An identifier is read in any role. -/
theorem identifier_complete {role : NameRole} {t : Token} {text : String}
    (htext : IsIdentifierText text) (ht : t.piece = .word text) :
    Gives (identifier stop role (t :: left)) text left :=
  identifier_iff.mpr ⟨t, rfl, kind_of_word ht, lexeme_of_word ht, htext.2⟩

/-- Behind a simple name without an alias the dots are next. -/
theorem name_of_simpleName {first n : Name} {behind : List Token}
    (hfirst : Gives (simpleName stop ahead) first behind)
    (hcolon : nextIs .doubleColon behind = false)
    (htail : Gives (qualifiedTail stop first behind) n left) : Gives (name stop ahead) n left :=
  name_iff.mpr ⟨first, behind, hfirst, Or.inl ⟨hcolon, htail⟩⟩

/-- Without a dot ahead a qualified name is complete. -/
theorem qualifiedTail_stop {first : Name} (h : nextIs .dot ahead = false) :
    Gives (qualifiedTail stop first ahead) first ahead :=
  qualifiedTail_iff.mpr (Or.inl ⟨h, rfl, rfl⟩)

/-- Behind a type argument another one, or what is behind them all, ends it. -/
theorem EndsType.of_morePieces {types : List TypeRef} (hleft : EndsType left)
    (h : Takes ahead (TypeRef.morePieces types) left) : EndsType ahead := by
  cases types with
  | nil =>
    rw [TypeRef.morePieces, takes_nil] at h
    exact h ▸ hleft
  | cons type rest =>
    rw [TypeRef.morePieces, takes_cons] at h
    obtain ⟨t, behind, rfl, ht, -⟩ := h
    exact .cons (kind_of_fixed ht) (Or.inl rfl)

mutual

/-- A simple name is read up to a token that opens no type arguments. -/
theorem simpleName_complete {ahead left : List Token} (n : Name) (hsimple : n.IsSimple)
    (hn : n.WellFormed) (h : Takes ahead n.pieces left) (hless : nextIs .less left = false) :
    Gives (simpleName stop ahead) n left := by
  match n with
  | .identifier text =>
    rw [Name.pieces, takes_singleton] at h
    obtain ⟨t, rfl, ht⟩ := h
    exact simpleName_iff.mpr ⟨text, left, identifier_complete hn ht, Or.inl ⟨hless, rfl, rfl⟩⟩
  | .generic text [] => exact absurd rfl hn.2.1
  | .generic text (first :: more) =>
    obtain ⟨htext, -, hfirst, hmore⟩ := hn
    rw [Name.pieces, TypeRef.argumentPieces, takes_cons] at h
    obtain ⟨t, behind, rfl, ht, hbehind⟩ := h
    obtain ⟨u, rest, rfl, hu, hrest⟩ := takes_cons.mp hbehind
    obtain ⟨tail, htypes, hclose⟩ := takes_append.mp hrest
    obtain ⟨middle, hfirst', hmore'⟩ := takes_append.mp htypes
    obtain ⟨v, rfl, hv⟩ := takes_singleton.mp hclose
    have hgreater := kind_of_fixed hv
    have hend : EndsType (v :: left) := .cons hgreater (Or.inr (Or.inl rfl))
    have hfirst := typeRef_complete first hfirst hfirst' (hend.of_morePieces hmore')
    have hmore := moreArguments_complete more hmore hmore' hend
      (nextIs_eq_false hgreater)
    exact simpleName_iff.mpr ⟨text, u :: rest, identifier_complete htext ht, Or.inr
      ⟨u, rest, first, middle, more, v :: left, v, rfl, kind_of_fixed hu, hfirst, hmore, rfl,
        hgreater, rfl⟩⟩
termination_by (sizeOf n, 0)

/-- The types behind the first type argument are read up to the closing bracket. -/
theorem moreArguments_complete {ahead left : List Token} (types : List TypeRef)
    (htypes : TypeRef.AllWellFormed types) (h : Takes ahead (TypeRef.morePieces types) left)
    (hend : EndsType left) (hcomma : nextIs .comma left = false) :
    Gives (moreArguments stop ahead) types left := by
  match types with
  | [] =>
    rw [TypeRef.morePieces, takes_nil] at h
    subst h
    exact moreArguments_iff.mpr (Or.inl ⟨hcomma, rfl, rfl⟩)
  | first :: more =>
    rw [TypeRef.morePieces, takes_cons] at h
    obtain ⟨t, rest, rfl, ht, h⟩ := h
    obtain ⟨middle, h, h'⟩ := takes_append.mp h
    have hmore := moreArguments_complete more htypes.2 h' hend hcomma
    have hfirst := typeRef_complete first htypes.1 h (hend.of_morePieces h')
    exact moreArguments_iff.mpr (Or.inr ⟨t, rest, first, middle, more, rfl, kind_of_fixed ht,
      hfirst, hmore, rfl⟩)
termination_by (sizeOf types, 0)

/-- A name is read, and then what qualifies it from there on. It stands before any tail, so that the
induction reaches the names on the left of a dot. -/
theorem name_complete {ahead behind left : List Token} (n : Name) (hn : n.WellFormed)
    (h : Takes ahead n.pieces behind) (hless : nextIs .less behind = false)
    (hcolon : nextIs .doubleColon behind = false) {whole : Name}
    (htail : Gives (qualifiedTail stop n behind) whole left) :
    Gives (name stop ahead) whole left := by
  match n with
  | .identifier text =>
    have hfirst := simpleName_complete (.identifier text) trivial hn h hless
    exact name_of_simpleName hfirst hcolon htail
  | .generic text arguments =>
    have hfirst := simpleName_complete (.generic text arguments) trivial hn h hless
    exact name_of_simpleName hfirst hcolon htail
  | .qualified first right =>
    -- The tree nests to the left and the parser goes to the right: the last dot is read by the
    -- tail, and the induction goes on with the name before it.
    obtain ⟨hfirst, hsimple, hright⟩ := hn
    rw [Name.pieces, takes_append] at h
    obtain ⟨middle, h, h'⟩ := h
    obtain ⟨t, rest, rfl, ht, h'⟩ := takes_cons.mp h'
    have hdot := kind_of_fixed ht
    have hright' := simpleName_complete right hsimple hright h' hless
    refine name_complete first hfirst h (nextIs_eq_false hdot)
      (nextIs_eq_false hdot) ?_
    exact qualifiedTail_iff.mpr (Or.inr ⟨t, rest, right, behind, rfl, hdot, hright', htail⟩)
  | .aliased qualifier inner =>
    obtain ⟨hqualifier, hsimple, hinner⟩ := hn
    rw [Name.pieces, takes_cons] at h
    obtain ⟨t, rest, rfl, ht, h⟩ := h
    obtain ⟨u, rest, rfl, hu, h⟩ := takes_cons.mp h
    have hcolon' := kind_of_fixed hu
    have hqualifier' : Gives (simpleName stop (t :: u :: rest)) (.identifier qualifier)
        (u :: rest) :=
      simpleName_iff.mpr ⟨qualifier, u :: rest, identifier_complete hqualifier ht,
        Or.inl ⟨nextIs_eq_false hcolon', rfl, rfl⟩⟩
    have hinner' := simpleName_complete inner hsimple hinner h hless
    exact name_iff.mpr ⟨.identifier qualifier, u :: rest, hqualifier',
      Or.inr ⟨u, rest, qualifier, inner, behind, rfl, hcolon', rfl, hinner', htail⟩⟩
termination_by (sizeOf n, 1)

/-- A type is read, and then the suffixes from there on. It stands before any tail, so that the
induction reaches the types inside of arrays and of nullable types. -/
theorem typeRef_of_suffixes {ahead behind left : List Token} (type : TypeRef)
    (htype : type.WellFormed) (h : Takes ahead type.pieces behind)
    (hless : nextIs .less behind = false) (hcolon : nextIs .doubleColon behind = false)
    (hdot : nextIs .dot behind = false) {whole : TypeRef}
    (htail : Gives (typeSuffixes stop type behind) whole left) :
    Gives (typeRef stop ahead) whole left := by
  match type with
  | .predefined word =>
    rw [TypeRef.pieces, takes_singleton] at h
    obtain ⟨t, rfl, ht⟩ := h
    exact typeRef_iff.mpr (Or.inl ⟨t, behind, word, rfl, predefined?_complete ht, htail⟩)
  | .named n =>
    rw [TypeRef.pieces] at h
    obtain ⟨text, rest, htext, hrest⟩ := n.exists_pieces_eq_cons htype
    have hfirst := h
    rw [hrest, takes_cons] at hfirst
    obtain ⟨t, more, rfl, ht, -⟩ := hfirst
    have hname := name_complete n htype h hless hcolon (qualifiedTail_stop hdot)
    exact typeRef_iff.mpr
      (Or.inr ⟨t, more, n, behind, rfl, predefined?_eq_none htext ht, hname, htail⟩)
  | .array element rank =>
    obtain ⟨helement, hrank⟩ := htype
    rw [TypeRef.pieces, takes_append] at h
    obtain ⟨middle, h, h'⟩ := h
    obtain ⟨t, rest, rfl, ht, h'⟩ := takes_cons.mp h'
    obtain ⟨tail, ⟨commas, rfl, hcommas⟩, hclose⟩ := takes_append.mp h'
    obtain ⟨u, rfl, hu⟩ := takes_singleton.mp hclose
    have hbracket := kind_of_fixed ht
    -- The number of dimensions is one more than the number of commas that were read.
    have hlength : commas.length = rank - 1 := by
      rw [← List.length_map Token.piece, hcommas, List.length_replicate]
    have hkinds : ∀ c ∈ commas, c.kind = .comma := by
      intro c hc
      have hpiece : c.piece ∈ List.replicate (rank - 1) (Piece.fixed .comma) :=
        hcommas ▸ List.mem_map_of_mem hc
      exact kind_of_fixed (List.eq_of_mem_replicate hpiece)
    refine typeRef_of_suffixes element helement h (nextIs_eq_false hbracket)
      (nextIs_eq_false hbracket) (nextIs_eq_false hbracket) ?_
    refine typeSuffixes_iff.mpr (Or.inr (Or.inr ⟨t, commas, u, behind, rfl, hbracket, hkinds,
      kind_of_fixed hu, ?_⟩))
    rw [hlength, Nat.sub_add_cancel hrank]
    exact htail
  | .nullable inner =>
    rw [TypeRef.pieces, takes_append] at h
    obtain ⟨middle, h, h'⟩ := h
    obtain ⟨t, rfl, ht⟩ := takes_singleton.mp h'
    have hquestion := kind_of_fixed ht
    refine typeRef_of_suffixes inner htype h (nextIs_eq_false hquestion)
      (nextIs_eq_false hquestion) (nextIs_eq_false hquestion) ?_
    exact typeSuffixes_iff.mpr (Or.inr (Or.inl ⟨t, behind, rfl, hquestion, htail⟩))
termination_by (sizeOf type, 0)

/-- A well-formed type is read from its tokens. -/
theorem typeRef_complete {ahead left : List Token} (type : TypeRef) (htype : type.WellFormed)
    (h : Takes ahead type.pieces left) (hend : EndsType left) :
    Gives (typeRef stop ahead) type left :=
  typeRef_of_suffixes type htype h hend.less hend.doubleColon hend.dot
    (typeSuffixes_iff.mpr (Or.inl ⟨hend.question, hend.leftBracket, rfl, rfl⟩))
termination_by (sizeOf type, 1)

end

/-! ## Expressions -/

/-- No expression goes on with what is next. -/
structure EndsExpr (ahead : List Token) : Prop where
  doubleColon : nextIs .doubleColon ahead = false
  leftParen : nextIs .leftParen ahead = false
  dot : nextIs .dot ahead = false
  equals : nextIs .equals ahead = false

/-- An expression may end with the text. -/
theorem EndsExpr.nil : EndsExpr [] := ⟨rfl, rfl, rfl, rfl⟩

/-- An expression may end before a closing parenthesis. -/
theorem EndsExpr.rightParen {t : Token} {rest : List Token} (ht : t.kind = .rightParen) :
    EndsExpr (t :: rest) :=
  ⟨nextIs_eq_false ht, nextIs_eq_false ht, nextIs_eq_false ht,
    nextIs_eq_false ht⟩

/-- Nothing that is read without operators starts with one. -/
theorem prefixOp?_eq_none {t : Token} {rest : List Token} {e : Expr}
    (h : Gives (primary stop (t :: rest)) e left) : prefixOp? t = none := by
  cases primary_iff.mp h with
  | literal _ _ value hvalue =>
    unfold literal? at hvalue
    split at hvalue
    case h_5 => exact absurd hvalue (by simp)
    all_goals
      rename_i hkind
      simp [prefixOp?, hkind]
  | paren _ _ _ inner hkind _ => simp [prefixOp?, hkind]
  | typeOf _ _ _ _ hkind _ _ => simp [prefixOp?, hkind]
  | nameOf _ u _ _ inner hkind _ _ _ => simp [prefixOp?, hkind]
  | predefined _ _ type htype =>
    unfold predefined? at htype
    split at htype
    · rename_i hkind
      simp [prefixOp?, hkind]
    · exact absurd htype (by simp)
  | name _ _ _ _ _ _ hkind _ _ _ => simp [prefixOp?, hkind]

/-- Behind an expression without operators the members are next. -/
theorem unary_of_primary {receiver whole : Expr} {behind : List Token}
    (hreceiver : Gives (primary stop ahead) receiver behind)
    (htail : Gives (memberTail stop receiver behind) whole left) :
    Gives (unary stop ahead) whole left := by
  cases ahead with
  | nil => cases primary_iff.mp hreceiver
  | cons t rest =>
    exact unary_iff.mpr (Or.inr ⟨t, rest, receiver, behind, rfl, prefixOp?_eq_none hreceiver,
      hreceiver, htail⟩)

/-- A literal is read from its token, whatever its kind. -/
theorem literal?_complete {t : Token} {value : Literal} (hvalue : value.WellFormed)
    (ht : t.piece = value.piece) : literal? t = some value := by
  obtain ⟨kind, text⟩ := value
  have hkind : t.kind = (Literal.piece ⟨kind, text⟩).kind := congrArg Piece.kind ht
  have htext : t.lexeme = (Literal.piece ⟨kind, text⟩).lexeme := congrArg Piece.lexeme ht
  cases kind
  all_goals
    simp only [Literal.piece, Piece.word] at hkind htext
    simp_all [literal?, Literal.WellFormed]

/-- Identifiers are not taken for literals, whose words are reserved. -/
theorem literal?_eq_none {t : Token} {text : String} (htext : IsIdentifierText text)
    (ht : t.piece = .word text) : literal? t = none := by
  have hkind := kind_of_word ht
  have hlexeme := lexeme_of_word ht
  have htrue : text ≠ "true" := htext.ne_of_isReserved
  have hfalse : text ≠ "false" := htext.ne_of_isReserved
  have hnull : text ≠ "null" := htext.ne_of_isReserved
  simp [literal?, hkind, hlexeme, htrue, hfalse, hnull]

/-- A prefix operator is found by its token. -/
theorem prefixOp?_complete {t : Token} {op : PrefixOp} (h : t.kind = op.kind) :
    prefixOp? t = some op := by
  cases op <;> simp [prefixOp?, h, PrefixOp.kind]

/-- An identifier that is no predefined type, literal or operator is read as a name. -/
theorem primary_of_nameExpression {t : Token} {rest : List Token} {text : String} {e : Expr}
    (htext : IsIdentifierText text) (ht : t.piece = .word text)
    (hparen : nextIs .leftParen rest = false)
    (h : Gives (nameExpression stop (t :: rest)) e left) :
    Gives (primary stop (t :: rest)) e left := by
  have htypeof : t.lexeme ≠ "typeof" := by
    rw [lexeme_of_word ht]
    exact htext.ne_of_isReserved
  exact primary_iff.mpr (.name t rest left e (literal?_eq_none htext ht)
    (predefined?_eq_none htext ht) (kind_of_word ht) htypeof (fun _ => hparen) h)

/-- What reading the tokens of an expression comes to, in each of the places it may stand in. -/
structure IsReadBack (e : Expr) : Prop where
  receiver {stop : Position} {ahead behind left : List Token} {whole : Expr} : e.IsReceiver →
    Takes ahead e.pieces behind → nextIs .doubleColon behind = false →
    nextIs .leftParen behind = false → Gives (memberTail stop e behind) whole left →
    Gives (unary stop ahead) whole left
  operand {stop : Position} {ahead left : List Token} : e.IsOperand → Takes ahead e.pieces left →
    nextIs .doubleColon left = false → nextIs .leftParen left = false →
    nextIs .dot left = false → Gives (unary stop ahead) e left
  whole {stop : Position} {ahead left : List Token} : Takes ahead e.pieces left → EndsExpr left →
    Gives (expression stop ahead) e left

/-- An expression that can be an operand can stand alone. -/
theorem IsReadBack.of_operand {e : Expr} (hno : ¬ e.IsReceiver)
    (h : ∀ {stop : Position} {ahead left : List Token}, Takes ahead e.pieces left →
      nextIs .doubleColon left = false → nextIs .leftParen left = false →
      nextIs .dot left = false → Gives (unary stop ahead) e left) : IsReadBack e where
  receiver hreceiver := absurd hreceiver hno
  operand _ := h
  whole htakes hend := expression_iff.mpr ⟨e, _,
    h htakes hend.doubleColon hend.leftParen hend.dot, Or.inl ⟨hend.equals, rfl, rfl⟩⟩

/-- An expression that is read without operators can stand before a dot, behind an operator and
alone. -/
theorem IsReadBack.of_receiver {e : Expr}
    (h : ∀ {stop : Position} {ahead behind left : List Token} {whole : Expr},
      Takes ahead e.pieces behind → nextIs .doubleColon behind = false →
      nextIs .leftParen behind = false → Gives (memberTail stop e behind) whole left →
      Gives (unary stop ahead) whole left) : IsReadBack e := by
  have hoperand {stop : Position} {ahead left : List Token} (htakes : Takes ahead e.pieces left)
      (hcolon : nextIs .doubleColon left = false) (hparen : nextIs .leftParen left = false)
      (hdot : nextIs .dot left = false) : Gives (unary stop ahead) e left :=
    h htakes hcolon hparen (memberTail_iff.mpr (Or.inl ⟨hdot, rfl, rfl⟩))
  exact {
    receiver := fun _ => h
    operand := fun _ => hoperand
    whole := fun htakes hend => expression_iff.mpr ⟨e, _,
      hoperand htakes hend.doubleColon hend.leftParen hend.dot,
      Or.inl ⟨hend.equals, rfl, rfl⟩⟩ }

/-- The same, of an expression that is read in one piece. -/
theorem IsReadBack.of_primary {e : Expr}
    (h : ∀ {stop : Position} {ahead left : List Token}, Takes ahead e.pieces left →
      nextIs .doubleColon left = false → nextIs .leftParen left = false →
      Gives (primary stop ahead) e left) : IsReadBack e :=
  .of_receiver fun htakes hcolon hparen htail => unary_of_primary (h htakes hcolon hparen) htail

/-- An expression in parentheses is read up to the closing one. -/
theorem enclosed_complete {inner : Expr} (hinner : IsReadBack inner)
    (h : Takes ahead (inner.pieces ++ [.fixed .rightParen]) left) :
    Gives (enclosed stop ahead) inner left := by
  obtain ⟨middle, htakes, hclose⟩ := takes_append.mp h
  obtain ⟨u, rfl, hu⟩ := takes_singleton.mp hclose
  have hparen := kind_of_fixed hu
  exact enclosed_iff.mpr ⟨u, hinner.whole htakes (.rightParen hparen), hparen⟩

/-- Every well-formed expression is read from its tokens. -/
theorem isReadBack (e : Expr) (he : e.WellFormed) : IsReadBack e := by
  induction e with
  | literal value =>
    refine .of_primary fun {stop ahead left} htakes _ _ => ?_
    rw [Expr.pieces, takes_singleton] at htakes
    obtain ⟨t, rfl, ht⟩ := htakes
    exact primary_iff.mpr (.literal t left value (literal?_complete he ht))
  | name path =>
    refine .of_primary fun {stop ahead left} htakes hcolon hparen => ?_
    obtain ⟨hplain, hpath⟩ := he
    match path with
    | .identifier text =>
      rw [Expr.pieces, Name.pieces, takes_singleton] at htakes
      obtain ⟨t, rfl, ht⟩ := htakes
      refine primary_of_nameExpression hpath ht hparen ?_
      exact nameExpression_iff.mpr ⟨text, left, identifier_complete hpath ht,
        Or.inl ⟨hcolon, rfl, rfl⟩⟩
    | .aliased qualifier (.identifier inner) =>
      obtain ⟨hqualifier, -, hinner⟩ := hpath
      rw [Expr.pieces, Name.pieces, Name.pieces, takes_cons] at htakes
      obtain ⟨t, rest, rfl, ht, htakes⟩ := htakes
      obtain ⟨u, rest, rfl, hu, htakes⟩ := takes_cons.mp htakes
      obtain ⟨v, rfl, hv⟩ := takes_singleton.mp htakes
      have hcolon' := kind_of_fixed hu
      refine primary_of_nameExpression hqualifier ht (nextIs_eq_false hcolon') ?_
      exact nameExpression_iff.mpr ⟨qualifier, u :: v :: left, identifier_complete hqualifier ht,
        Or.inr ⟨u, v :: left, inner, rfl, hcolon', identifier_complete hinner hv, rfl⟩⟩
    | .aliased _ (.generic _ _) => exact absurd hplain id
    | .aliased _ (.qualified _ _) => exact absurd hplain id
    | .aliased _ (.aliased _ _) => exact absurd hplain id
    | .generic _ _ => exact absurd hplain id
    | .qualified _ _ => exact absurd hplain id
  | predefined type =>
    refine .of_primary fun {stop ahead left} htakes _ _ => ?_
    rw [Expr.pieces, takes_singleton] at htakes
    obtain ⟨t, rfl, ht⟩ := htakes
    exact primary_iff.mpr (.predefined t left type (predefined?_complete ht))
  | member receiver field ih =>
    obtain ⟨hchain, hreceiver, hfield⟩ := he
    refine .of_receiver fun {stop ahead behind left whole} htakes _ _ htail => ?_
    rw [Expr.pieces, takes_append] at htakes
    obtain ⟨middle, htakes, hfield'⟩ := htakes
    obtain ⟨t, rest, rfl, ht, hfield'⟩ := takes_cons.mp hfield'
    obtain ⟨u, rfl, hu⟩ := takes_singleton.mp hfield'
    have hdot := kind_of_fixed ht
    refine (ih hreceiver).receiver hchain htakes (nextIs_eq_false hdot)
      (nextIs_eq_false hdot) ?_
    exact memberTail_iff.mpr (Or.inr ⟨t, u :: behind, field, behind, rfl, hdot,
      identifier_complete hfield hu, htail⟩)
  | unary op operand ih =>
    obtain ⟨hno, hoperand⟩ := he
    refine .of_operand id fun {stop ahead left} htakes hcolon hparen hdot => ?_
    rw [Expr.pieces, takes_cons] at htakes
    obtain ⟨t, rest, rfl, ht, htakes⟩ := htakes
    exact unary_iff.mpr (Or.inl ⟨t, rest, op, operand, rfl,
      prefixOp?_complete (kind_of_fixed ht),
      (ih hoperand).operand hno htakes hcolon hparen hdot, rfl⟩)
  | paren inner ih =>
    refine .of_primary fun {stop ahead left} htakes _ _ => ?_
    rw [Expr.pieces, takes_cons] at htakes
    obtain ⟨t, rest, rfl, ht, htakes⟩ := htakes
    exact primary_iff.mpr (.paren t rest left inner (kind_of_fixed ht)
      (enclosed_complete (ih he) htakes))
  | typeOf type =>
    refine .of_primary fun {stop ahead left} htakes _ _ => ?_
    rw [Expr.pieces, takes_cons] at htakes
    obtain ⟨t, rest, rfl, ht, htakes⟩ := htakes
    obtain ⟨u, rest, rfl, hu, htakes⟩ := takes_cons.mp htakes
    obtain ⟨middle, htakes', hclose⟩ := takes_append.mp htakes
    obtain ⟨v, rfl, hv⟩ := takes_singleton.mp hclose
    have hparen := kind_of_fixed hv
    have htype : Gives (typeRef stop rest) type (v :: left) :=
      typeRef_complete type he htakes' (.cons hparen (Or.inr (Or.inr rfl)))
    exact primary_iff.mpr (.typeOf t (u :: rest) left (.typeOf type) (kind_of_word ht)
      (lexeme_of_word ht) (typeOf_iff.mpr ⟨u, rest, type, v, rfl, kind_of_fixed hu, htype,
        hparen, rfl⟩))
  | nameOf inner ih =>
    refine .of_primary fun {stop ahead left} htakes _ _ => ?_
    rw [Expr.pieces, takes_cons] at htakes
    obtain ⟨t, rest, rfl, ht, htakes⟩ := htakes
    obtain ⟨u, rest, rfl, hu, htakes⟩ := takes_cons.mp htakes
    exact primary_iff.mpr (.nameOf t u rest left inner (kind_of_word ht)
      (lexeme_of_word ht) (kind_of_fixed hu) (enclosed_complete (ih he) htakes))
  | assign target right ihTarget ihRight =>
    -- An assignment stands nowhere but alone, so the two other places are void.
    obtain ⟨htarget, htarget', hright⟩ := he
    refine ⟨fun h => absurd h id, fun h => absurd h id, ?_⟩
    intro stop ahead left htakes hend
    rw [Expr.pieces, takes_append] at htakes
    obtain ⟨middle, htakes, hright'⟩ := htakes
    obtain ⟨t, rest, rfl, ht, hright'⟩ := takes_cons.mp hright'
    have hequals := kind_of_fixed ht
    match target with
    | .name (.identifier text) =>
      have hfirst : Gives (unary stop ahead) (.name (.identifier text)) (t :: rest) :=
        (ihTarget htarget').operand trivial htakes (nextIs_eq_false hequals)
          (nextIs_eq_false hequals) (nextIs_eq_false hequals)
      exact expression_iff.mpr ⟨_, t :: rest, hfirst, Or.inr ⟨t, rest, text, right, rfl, hequals,
        rfl, (ihRight hright).whole hright' hend, rfl⟩⟩

/-- A well-formed expression is read from its tokens. -/
theorem expression_complete (e : Expr) (he : e.WellFormed) (h : Takes ahead e.pieces left)
    (hend : EndsExpr left) : Gives (expression stop ahead) e left :=
  (isReadBack e he).whole h hend

end

end Parser

end DeclScribe
