import DeclScribe.Proofs.Fragment.RoundTrip

/-!
# The grammar of fragments

The grammar that fragments are written in is given here by itself: which tokens, in which order,
stand for which tree. What may be repeated is written with the repetition on the left, so that dots
and suffixes nest to the left; operators and assignments have it on the right. A text is read as a
tree if and only if its tokens derive the tree, which makes the grammar unambiguous as well.
-/

set_option autoImplicit false

namespace DeclScribe

/-- Tokens that each are a text of their kind. -/
def AreLexemes (pieces : List Piece) : Prop :=
  ∀ piece ∈ pieces, IsLexeme piece.kind piece.lexeme.toList

namespace Grammar

/-! ## Rules -/

/-- A text that can be used as an identifier: it is marked, or no reserved word. -/
def IsFree (text : String) : Prop :=
  Parser.isVerbatim text = true ∨ isReserved text = false

mutual

/-- `Name ::= Simple | Ident "::" Simple | Name "." Simple` -/
inductive DerivesName : List Piece → Name → Prop
  | simple {pieces : List Piece} {n : Name} : DerivesSimple pieces n → DerivesName pieces n
  | aliased {qualifier : String} {pieces : List Piece} {n : Name} : IsFree qualifier →
      DerivesSimple pieces n →
      DerivesName (.word qualifier :: .fixed .doubleColon :: pieces) (.aliased qualifier n)
  | qualified {front back : List Piece} {left right : Name} : DerivesName front left →
      DerivesSimple back right →
      DerivesName (front ++ .fixed .dot :: back) (.qualified left right)

/-- `Simple ::= Ident | Ident "<" Types ">"` -/
inductive DerivesSimple : List Piece → Name → Prop
  | identifier {text : String} : IsFree text → DerivesSimple [.word text] (.identifier text)
  | generic {text : String} {pieces : List Piece} {types : List TypeRef} : IsFree text →
      DerivesTypes pieces types →
      DerivesSimple (.word text :: .fixed .less :: (pieces ++ [.fixed .greater]))
        (.generic text types)

/-- `Types ::= Type | Type "," Types` -/
inductive DerivesTypes : List Piece → List TypeRef → Prop
  | last {pieces : List Piece} {type : TypeRef} : DerivesType pieces type →
      DerivesTypes pieces [type]
  | more {front back : List Piece} {type : TypeRef} {rest : List TypeRef} :
      DerivesType front type → DerivesTypes back rest →
      DerivesTypes (front ++ .fixed .comma :: back) (type :: rest)

/-- `Type ::= Predefined | Name | Type "?" | Type "[" ","* "]"` -/
inductive DerivesType : List Piece → TypeRef → Prop
  | predefined (type : Predefined) : DerivesType [.word type.word] (.predefined type)
  | named {pieces : List Piece} {n : Name} : DerivesName pieces n → DerivesType pieces (.named n)
  | nullable {pieces : List Piece} {type : TypeRef} : DerivesType pieces type →
      DerivesType (pieces ++ [.fixed .question]) (.nullable type)
  | array {pieces : List Piece} {type : TypeRef} (commas : Nat) : DerivesType pieces type →
      DerivesType (pieces ++ .fixed .leftBracket ::
        (List.replicate commas (.fixed .comma) ++ [.fixed .rightBracket]))
        (.array type (commas + 1))

end

mutual

/-- `Expr ::= Unary | Ident "=" Expr` -/
inductive DerivesExpr : List Piece → Expr → Prop
  | unary {pieces : List Piece} {e : Expr} : DerivesUnary pieces e → DerivesExpr pieces e
  | assign {target : String} {pieces : List Piece} {right : Expr} : IsFree target →
      DerivesExpr pieces right →
      DerivesExpr (.word target :: .fixed .equals :: pieces)
        (.assign (.identifier target) right)

/-- `Unary ::= ("-" | "+" | "!" | "~") Unary | Postfix` -/
inductive DerivesUnary : List Piece → Expr → Prop
  | operator (op : PrefixOp) {pieces : List Piece} {operand : Expr} :
      DerivesUnary pieces operand →
      DerivesUnary (.fixed op.kind :: pieces) (.unary op operand)
  | postfixed {pieces : List Piece} {e : Expr} : DerivesPostfix pieces e → DerivesUnary pieces e

/-- `Postfix ::= Primary | Postfix "." Ident` -/
inductive DerivesPostfix : List Piece → Expr → Prop
  | primary {pieces : List Piece} {e : Expr} : DerivesPrimary pieces e → DerivesPostfix pieces e
  | member {pieces : List Piece} {receiver : Expr} {field : String} :
      DerivesPostfix pieces receiver → IsFree field →
      DerivesPostfix (pieces ++ [.fixed .dot, .word field]) (.member receiver field)

/-- `Primary ::= String | Char | Number | true | false | null | "(" Expr ")" | typeof "(" Type ")" |
nameof "(" Expr ")" | Predefined | Ident | Ident "::" Ident` -/
inductive DerivesPrimary : List Piece → Expr → Prop
  | string (text : String) : DerivesPrimary [⟨.string, text⟩] (.literal ⟨.string, text⟩)
  | char (text : String) : DerivesPrimary [⟨.char, text⟩] (.literal ⟨.char, text⟩)
  | number (text : String) : DerivesPrimary [⟨.number, text⟩] (.literal ⟨.numeric, text⟩)
  | bool (value : Bool) :
      DerivesPrimary [.word (if value then "true" else "false")] (.literal (.ofBool value))
  | null : DerivesPrimary [.word "null"] (.literal .null)
  | paren {pieces : List Piece} {inner : Expr} : DerivesExpr pieces inner →
      DerivesPrimary (.fixed .leftParen :: (pieces ++ [.fixed .rightParen])) (.paren inner)
  | typeOf {pieces : List Piece} {type : TypeRef} : DerivesType pieces type →
      DerivesPrimary (.word "typeof" :: .fixed .leftParen :: (pieces ++ [.fixed .rightParen]))
        (.typeOf type)
  | nameOf {pieces : List Piece} {inner : Expr} : DerivesExpr pieces inner →
      DerivesPrimary (.word "nameof" :: .fixed .leftParen :: (pieces ++ [.fixed .rightParen]))
        (.nameOf inner)
  | predefined (type : Predefined) : DerivesPrimary [.word type.word] (.predefined type)
  | identifier {text : String} : IsFree text →
      DerivesPrimary [.word text] (.identifier text)
  | aliased {qualifier text : String} : IsFree qualifier → IsFree text →
      DerivesPrimary [.word qualifier, .fixed .doubleColon, .word text]
        (.name (.aliased qualifier (.identifier text)))

end

end Grammar

/-! ## What is derived is well-formed -/

section

variable {piece : Piece} {pieces more : List Piece}

/-- Pieces are texts of their kinds if the first one and the others are. -/
theorem areLexemes_cons :
    AreLexemes (piece :: pieces) ↔
      IsLexeme piece.kind piece.lexeme.toList ∧ AreLexemes pieces :=
  List.forall_mem_cons

/-- Pieces are texts of their kinds if both parts of them are. -/
theorem areLexemes_append :
    AreLexemes (pieces ++ more) ↔ AreLexemes pieces ∧ AreLexemes more :=
  List.forall_mem_append

/-- An identifier token that is free is an identifier. -/
theorem AreLexemes.isIdentifierText {text : String} (h : AreLexemes (.word text :: pieces))
    (hfree : Grammar.IsFree text) : IsIdentifierText text :=
  ⟨isSoleToken_iff.mpr (areLexemes_cons.mp h).1, hfree⟩

end

namespace Grammar

mutual

/-- What derives a name are the pieces of it, and the name is well-formed. The induction is on the
derivation, over all sorts of names and types at once. -/
theorem DerivesName.sound {pieces : List Piece} {n : Name} (h : DerivesName pieces n)
    (hlexed : AreLexemes pieces) : n.WellFormed ∧ pieces = n.pieces := by
  match h with
  | .simple hsimple => exact ⟨(hsimple.sound hlexed).2.1, (hsimple.sound hlexed).2.2⟩
  | .aliased hfree hinner =>
    have hbehind := (areLexemes_cons.mp (areLexemes_cons.mp hlexed).2).2
    obtain ⟨hsimple, hwf, rfl⟩ := hinner.sound hbehind
    exact ⟨⟨hlexed.isIdentifierText hfree, hsimple, hwf⟩, by rw [Name.pieces]⟩
  | .qualified hleft hright =>
    obtain ⟨hfront, hback⟩ := areLexemes_append.mp hlexed
    obtain ⟨hwfLeft, rfl⟩ := hleft.sound hfront
    obtain ⟨hsimple, hwfRight, rfl⟩ := hright.sound (areLexemes_cons.mp hback).2
    exact ⟨⟨hwfLeft, hsimple, hwfRight⟩, by rw [Name.pieces]⟩

/-- What derives a simple name are the pieces of it. -/
theorem DerivesSimple.sound {pieces : List Piece} {n : Name} (h : DerivesSimple pieces n)
    (hlexed : AreLexemes pieces) : n.IsSimple ∧ n.WellFormed ∧ pieces = n.pieces := by
  match h with
  | .identifier hfree =>
    exact ⟨trivial, hlexed.isIdentifierText hfree, by rw [Name.pieces]⟩
  | .generic hfree htypes =>
    have hbehind := (areLexemes_cons.mp (areLexemes_cons.mp hlexed).2).2
    obtain ⟨hne, hwf, rfl⟩ := htypes.sound (areLexemes_append.mp hbehind).1
    exact ⟨trivial, ⟨hlexed.isIdentifierText hfree, hne, hwf⟩, by rw [Name.pieces]⟩

/-- What derives type arguments are the pieces of them, and there is one at least. -/
theorem DerivesTypes.sound {pieces : List Piece} {types : List TypeRef}
    (h : DerivesTypes pieces types) (hlexed : AreLexemes pieces) :
    types ≠ [] ∧ TypeRef.AllWellFormed types ∧ pieces = TypeRef.argumentPieces types := by
  match h with
  | .last htype =>
    obtain ⟨hwf, rfl⟩ := htype.sound hlexed
    exact ⟨by simp, ⟨hwf, trivial⟩, by simp [TypeRef.argumentPieces, TypeRef.morePieces]⟩
  | @DerivesTypes.more _ _ _ rest htype hrest =>
    obtain ⟨hfront, hback⟩ := areLexemes_append.mp hlexed
    obtain ⟨hwf, rfl⟩ := htype.sound hfront
    obtain ⟨hne, hmore, rfl⟩ := hrest.sound (areLexemes_cons.mp hback).2
    refine ⟨by simp, ⟨hwf, hmore⟩, ?_⟩
    cases rest with
    | nil => exact absurd rfl hne
    | cons next others => rfl

/-- What derives a type are the pieces of it. -/
theorem DerivesType.sound {pieces : List Piece} {type : TypeRef} (h : DerivesType pieces type)
    (hlexed : AreLexemes pieces) : type.WellFormed ∧ pieces = type.pieces := by
  match h with
  | .predefined type => exact ⟨trivial, by rw [TypeRef.pieces]⟩
  | .named hname =>
    obtain ⟨hwf, rfl⟩ := hname.sound hlexed
    exact ⟨hwf, by rw [TypeRef.pieces]⟩
  | .nullable htype =>
    obtain ⟨hwf, rfl⟩ := htype.sound (areLexemes_append.mp hlexed).1
    exact ⟨hwf, by rw [TypeRef.pieces]⟩
  | .array commas htype =>
    obtain ⟨hwf, rfl⟩ := htype.sound (areLexemes_append.mp hlexed).1
    exact ⟨⟨hwf, by omega⟩, by rw [TypeRef.pieces, Nat.add_sub_cancel]⟩

end

mutual

/-- What derives an expression are the pieces of it. The induction is on the derivation, over the
four levels of expressions at once. -/
theorem DerivesExpr.sound {pieces : List Piece} {e : Expr} (h : DerivesExpr pieces e)
    (hlexed : AreLexemes pieces) : e.WellFormed ∧ pieces = e.pieces := by
  match h with
  | .unary hunary => exact (hunary.sound hlexed).2
  | .assign hfree hright =>
    have hbehind := (areLexemes_cons.mp (areLexemes_cons.mp hlexed).2).2
    obtain ⟨hwf, rfl⟩ := hright.sound hbehind
    have htarget := hlexed.isIdentifierText hfree
    exact ⟨⟨trivial, ⟨trivial, htarget⟩, hwf⟩, by simp [Expr.pieces, Expr.identifier, Name.pieces]⟩

/-- What derives an operand are the pieces of it. -/
theorem DerivesUnary.sound {pieces : List Piece} {e : Expr} (h : DerivesUnary pieces e)
    (hlexed : AreLexemes pieces) : e.IsOperand ∧ e.WellFormed ∧ pieces = e.pieces := by
  match h with
  | .operator op hoperand =>
    obtain ⟨hno, hwf, rfl⟩ := hoperand.sound (areLexemes_cons.mp hlexed).2
    exact ⟨trivial, ⟨hno, hwf⟩, by rw [Expr.pieces]⟩
  | .postfixed hpostfix =>
    obtain ⟨hreceiver, hwf, hpieces⟩ := hpostfix.sound hlexed
    exact ⟨hreceiver.isOperand, hwf, hpieces⟩

/-- What derives an expression with dots behind it are the pieces of it. -/
theorem DerivesPostfix.sound {pieces : List Piece} {e : Expr} (h : DerivesPostfix pieces e)
    (hlexed : AreLexemes pieces) : e.IsReceiver ∧ e.WellFormed ∧ pieces = e.pieces := by
  match h with
  | .primary hprimary => exact hprimary.sound hlexed
  | .member hreceiver hfree =>
    obtain ⟨hfront, hback⟩ := areLexemes_append.mp hlexed
    obtain ⟨hchain, hwf, rfl⟩ := hreceiver.sound hfront
    have hfield := (areLexemes_cons.mp hback).2.isIdentifierText hfree
    exact ⟨trivial, ⟨hchain, hwf, hfield⟩, by rw [Expr.pieces]⟩

/-- What derives an expression without operators are the pieces of it. -/
theorem DerivesPrimary.sound {pieces : List Piece} {e : Expr} (h : DerivesPrimary pieces e)
    (hlexed : AreLexemes pieces) : e.IsReceiver ∧ e.WellFormed ∧ pieces = e.pieces := by
  match h with
  | .string text => exact ⟨trivial, isSoleToken_iff.mpr (areLexemes_cons.mp hlexed).1, rfl⟩
  | .char text => exact ⟨trivial, isSoleToken_iff.mpr (areLexemes_cons.mp hlexed).1, rfl⟩
  | .number text => exact ⟨trivial, isSoleToken_iff.mpr (areLexemes_cons.mp hlexed).1, rfl⟩
  | .bool value => cases value <;> exact ⟨trivial, rfl, rfl⟩
  | .null => exact ⟨trivial, rfl, rfl⟩
  | .paren hinner =>
    have hinside := (areLexemes_append.mp (areLexemes_cons.mp hlexed).2).1
    obtain ⟨hwf, rfl⟩ := hinner.sound hinside
    exact ⟨trivial, hwf, by rw [Expr.pieces]⟩
  | .typeOf htype =>
    have hbehind := (areLexemes_cons.mp (areLexemes_cons.mp hlexed).2).2
    obtain ⟨hwf, rfl⟩ := htype.sound (areLexemes_append.mp hbehind).1
    exact ⟨trivial, hwf, by rw [Expr.pieces]⟩
  | .nameOf hinner =>
    have hbehind := (areLexemes_cons.mp (areLexemes_cons.mp hlexed).2).2
    obtain ⟨hwf, rfl⟩ := hinner.sound (areLexemes_append.mp hbehind).1
    exact ⟨trivial, hwf, by rw [Expr.pieces]⟩
  | .predefined type => exact ⟨trivial, trivial, rfl⟩
  | .identifier hfree =>
    have htext := hlexed.isIdentifierText hfree
    exact ⟨trivial, ⟨trivial, htext⟩, by simp [Expr.pieces, Expr.identifier, Name.pieces]⟩
  | .aliased hqualifier hfree =>
    have hbehind := (areLexemes_cons.mp (areLexemes_cons.mp hlexed).2).2
    have hqualifier := hlexed.isIdentifierText hqualifier
    have htext := hbehind.isIdentifierText hfree
    exact ⟨trivial, ⟨trivial, hqualifier, trivial, htext⟩, by simp [Expr.pieces, Name.pieces]⟩

end

end Grammar

/-! ## What is well-formed is derived -/

open Grammar

mutual

/-- A well-formed name is derived from its pieces. -/
theorem Name.derives (n : Name) (hn : n.WellFormed) : DerivesName n.pieces n := by
  match n with
  | .identifier text => exact .simple (Name.derivesSimple _ trivial hn)
  | .generic text arguments => exact .simple (Name.derivesSimple _ trivial hn)
  | .qualified left right =>
    obtain ⟨hleft, hsimple, hright⟩ := hn
    rw [Name.pieces]
    exact .qualified (left.derives hleft) (right.derivesSimple hsimple hright)
  | .aliased qualifier inner =>
    obtain ⟨hqualifier, hsimple, hinner⟩ := hn
    rw [Name.pieces]
    exact .aliased hqualifier.2 (inner.derivesSimple hsimple hinner)
termination_by (sizeOf n, 1)

/-- A well-formed simple name is derived as one. -/
theorem Name.derivesSimple (n : Name) (hsimple : n.IsSimple) (hn : n.WellFormed) :
    DerivesSimple n.pieces n := by
  match n with
  | .identifier text =>
    rw [Name.pieces]
    exact .identifier hn.2
  | .generic text arguments =>
    obtain ⟨htext, hne, harguments⟩ := hn
    rw [Name.pieces]
    exact .generic htext.2 (TypeRef.derivesTypes arguments hne harguments)
  | .qualified left right => exact absurd hsimple id
  | .aliased qualifier inner => exact absurd hsimple id
termination_by (sizeOf n, 0)

/-- Well-formed types are derived as type arguments. -/
theorem TypeRef.derivesTypes (types : List TypeRef) (hne : types ≠ [])
    (htypes : TypeRef.AllWellFormed types) :
    DerivesTypes (TypeRef.argumentPieces types) types := by
  match types with
  | [] => exact absurd rfl hne
  | [type] =>
    have hlast := DerivesTypes.last (type.derives htypes.1)
    simpa [TypeRef.argumentPieces, TypeRef.morePieces] using hlast
  | type :: next :: rest =>
    obtain ⟨htype, hrest⟩ := htypes
    exact .more (type.derives htype) (TypeRef.derivesTypes (next :: rest) (by simp) hrest)
termination_by (sizeOf types, 0)

/-- A well-formed type is derived from its pieces. -/
theorem TypeRef.derives (type : TypeRef) (htype : type.WellFormed) :
    DerivesType type.pieces type := by
  match type with
  | .predefined word =>
    rw [TypeRef.pieces]
    exact .predefined word
  | .named n =>
    rw [TypeRef.pieces]
    exact .named (n.derives htype)
  | .array element rank =>
    obtain ⟨helement, hrank⟩ := htype
    have harray := DerivesType.array (rank - 1) (element.derives helement)
    rw [Nat.sub_add_cancel hrank] at harray
    rw [TypeRef.pieces]
    exact harray
  | .nullable inner =>
    rw [TypeRef.pieces]
    exact .nullable (inner.derives htype)
termination_by (sizeOf type, 0)

end

/-- The rules that an expression can come from, for each place that it may stand in. -/
structure Expr.IsDerived (e : Expr) : Prop where
  receiver : e.IsReceiver → DerivesPostfix e.pieces e
  operand : e.IsOperand → DerivesUnary e.pieces e
  whole : DerivesExpr e.pieces e

namespace Expr.IsDerived

variable {e : Expr}

/-- What is derived as an operand is derived as an expression. -/
theorem of_operand (hno : ¬ e.IsReceiver) (h : DerivesUnary e.pieces e) : e.IsDerived :=
  ⟨fun hreceiver => absurd hreceiver hno, fun _ => h, .unary h⟩

/-- What is derived with dots behind it is derived on every level above. -/
theorem of_receiver (h : DerivesPostfix e.pieces e) : e.IsDerived :=
  ⟨fun _ => h, fun _ => .postfixed h, .unary (.postfixed h)⟩

/-- What is derived without operators is derived on every level. -/
theorem of_primary (h : DerivesPrimary e.pieces e) : e.IsDerived :=
  .of_receiver (.primary h)

end Expr.IsDerived

/-- A literal is derived from its one piece. -/
theorem Literal.derives (value : Literal) (hvalue : value.WellFormed) :
    DerivesPrimary [value.piece] (.literal value) := by
  obtain ⟨kind, text⟩ := value
  cases kind with
  | string => exact .string text
  | char => exact .char text
  | numeric => exact .number text
  | true =>
    obtain rfl : text = "true" := hvalue
    exact .bool true
  | false =>
    obtain rfl : text = "false" := hvalue
    exact .bool false
  | null =>
    obtain rfl : text = "null" := hvalue
    exact .null

/-- A well-formed expression is derived on the levels that its form allows. -/
theorem Expr.isDerived (e : Expr) (he : e.WellFormed) : e.IsDerived := by
  induction e with
  | literal value => exact .of_primary (value.derives he)
  | name path =>
    obtain ⟨hplain, hpath⟩ := he
    refine .of_primary ?_
    match path with
    | .identifier text =>
      rw [Expr.pieces, Name.pieces]
      exact .identifier hpath.2
    | .aliased qualifier (.identifier text) =>
      obtain ⟨hqualifier, -, htext⟩ := hpath
      rw [Expr.pieces, Name.pieces, Name.pieces]
      exact .aliased hqualifier.2 htext.2
    | .aliased _ (.generic _ _) => exact absurd hplain id
    | .aliased _ (.qualified _ _) => exact absurd hplain id
    | .aliased _ (.aliased _ _) => exact absurd hplain id
    | .generic _ _ => exact absurd hplain id
    | .qualified _ _ => exact absurd hplain id
  | predefined type => exact .of_primary (.predefined type)
  | member receiver field ih =>
    obtain ⟨hchain, hreceiver, hfield⟩ := he
    exact .of_receiver (.member ((ih hreceiver).receiver hchain) hfield.2)
  | unary op operand ih =>
    obtain ⟨hno, hoperand⟩ := he
    exact .of_operand id (.operator op ((ih hoperand).operand hno))
  | paren inner ih => exact .of_primary (.paren (ih he).whole)
  | typeOf type => exact .of_primary (.typeOf (type.derives he))
  | nameOf inner ih => exact .of_primary (.nameOf (ih he).whole)
  | assign left right ihLeft ihRight =>
    -- An assignment stands alone, so that the rules of the two other places are void.
    obtain ⟨htarget, hleft, hright⟩ := he
    refine ⟨fun h => absurd h id, fun h => absurd h id, ?_⟩
    match left with
    | .name (.identifier target) =>
      have hfree : IsFree target := hleft.2.2
      rw [Expr.pieces, Expr.pieces, Name.pieces]
      exact .assign hfree (ihRight hright).whole

/-! ## Parsing and deriving -/

/-- The texts that a parser accepts are those whose tokens derive a tree, and it gives this tree. -/
def Accepts {α : Type} (parse : String → Except ParseError α)
    (Derives : List Piece → α → Prop) : Prop :=
  ∀ text value, parse text = .ok value ↔
    ∃ stream, tokenize text = .ok stream ∧ Derives (stream.tokens.map Token.piece) value

/-- The tokens of a text are texts of their kinds. -/
theorem areLexemes_of_tokenize {text : String} {stream : TokenStream}
    (h : tokenize text = .ok stream) : AreLexemes (stream.tokens.map Token.piece) := by
  intro piece hpiece
  obtain ⟨t, ht, rfl⟩ := List.mem_map.mp hpiece
  exact Lexer.isLexeme_of_tokensFrom h t ht

/-- A parser that reads the well-formed trees from their tokens accepts a grammar that derives the
well-formed trees from their tokens. -/
theorem Accepts.of_pieces {α : Type} {parse : String → Except ParseError α}
    {Derives : List Piece → α → Prop} {WellFormed : α → Prop} {pieces : α → List Piece}
    (hsound : ∀ {text : String} {value : α}, parse text = .ok value → WellFormed value ∧
      ∃ stream, tokenize text = .ok stream ∧ stream.tokens.map Token.piece = pieces value)
    (hcomplete : ∀ {text : String} {stream : TokenStream} {value : α}, WellFormed value →
      tokenize text = .ok stream → stream.tokens.map Token.piece = pieces value →
      parse text = .ok value)
    (hderives : ∀ value, WellFormed value → Derives (pieces value) value)
    (hderived : ∀ {found : List Piece} {value : α}, Derives found value → AreLexemes found →
      WellFormed value ∧ found = pieces value) : Accepts parse Derives := by
  intro text value
  constructor
  · intro h
    obtain ⟨hvalue, stream, hstream, hpieces⟩ := hsound h
    exact ⟨stream, hstream, hpieces ▸ hderives value hvalue⟩
  · rintro ⟨stream, hstream, h⟩
    obtain ⟨hvalue, hpieces⟩ := hderived h (areLexemes_of_tokenize hstream)
    exact hcomplete hvalue hstream hpieces

/-- Names, types and expressions are what the grammar says: a text is read as a tree exactly when
it is split into tokens and these derive the tree. -/
theorem parsers_accept_grammar :
    Accepts Name.parse DerivesName ∧ Accepts TypeRef.parse DerivesType ∧
      Accepts Expr.parse DerivesExpr := by
  refine ⟨?_, ?_, ?_⟩
  · exact .of_pieces Name.parse_sound Name.parse_of_pieces Name.derives DerivesName.sound
  · exact .of_pieces TypeRef.parse_sound TypeRef.parse_of_pieces TypeRef.derives DerivesType.sound
  · refine .of_pieces Expr.parse_sound Expr.parse_of_pieces ?_ DerivesExpr.sound
    exact fun e he => (e.isDerived he).whole

end DeclScribe
