import DeclScribe.Proofs.Fragment.Steps

/-!
# What is read is well-formed

Reading tokens that come from a text gives well-formed trees only, and the tokens that were read
are the tokens of the tree. So a tree says all about its text but the spaces.
-/

set_option autoImplicit false

namespace DeclScribe

namespace Parser

/-- Tokens that each are a text of their kind. -/
def Lexed (tokens : List Token) : Prop :=
  ∀ t ∈ tokens, IsLexeme t.kind t.lexeme.toList

/-- What stands ahead is the given tokens, and then what is left. -/
def Takes (ahead : List Token) (pieces : List Piece) (left : List Token) : Prop :=
  ∃ used, ahead = used ++ left ∧ used.map Token.piece = pieces

section

variable {stop : Position} {ahead middle left : List Token}

/-- Where no token is taken everything is left. -/
@[simp] theorem takes_nil : Takes ahead [] left ↔ ahead = left := by
  constructor
  · rintro ⟨used, rfl, hused⟩
    rw [List.map_eq_nil_iff] at hused
    rw [hused, List.nil_append]
  · rintro rfl
    exact ⟨[], rfl, rfl⟩

/-- The first piece is that of the first token ahead. -/
theorem takes_cons {piece : Piece} {pieces : List Piece} :
    Takes ahead (piece :: pieces) left ↔
      ∃ t rest, ahead = t :: rest ∧ t.piece = piece ∧ Takes rest pieces left := by
  constructor
  · rintro ⟨used, rfl, hused⟩
    obtain ⟨t, rest, rfl, ht, hrest⟩ := List.map_eq_cons_iff.mp hused
    exact ⟨t, rest ++ left, rfl, ht, rest, rfl, hrest⟩
  · rintro ⟨t, rest, rfl, ht, used, rfl, hused⟩
    exact ⟨t :: used, rfl, by rw [List.map_cons, ht, hused]⟩

/-- A single piece is that of the next token. -/
theorem takes_singleton {piece : Piece} :
    Takes ahead [piece] left ↔ ∃ t, ahead = t :: left ∧ t.piece = piece := by
  rw [takes_cons]
  constructor
  · rintro ⟨t, rest, rfl, ht, hrest⟩
    exact ⟨t, by rw [takes_nil.mp hrest], ht⟩
  · rintro ⟨t, rfl, ht⟩
    exact ⟨t, left, rfl, ht, takes_nil.mpr rfl⟩

/-- What is taken in one go can be taken in two. -/
theorem takes_append {pieces more : List Piece} :
    Takes ahead (pieces ++ more) left ↔ ∃ middle, Takes ahead pieces middle ∧
      Takes middle more left := by
  constructor
  · rintro ⟨used, rfl, hused⟩
    obtain ⟨first, rest, rfl, hfirst, hrest⟩ := List.map_eq_append_iff.mp hused
    exact ⟨rest ++ left, ⟨first, List.append_assoc _ _ _, hfirst⟩, rest, rfl, hrest⟩
  · rintro ⟨middle, ⟨first, rfl, hfirst⟩, rest, rfl, hrest⟩
    exact ⟨first ++ rest, (List.append_assoc _ _ _).symm, by rw [List.map_append, hfirst, hrest]⟩

/-- What is taken in two goes is taken in one. -/
theorem Takes.trans {pieces more : List Piece} (h : Takes ahead pieces middle)
    (hmore : Takes middle more left) : Takes ahead (pieces ++ more) left :=
  takes_append.mpr ⟨middle, h, hmore⟩

/-- A token more in front is taken first. -/
theorem Takes.cons {t : Token} {rest : List Token} {piece : Piece} {pieces : List Piece}
    (ht : t.piece = piece) (h : Takes rest pieces left) :
    Takes (t :: rest) (piece :: pieces) left :=
  takes_cons.mpr ⟨t, rest, rfl, ht, h⟩

/-- One token is taken as its piece. -/
theorem Takes.single {t : Token} {rest : List Token} {piece : Piece} (ht : t.piece = piece) :
    Takes (t :: rest) [piece] rest :=
  takes_singleton.mpr ⟨t, rfl, ht⟩

/-- What is left behind taken tokens are tokens of the same text. -/
theorem Lexed.of_takes {pieces : List Piece} (h : Lexed ahead) (htakes : Takes ahead pieces left) :
    Lexed left := by
  obtain ⟨used, rfl, -⟩ := htakes
  intro t ht
  exact h t (List.mem_append_right _ ht)

/-- The first of the tokens is a text of its kind. -/
theorem Lexed.head {t : Token} {rest : List Token} (h : Lexed (t :: rest)) :
    IsLexeme t.kind t.lexeme.toList :=
  h t List.mem_cons_self

/-- The tokens behind the first one are texts of their kinds. -/
theorem Lexed.tail {t : Token} {rest : List Token} (h : Lexed (t :: rest)) : Lexed rest :=
  fun u hu => h u (List.mem_cons_of_mem _ hu)

/-- Of a token that is always written alike the kind says all. -/
theorem piece_eq_fixed {t : Token} {kind : TokenKind} (h : IsLexeme t.kind t.lexeme.toList)
    (hkind : t.kind = kind) (hfixed : kind.spelling ≠ "" := by decide) :
    t.piece = .fixed kind := by
  rw [hkind] at h
  have htext := h.eq_spelling hfixed
  rw [String.ofList_toList] at htext
  rw [Token.piece, Piece.fixed, hkind, htext]

/-- What is read as an identifier is one, and is the one token that was taken. -/
theorem identifier_sound {role : NameRole} {text : String} (hlexed : Lexed ahead)
    (h : Gives (identifier stop role ahead) text left) :
    IsIdentifierText text ∧ Takes ahead [.word text] left := by
  obtain ⟨t, rfl, hkind, rfl, hfree⟩ := identifier_iff.mp h
  have hlexeme := hlexed.head
  rw [hkind] at hlexeme
  refine ⟨⟨isSoleToken_iff.mpr hlexeme, hfree⟩, .single ?_⟩
  rw [Token.piece, hkind, Piece.word]

/-- What is read as a predefined type is its word. -/
theorem predefined?_sound {t : Token} {rest : List Token} {type : Predefined}
    (h : predefined? t = some type) : Takes (t :: rest) [.word type.word] rest := by
  unfold predefined? at h
  split at h
  · rename_i hkind
    refine .single ?_
    rw [Token.piece, hkind, Piece.word, Predefined.ofWord?_eq_some_iff.mp h]
  · exact absurd h (by simp)

/-- Suffixes add their tokens to those of the type. The induction is on the tokens ahead, with the
type growing. -/
theorem typeSuffixes_sound {ahead : List Token} {type whole : TypeRef} (hlexed : Lexed ahead)
    (htype : type.WellFormed) (h : Gives (typeSuffixes stop type ahead) whole left) :
    whole.WellFormed ∧ ∃ more, whole.pieces = type.pieces ++ more ∧ Takes ahead more left := by
  rcases typeSuffixes_iff.mp h with ⟨-, -, rfl, rfl⟩ | ⟨t, rest, hahead, hquestion, hrest⟩ |
    ⟨t, commas, u, rest, hahead, hbracket, hcommas, hu, hrest⟩
  · exact ⟨htype, [], by simp, takes_nil.mpr rfl⟩
  · rw [hahead] at hlexed
    have hshorter : rest.length < ahead.length := by simp [hahead]
    have hnullable : type.nullable.WellFormed := htype
    obtain ⟨hwhole, more, hpieces, htakes⟩ := typeSuffixes_sound hlexed.tail hnullable hrest
    refine ⟨hwhole, .fixed .question :: more, ?_, ?_⟩
    · rw [hpieces, TypeRef.pieces, List.append_assoc, List.singleton_append]
    · rw [hahead]
      exact .cons (piece_eq_fixed hlexed.head hquestion) htakes
  · rw [hahead] at hlexed
    have hshorter : rest.length < ahead.length := by
      simp [hahead]
      omega
    have hrank : (type.array (commas.length + 1)).WellFormed := ⟨htype, by omega⟩
    -- the commas are written as often as they were read
    have hcommas' : Takes (commas ++ u :: rest) (List.replicate commas.length (.fixed .comma))
        (u :: rest) := by
      refine ⟨commas, rfl, List.eq_replicate_iff.mpr ⟨by simp, ?_⟩⟩
      intro piece hpiece
      obtain ⟨c, hc, rfl⟩ := List.mem_map.mp hpiece
      exact piece_eq_fixed (hlexed.tail c (List.mem_append_left _ hc)) (hcommas c hc)
    have hclose := hlexed.tail.of_takes hcommas'
    obtain ⟨hwhole, more, hpieces, htakes⟩ := typeSuffixes_sound hclose.tail hrank hrest
    refine ⟨hwhole, .fixed .leftBracket :: (List.replicate commas.length (.fixed .comma) ++
      .fixed .rightBracket :: more), ?_, ?_⟩
    · rw [hpieces, TypeRef.pieces]
      simp
    · rw [hahead]
      exact .cons (piece_eq_fixed hlexed.head hbracket)
        (hcommas'.trans (.cons (piece_eq_fixed hclose.head hu) htakes))
termination_by ahead.length

mutual

/-- What is read as a simple name is one, and the tokens that were taken are its tokens. -/
theorem simpleName_sound {ahead left : List Token} {n : Name} (hlexed : Lexed ahead)
    (h : Gives (simpleName stop ahead) n left) :
    n.IsSimple ∧ n.WellFormed ∧ Takes ahead n.pieces left := by
  obtain ⟨text, behind, hid, ⟨-, rfl, rfl⟩ | ⟨t, rest, first, middle, more, tail, u, rfl, hless,
    hfirst, hmore, rfl, hu, rfl⟩⟩ := simpleName_iff.mp h
  · obtain ⟨htext, htakes⟩ := identifier_sound hlexed hid
    exact ⟨trivial, htext, htakes⟩
  · -- What is left gets shorter with each step, which is what the recursion below rests on.
    have hshorter := hid.property
    have hshortest := hfirst.property
    obtain ⟨htext, htakes⟩ := identifier_sound hlexed hid
    have hangle := hlexed.of_takes htakes
    obtain ⟨hfirst, hfirst'⟩ := typeRef_sound hangle.tail hfirst
    have hmiddle := hangle.tail.of_takes hfirst'
    obtain ⟨hmore, hmore'⟩ := moreArguments_sound hmiddle hmore
    have hclose := hmiddle.of_takes hmore'
    refine ⟨trivial, ⟨htext, by simp, hfirst, hmore⟩, ?_⟩
    rw [Name.pieces, TypeRef.argumentPieces]
    have hgreater : Takes (u :: left) [.fixed .greater] left :=
      .single (piece_eq_fixed hclose.head hu)
    exact htakes.trans (.cons (piece_eq_fixed hangle.head hless)
      ((hfirst'.trans hmore').trans hgreater))
termination_by 4 * ahead.length + 1
decreasing_by all_goals (simp at hshorter; omega)

/-- The types behind the first one are well-formed, and have the tokens that were taken. -/
theorem moreArguments_sound {ahead left : List Token} {types : List TypeRef}
    (hlexed : Lexed ahead) (h : Gives (moreArguments stop ahead) types left) :
    TypeRef.AllWellFormed types ∧ Takes ahead (TypeRef.morePieces types) left := by
  rcases moreArguments_iff.mp h with ⟨-, rfl, rfl⟩ | ⟨t, rest, first, middle, more, hahead, hcomma,
    hfirst, hmore, rfl⟩
  · exact ⟨trivial, takes_nil.mpr rfl⟩
  · rw [hahead] at hlexed
    have hshorter : rest.length < ahead.length := by simp [hahead]
    have hshortest := hfirst.property
    obtain ⟨hfirst, hfirst'⟩ := typeRef_sound hlexed.tail hfirst
    obtain ⟨hmore, hmore'⟩ := moreArguments_sound (hlexed.tail.of_takes hfirst') hmore
    refine ⟨⟨hfirst, hmore⟩, ?_⟩
    rw [hahead, TypeRef.morePieces]
    exact .cons (piece_eq_fixed hlexed.head hcomma) (hfirst'.trans hmore')
termination_by 4 * ahead.length

/-- What qualifies a name adds its tokens to those of the name. -/
theorem qualifiedTail_sound {ahead left : List Token} {first whole : Name}
    (hlexed : Lexed ahead) (hfirst : first.WellFormed)
    (h : Gives (qualifiedTail stop first ahead) whole left) :
    whole.WellFormed ∧ ∃ more, whole.pieces = first.pieces ++ more ∧ Takes ahead more left := by
  rcases qualifiedTail_iff.mp h with ⟨-, rfl, rfl⟩ | ⟨t, rest, right, middle, hahead, hdot, hright,
    hwhole⟩
  · exact ⟨hfirst, [], by simp, takes_nil.mpr rfl⟩
  · rw [hahead] at hlexed
    have hshorter : rest.length < ahead.length := by simp [hahead]
    have hshortest := hright.property
    obtain ⟨hsimple, hright, hright'⟩ := simpleName_sound hlexed.tail hright
    have hjoined : (Name.qualified first right).WellFormed := ⟨hfirst, hsimple, hright⟩
    obtain ⟨hwhole, more, hpieces, hmore⟩ :=
      qualifiedTail_sound (hlexed.tail.of_takes hright') hjoined hwhole
    refine ⟨hwhole, .fixed .dot :: (right.pieces ++ more), ?_, ?_⟩
    · rw [hpieces, Name.pieces]
      simp
    · rw [hahead]
      exact .cons (piece_eq_fixed hlexed.head hdot) (hright'.trans hmore)
termination_by 4 * ahead.length

/-- What is read as a name has the tokens that were taken. -/
theorem name_sound {ahead left : List Token} {n : Name} (hlexed : Lexed ahead)
    (h : Gives (name stop ahead) n left) : n.WellFormed ∧ Takes ahead n.pieces left := by
  obtain ⟨first, behind, hfirst, ⟨-, hwhole⟩ | ⟨t, rest, qualifier, inner, middle, rfl, hcolon, rfl,
    hinner, hwhole⟩⟩ := name_iff.mp h
  · have hshorter := hfirst.property
    obtain ⟨-, hfirst, hfirst'⟩ := simpleName_sound hlexed hfirst
    obtain ⟨hwhole, more, hpieces, hmore⟩ :=
      qualifiedTail_sound (hlexed.of_takes hfirst') hfirst hwhole
    exact ⟨hwhole, hpieces ▸ hfirst'.trans hmore⟩
  · have hshorter := hfirst.property
    have hshortest := hinner.property
    obtain ⟨-, hfirst, hfirst'⟩ := simpleName_sound hlexed hfirst
    have hbehind := hlexed.of_takes hfirst'
    obtain ⟨hsimple, hinner, hinner'⟩ := simpleName_sound hbehind.tail hinner
    have hjoined : (Name.aliased qualifier inner).WellFormed := ⟨hfirst, hsimple, hinner⟩
    obtain ⟨hwhole, more, hpieces, hmore⟩ :=
      qualifiedTail_sound (hbehind.tail.of_takes hinner') hjoined hwhole
    refine ⟨hwhole, ?_⟩
    rw [hpieces, Name.pieces]
    exact hfirst'.trans (.cons (piece_eq_fixed hbehind.head hcolon) (hinner'.trans hmore))
termination_by 4 * ahead.length + 2
decreasing_by
  · omega
  · omega
  · omega
  all_goals (simp at hshorter; omega)

/-- What is read as a type has the tokens that were taken. -/
theorem typeRef_sound {ahead left : List Token} {type : TypeRef} (hlexed : Lexed ahead)
    (h : Gives (typeRef stop ahead) type left) :
    type.WellFormed ∧ Takes ahead type.pieces left := by
  rcases typeRef_iff.mp h with ⟨t, rest, word, hahead, hword, hwhole⟩ |
    ⟨t, rest, path, middle, hahead, hword, hpath, hwhole⟩
  · rw [hahead] at hlexed
    have htype : (TypeRef.predefined word).WellFormed := trivial
    obtain ⟨hwhole, more, hpieces, hmore⟩ := typeSuffixes_sound hlexed.tail htype hwhole
    refine ⟨hwhole, ?_⟩
    rw [hahead, hpieces, TypeRef.pieces]
    exact (predefined?_sound hword).trans hmore
  · obtain ⟨hpath, hpath'⟩ := name_sound hlexed hpath
    have htype : (TypeRef.named path).WellFormed := hpath
    obtain ⟨hwhole, more, hpieces, hmore⟩ :=
      typeSuffixes_sound (hlexed.of_takes hpath') htype hwhole
    refine ⟨hwhole, ?_⟩
    rw [hpieces, TypeRef.pieces]
    exact hpath'.trans hmore
termination_by 4 * ahead.length + 3

end

/-! ## Expressions -/

/-- What is read as a literal is its token. -/
theorem literal?_sound {t : Token} {rest : List Token} {value : Literal}
    (hlexed : Lexed (t :: rest)) (h : literal? t = some value) :
    value.WellFormed ∧ Takes (t :: rest) [value.piece] rest := by
  have hsole : IsSoleToken t.kind t.lexeme := isSoleToken_iff.mpr hlexed.head
  unfold literal? at h
  split at h
  case h_5 => exact absurd h (by simp)
  case h_4 hkind =>
    split_ifs at h with htrue hfalse hnull
    all_goals
      injection h with h
      subst h
      refine ⟨by assumption, .single ?_⟩
      rw [Token.piece, hkind]
      rfl
  all_goals
    rename_i hkind
    injection h with h
    subst h
    rw [hkind] at hsole
    refine ⟨hsole, .single ?_⟩
    rw [Token.piece, hkind]
    rfl

/-- What is read as an operator is its token. -/
theorem prefixOp?_sound {t : Token} {op : PrefixOp} (h : prefixOp? t = some op) :
    t.kind = op.kind := by
  unfold prefixOp? at h
  split at h
  case h_5 => exact absurd h (by simp)
  all_goals
    injection h with h
    subst h
    assumption

/-- What is read as a name in an expression has the tokens that were taken. -/
theorem nameExpression_sound {e : Expr} (hlexed : Lexed ahead)
    (h : Gives (nameExpression stop ahead) e left) :
    e.IsReceiver ∧ e.WellFormed ∧ Takes ahead e.pieces left := by
  obtain ⟨text, behind, htext, ⟨-, rfl, rfl⟩ | ⟨t, rest, inner, rfl, hcolon, hinner, rfl⟩⟩ :=
    nameExpression_iff.mp h
  · obtain ⟨htext, htakes⟩ := identifier_sound hlexed htext
    exact ⟨trivial, ⟨trivial, htext⟩, htakes⟩
  · obtain ⟨htext, htakes⟩ := identifier_sound hlexed htext
    have hbehind := hlexed.of_takes htakes
    obtain ⟨hinner, hinner'⟩ := identifier_sound hbehind.tail hinner
    refine ⟨trivial, ⟨trivial, htext, trivial, hinner⟩, ?_⟩
    rw [Expr.pieces, Name.pieces, Name.pieces]
    exact htakes.trans (.cons (piece_eq_fixed hbehind.head hcolon) hinner')

/-- What stands behind the dots of an expression adds its tokens to those before them. -/
theorem memberTail_sound {ahead : List Token} {receiver whole : Expr} (hlexed : Lexed ahead)
    (hchain : receiver.IsReceiver) (hreceiver : receiver.WellFormed)
    (h : Gives (memberTail stop receiver ahead) whole left) :
    whole.IsReceiver ∧ whole.WellFormed ∧
      ∃ more, whole.pieces = receiver.pieces ++ more ∧ Takes ahead more left := by
  rcases memberTail_iff.mp h with ⟨-, rfl, rfl⟩ | ⟨t, rest, field, middle, hahead, hdot, hfield,
    hwhole⟩
  · exact ⟨hchain, hreceiver, [], by simp, takes_nil.mpr rfl⟩
  · rw [hahead] at hlexed
    have hshorter : rest.length < ahead.length := by simp [hahead]
    have hshortest := hfield.property
    obtain ⟨hfield, hfield'⟩ := identifier_sound hlexed.tail hfield
    have hmember : (Expr.member receiver field).IsReceiver := trivial
    have hjoined : (Expr.member receiver field).WellFormed := ⟨hchain, hreceiver, hfield⟩
    obtain ⟨hchain', hwhole, more, hpieces, hmore⟩ :=
      memberTail_sound (hlexed.tail.of_takes hfield') hmember hjoined hwhole
    refine ⟨hchain', hwhole, .fixed .dot :: .word field :: more, ?_, ?_⟩
    · rw [hpieces, Expr.pieces]
      simp
    · rw [hahead]
      exact .cons (piece_eq_fixed hlexed.head hdot) (hfield'.trans hmore)
termination_by ahead.length

/-- What is read as a `typeof` has the tokens that were taken, its word included. -/
theorem typeOf_sound {word : Token} {e : Expr} (hlexed : Lexed ahead)
    (hword : word.piece = .word "typeof") (h : Gives (typeOf stop ahead) e left) :
    e.IsReceiver ∧ e.WellFormed ∧ Takes (word :: ahead) e.pieces left := by
  obtain ⟨t, rest, type, u, rfl, ht, htype, hu, rfl⟩ := typeOf_iff.mp h
  obtain ⟨htype, htype'⟩ := typeRef_sound hlexed.tail htype
  have hclose := hlexed.tail.of_takes htype'
  refine ⟨trivial, htype, ?_⟩
  rw [Expr.pieces]
  exact .cons hword (.cons (piece_eq_fixed hlexed.head ht)
    (htype'.trans (.single (piece_eq_fixed hclose.head hu))))

mutual

/-- What is read as an expression has the tokens that were taken. Expressions, operands and what is
in parentheses call each other, and so do the lemmas on them. -/
theorem expression_sound {ahead left : List Token} {e : Expr} (hlexed : Lexed ahead)
    (h : Gives (expression stop ahead) e left) : e.WellFormed ∧ Takes ahead e.pieces left := by
  obtain ⟨first, behind, hfirst, ⟨-, rfl, rfl⟩ | ⟨t, rest, target, right, rfl, hequals, rfl, hright,
    rfl⟩⟩ := expression_iff.mp h
  · obtain ⟨-, hfirst, hfirst'⟩ := unary_sound hlexed hfirst
    exact ⟨hfirst, hfirst'⟩
  · have hshorter := hfirst.property
    obtain ⟨-, hfirst, hfirst'⟩ := unary_sound hlexed hfirst
    have hbehind := hlexed.of_takes hfirst'
    obtain ⟨hright, hright'⟩ := expression_sound hbehind.tail hright
    refine ⟨⟨trivial, hfirst, hright⟩, ?_⟩
    rw [Expr.pieces]
    exact hfirst'.trans (.cons (piece_eq_fixed hbehind.head hequals) hright')
termination_by 4 * ahead.length + 2
decreasing_by
  · omega
  · omega
  · simp at hshorter
    omega

/-- What is read as an operand has the tokens that were taken. -/
theorem unary_sound {ahead left : List Token} {e : Expr} (hlexed : Lexed ahead)
    (h : Gives (unary stop ahead) e left) :
    e.IsOperand ∧ e.WellFormed ∧ Takes ahead e.pieces left := by
  rcases unary_iff.mp h with ⟨t, rest, op, operand, hahead, hop, hoperand, rfl⟩ |
    ⟨t, rest, receiver, middle, hahead, hop, hreceiver, hwhole⟩
  · rw [hahead] at hlexed
    have hshorter : rest.length < ahead.length := by simp [hahead]
    obtain ⟨hno, hoperand, hoperand'⟩ := unary_sound hlexed.tail hoperand
    refine ⟨trivial, ⟨hno, hoperand⟩, ?_⟩
    rw [hahead, Expr.pieces]
    exact .cons (piece_eq_fixed hlexed.head (prefixOp?_sound hop) op.spelling_ne) hoperand'
  · obtain ⟨hchain, hreceiver, hreceiver'⟩ := primary_sound hlexed hreceiver
    obtain ⟨hchain', hwhole, more, hpieces, hmore⟩ :=
      memberTail_sound (hlexed.of_takes hreceiver') hchain hreceiver hwhole
    refine ⟨hchain'.isOperand, hwhole, ?_⟩
    rw [hpieces]
    exact hreceiver'.trans hmore
termination_by 4 * ahead.length + 1

/-- What is enclosed in parentheses has the tokens that were taken up to the closing one. -/
theorem enclosed_sound {ahead left : List Token} {e : Expr} (hlexed : Lexed ahead)
    (h : Gives (enclosed stop ahead) e left) :
    e.WellFormed ∧ Takes ahead (e.pieces ++ [.fixed .rightParen]) left := by
  obtain ⟨u, hinner, hu⟩ := enclosed_iff.mp h
  obtain ⟨hinner, hinner'⟩ := expression_sound hlexed hinner
  have hclose := hlexed.of_takes hinner'
  exact ⟨hinner, hinner'.trans (.single (piece_eq_fixed hclose.head hu))⟩
termination_by 4 * ahead.length + 3

/-- What is read without operators has the tokens that were taken. -/
theorem primary_sound {ahead left : List Token} {e : Expr} (hlexed : Lexed ahead)
    (h : Gives (primary stop ahead) e left) :
    e.IsReceiver ∧ e.WellFormed ∧ Takes ahead e.pieces left := by
  cases primary_iff.mp h with
  | literal t rest value hvalue =>
    obtain ⟨hvalue, htakes⟩ := literal?_sound hlexed hvalue
    exact ⟨trivial, hvalue, htakes⟩
  | paren t rest left inner hopen hinner =>
    obtain ⟨hinner, hinner'⟩ := enclosed_sound hlexed.tail hinner
    refine ⟨trivial, hinner, ?_⟩
    rw [Expr.pieces]
    exact .cons (piece_eq_fixed hlexed.head hopen) hinner'
  | typeOf t rest left e hkind hword hwhole =>
    exact typeOf_sound hlexed.tail (by rw [Token.piece, hkind, hword, Piece.word]) hwhole
  | nameOf t u rest left inner hkind hword hu hinner =>
    obtain ⟨hinner, hinner'⟩ := enclosed_sound hlexed.tail.tail hinner
    refine ⟨trivial, hinner, ?_⟩
    rw [Expr.pieces]
    exact .cons (by rw [Token.piece, hkind, hword, Piece.word])
      (.cons (piece_eq_fixed hlexed.tail.head hu) hinner')
  | predefined t rest type htype =>
    exact ⟨trivial, trivial, predefined?_sound htype⟩
  | name t rest left e _ _ _ _ _ hwhole => exact nameExpression_sound hlexed hwhole
termination_by 4 * ahead.length

end

end

end Parser

end DeclScribe
