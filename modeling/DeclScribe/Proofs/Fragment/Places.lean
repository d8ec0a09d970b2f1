import DeclScribe.Fragment
import DeclScribe.Proofs.Token.Spacing

/-!
# Parsing does not look at places

A parsing step decides by the kinds and the lexemes of the tokens ahead and keeps a place only to
say where something went wrong. So on tokens that differ in their places at most, each step does the
same: it reads the same and leaves tokens that differ in their places at most, or it fails with the
same error, again apart from its place. One lemma for each step says so, along the recursion of the
steps. As white space only moves tokens, it never matters where there is more or less of it.
-/

set_option autoImplicit false

namespace DeclScribe

/-! ## Alike but for places -/

/-- An error as it would be at the start of a text. -/
def ParseError.unplaced : ParseError → ParseError
  | .unexpectedChar c _ => .unexpectedChar c .start
  | .unterminatedString _ => .unterminatedString .start
  | .unterminatedChar _ => .unterminatedChar .start
  | .invalidEscape c _ => .invalidEscape c .start
  | .expected what found _ => .expected what found .start
  | .reservedKeyword word role _ => .reservedKeyword word role .start
  | .trailingInput found parsed _ => .trailingInput found parsed .start
  | .invalidAssignmentTarget found _ => .invalidAssignmentTarget found .start
  | .emptyInput => .emptyInput

/-- Two answers that both are values and related, or both are the same error but for its place. -/
inductive AlikeBy {α β : Type} (R : α → β → Prop) : Except ParseError α → Except ParseError β → Prop
  | ok {a : α} {b : β} (h : R a b) : AlikeBy R (.ok a) (.ok b)
  | error {e e' : ParseError} (h : e.unplaced = e'.unplaced) : AlikeBy R (.error e) (.error e')

namespace Parser

/-- Tokens that differ in their places at most. -/
def SamePieces (ahead other : List Token) : Prop :=
  ahead.map Token.piece = other.map Token.piece

namespace SamePieces

variable {ahead other : List Token}

/-- No tokens have the pieces of no tokens only. -/
theorem nil_left (h : SamePieces [] other) : other = [] := by
  rw [SamePieces, List.map_nil, eq_comm, List.map_eq_nil_iff] at h
  exact h

/-- Tokens with the same pieces start with tokens of the same kind and text. -/
theorem cons_left {t : Token} {rest : List Token} (h : SamePieces (t :: rest) other) :
    ∃ u more, other = u :: more ∧ t.kind = u.kind ∧ t.lexeme = u.lexeme ∧ SamePieces rest more := by
  rw [SamePieces, List.map_cons, eq_comm] at h
  obtain ⟨u, more, rfl, hpiece, hrest⟩ := List.map_eq_cons_iff.mp h
  exact ⟨u, more, rfl, congrArg Piece.kind hpiece.symm, congrArg Piece.lexeme hpiece.symm,
    hrest.symm⟩

/-- What is looked for ahead is a kind, which a place does not change. -/
theorem nextIs_eq (h : SamePieces ahead other) (kind : TokenKind) :
    nextIs kind ahead = nextIs kind other := by
  cases ahead with
  | nil => rw [h.nil_left]
  | cons t rest =>
    obtain ⟨u, more, rfl, hkind, -, -⟩ := h.cons_left
    rw [nextIs, nextIs, hkind]

/-- Behind the first tokens the pieces are the same. -/
theorem tail (h : SamePieces ahead other) : SamePieces ahead.tail other.tail := by
  rw [SamePieces, List.map_tail, List.map_tail, h]

/-- Behind as many tokens the pieces are the same. -/
theorem drop (h : SamePieces ahead other) (n : Nat) : SamePieces (ahead.drop n) (other.drop n) := by
  rw [SamePieces, List.map_drop, List.map_drop, h]

/-- A run of tokens of a kind is as long in both. -/
theorem length_takeWhile_eq (h : SamePieces ahead other) (kind : TokenKind) :
    (ahead.takeWhile fun t => t.kind == kind).length =
      (other.takeWhile fun t => t.kind == kind).length := by
  have hrun : ∀ tokens : List Token, (tokens.takeWhile fun t => t.kind == kind).length =
      ((tokens.map Token.piece).takeWhile fun p => p.kind == kind).length := by
    intro tokens
    rw [List.takeWhile_map, List.length_map]
    rfl
  rw [hrun, hrun, h]

end SamePieces

/-- Two readings that read the same value and leave tokens that differ in their places at most. -/
def SameReading {α : Type} {P Q : List Token → Prop} (a : α × Subtype P) (b : α × Subtype Q) :
    Prop :=
  a.1 = b.1 ∧ SamePieces a.2.val b.2.val

/-- To relate what two steps go on to after other steps left tokens that differ in their places at
most, the cases that both failed and that both went on are enough. -/
@[elab_as_elim]
theorem SamePieces.elim {P Q : List Token → Prop}
    {motive : Except ParseError (Subtype P) → Except ParseError (Subtype Q) → Prop}
    {x : Except ParseError (Subtype P)} {y : Except ParseError (Subtype Q)}
    (h : AlikeBy (fun a b => SamePieces a.val b.val) x y)
    (error : ∀ e e', e.unplaced = e'.unplaced → motive (.error e) (.error e'))
    (ok : ∀ left left' hleft hleft', SamePieces left left' →
      motive (.ok ⟨left, hleft⟩) (.ok ⟨left', hleft'⟩)) : motive x y := by
  cases h with
  | ok h => exact ok _ _ _ _ h
  | error h => exact error _ _ h

/-- The same for steps that read a value. -/
@[elab_as_elim]
theorem SameReading.elim {α : Type} {P Q : List Token → Prop}
    {motive : Except ParseError (α × Subtype P) → Except ParseError (α × Subtype Q) → Prop}
    {x : Except ParseError (α × Subtype P)} {y : Except ParseError (α × Subtype Q)}
    (h : AlikeBy SameReading x y)
    (error : ∀ e e', e.unplaced = e'.unplaced → motive (.error e) (.error e'))
    (ok : ∀ value left left' hleft hleft', SamePieces left left' →
      motive (.ok (value, ⟨left, hleft⟩)) (.ok (value, ⟨left', hleft'⟩))) : motive x y := by
  cases h with
  | @ok a b h =>
    obtain ⟨value, left, hleft⟩ := a
    obtain ⟨value', left', hleft'⟩ := b
    obtain ⟨rfl, hpieces⟩ := h
    exact ok _ _ _ _ _ hpieces
  | error h => exact error _ _ h

section

variable {stop stop' : Position} {ahead other : List Token}

/-! ## Single tokens -/

/-- A disappointed expectation names what was found, and apart from that only its place. -/
theorem unmet_unplaced (h : SamePieces ahead other) (what : Expectation) :
    (unmet stop what ahead).unplaced = (unmet stop' what other).unplaced := by
  cases ahead with
  | nil =>
    rw [h.nil_left]
    rfl
  | cons t rest =>
    obtain ⟨u, more, rfl, -, hlexeme, -⟩ := h.cons_left
    simp only [unmet, ParseError.unplaced, Token.describe, hlexeme]

/-- One token is taken or refused alike. -/
theorem expect_alike (h : SamePieces ahead other) (kind : TokenKind) (what : Expectation) :
    AlikeBy (fun a b => SamePieces a.val b.val) (expect stop kind what ahead)
      (expect stop' kind what other) := by
  cases ahead with
  | nil =>
    rw [h.nil_left]
    exact .error rfl
  | cons t rest =>
    obtain ⟨u, more, rfl, hkind, -, hrest⟩ := h.cons_left
    unfold expect
    dsimp only
    rw [hkind]
    split
    · exact .ok hrest
    · exact .error (unmet_unplaced h what)

/-- An identifier is taken or refused alike. -/
theorem identifier_alike (h : SamePieces ahead other) (role : NameRole) :
    AlikeBy SameReading (identifier stop role ahead) (identifier stop' role other) := by
  cases ahead with
  | nil =>
    rw [h.nil_left]
    exact .error rfl
  | cons t rest =>
    obtain ⟨u, more, rfl, hkind, hlexeme, hrest⟩ := h.cons_left
    unfold identifier
    dsimp only
    rw [hkind, hlexeme]
    split_ifs
    · exact .error rfl
    · exact .ok ⟨rfl, hrest⟩
    · exact .error (unmet_unplaced h .identifier)

/-- Whether a word is a predefined type shows in its text. -/
theorem predefined?_eq {t u : Token} (hkind : t.kind = u.kind) (hlexeme : t.lexeme = u.lexeme) :
    predefined? t = predefined? u := by
  rw [predefined?, predefined?, hkind, hlexeme]

/-! ## Types -/

/-- The suffixes of a type are read alike. -/
theorem typeSuffixes_alike {ahead other : List Token} (h : SamePieces ahead other)
    (type : TypeRef) :
    AlikeBy SameReading (typeSuffixes stop type ahead) (typeSuffixes stop' type other) := by
  rw [typeSuffixes.eq_def stop type ahead, typeSuffixes.eq_def stop' type other]
  cases ahead with
  | nil =>
    rw [h.nil_left]
    exact .ok ⟨rfl, rfl⟩
  | cons t rest =>
    obtain ⟨u, more, rfl, hkind, -, hrest⟩ := h.cons_left
    dsimp only
    rw [hkind]
    split
    · refine SameReading.elim (typeSuffixes_alike hrest type.nullable) (fun _ _ => .error) ?_
      intro whole left left' _ _ hleft
      exact .ok ⟨rfl, hleft⟩
    · split
      · -- The commas are as many in both, and what stands behind them is the same.
        have hcommas := hrest.length_takeWhile_eq .comma
        have hbehind := hrest.drop (rest.takeWhile fun v => v.kind == .comma).length
        nth_rewrite 2 [hcommas] at hbehind
        refine SamePieces.elim (expect_alike hbehind .rightBracket .closeBracket)
          (fun _ _ => .error) ?_
        intro behind behind' shorter _ hclose
        have hfewer : behind.length < rest.length := by
          simp only [List.length_drop] at shorter
          omega
        dsimp only
        rw [← hcommas]
        refine SameReading.elim (typeSuffixes_alike hclose _) (fun _ _ => .error) ?_
        intro whole left left' _ _ hleft
        exact .ok ⟨rfl, hleft⟩
      · exact .ok ⟨rfl, h⟩
termination_by ahead.length
decreasing_by all_goals (subst_vars; simp only [List.length_cons]; omega)

mutual

/-- A simple name is read alike, if the types inside of it are. -/
theorem simpleName_alike {ahead other : List Token} (h : SamePieces ahead other) :
    AlikeBy SameReading (simpleName stop ahead) (simpleName stop' other) := by
  rw [simpleName, simpleName]
  refine SameReading.elim (identifier_alike h .name) (fun _ _ => .error) ?_
  intro text left left' fewer _ hleft
  cases left with
  | nil =>
    obtain rfl := hleft.nil_left
    exact .ok ⟨rfl, rfl⟩
  | cons t rest =>
    obtain ⟨u, more, rfl, hkind, -, hrest⟩ := hleft.cons_left
    dsimp only
    rw [hkind]
    split
    · refine SameReading.elim (typeRef_alike hrest) (fun _ _ => .error) ?_
      intro first behind behind' shorter _ hbehind
      dsimp only
      refine SameReading.elim (moreArguments_alike hbehind) (fun _ _ => .error) ?_
      intro types tail tail' _ _ htail
      dsimp only
      refine SamePieces.elim (expect_alike htail .greater .closeAngle) (fun _ _ => .error) ?_
      intro last last' _ _ hlast
      exact .ok ⟨rfl, hlast⟩
    · exact .ok ⟨rfl, hleft⟩
termination_by 4 * ahead.length + 1
decreasing_by all_goals (simp only [List.length_cons] at fewer; omega)

/-- The types behind a comma are read alike. -/
theorem moreArguments_alike {ahead other : List Token} (h : SamePieces ahead other) :
    AlikeBy SameReading (moreArguments stop ahead) (moreArguments stop' other) := by
  rw [moreArguments.eq_def stop ahead, moreArguments.eq_def stop' other]
  cases ahead with
  | nil =>
    rw [h.nil_left]
    exact .ok ⟨rfl, rfl⟩
  | cons t rest =>
    obtain ⟨u, more, rfl, hkind, -, hrest⟩ := h.cons_left
    dsimp only
    rw [hkind]
    split
    · refine SameReading.elim (typeRef_alike hrest) (fun _ _ => .error) ?_
      intro first behind behind' shorter _ hbehind
      dsimp only
      refine SameReading.elim (moreArguments_alike hbehind) (fun _ _ => .error) ?_
      intro types left left' _ _ hleft
      exact .ok ⟨rfl, hleft⟩
    · exact .ok ⟨rfl, h⟩
termination_by 4 * ahead.length
decreasing_by all_goals (subst_vars; simp only [List.length_cons]; omega)

/-- What qualifies a name is read alike. -/
theorem qualifiedTail_alike {ahead other : List Token} (h : SamePieces ahead other)
    (first : Name) :
    AlikeBy SameReading (qualifiedTail stop first ahead) (qualifiedTail stop' first other) := by
  rw [qualifiedTail.eq_def stop first ahead, qualifiedTail.eq_def stop' first other]
  cases ahead with
  | nil =>
    rw [h.nil_left]
    exact .ok ⟨rfl, rfl⟩
  | cons t rest =>
    obtain ⟨u, more, rfl, hkind, -, hrest⟩ := h.cons_left
    dsimp only
    rw [hkind]
    split
    · refine SameReading.elim (simpleName_alike hrest) (fun _ _ => .error) ?_
      intro right behind behind' shorter _ hbehind
      dsimp only
      refine SameReading.elim (qualifiedTail_alike hbehind _) (fun _ _ => .error) ?_
      intro whole left left' _ _ hleft
      exact .ok ⟨rfl, hleft⟩
    · exact .ok ⟨rfl, h⟩
termination_by 4 * ahead.length
decreasing_by all_goals (subst_vars; simp only [List.length_cons]; omega)

/-- A name is read alike. -/
theorem name_alike {ahead other : List Token} (h : SamePieces ahead other) :
    AlikeBy SameReading (name stop ahead) (name stop' other) := by
  rw [name, name]
  refine SameReading.elim (simpleName_alike h) (fun _ _ => .error) ?_
  intro first left left' fewer _ hleft
  cases left with
  | nil =>
    obtain rfl := hleft.nil_left
    exact .ok ⟨rfl, rfl⟩
  | cons t rest =>
    obtain ⟨u, more, rfl, hkind, -, hrest⟩ := hleft.cons_left
    dsimp only
    rw [hkind]
    split
    · cases first with
      | identifier qualifier =>
        dsimp only
        refine SameReading.elim (simpleName_alike hrest) (fun _ _ => .error) ?_
        intro inner behind behind' shorter _ hbehind
        dsimp only
        refine SameReading.elim (qualifiedTail_alike hbehind _) (fun _ _ => .error) ?_
        intro whole last last' _ _ hlast
        exact .ok ⟨rfl, hlast⟩
      | _ => exact .error rfl
    · refine SameReading.elim (qualifiedTail_alike hleft first) (fun _ _ => .error) ?_
      intro whole last last' _ _ hlast
      exact .ok ⟨rfl, hlast⟩
termination_by 4 * ahead.length + 2
decreasing_by
  · omega
  all_goals (simp only [List.length_cons] at fewer ⊢; omega)

/-- A type is read alike. -/
theorem typeRef_alike {ahead other : List Token} (h : SamePieces ahead other) :
    AlikeBy SameReading (typeRef stop ahead) (typeRef stop' other) := by
  rw [typeRef.eq_def stop ahead, typeRef.eq_def stop' other]
  cases ahead with
  | nil =>
    rw [h.nil_left]
    exact .error rfl
  | cons t rest =>
    obtain ⟨u, more, rfl, hkind, hlexeme, hrest⟩ := h.cons_left
    dsimp only
    rw [predefined?_eq hkind hlexeme]
    split
    · refine SameReading.elim (typeSuffixes_alike hrest _) (fun _ _ => .error) ?_
      intro whole left left' _ _ hleft
      exact .ok ⟨rfl, hleft⟩
    · refine SameReading.elim (name_alike h) (fun _ _ => .error) ?_
      intro path behind behind' _ _ hbehind
      dsimp only
      refine SameReading.elim (typeSuffixes_alike hbehind _) (fun _ _ => .error) ?_
      intro whole left left' _ _ hleft
      exact .ok ⟨rfl, hleft⟩
termination_by 4 * ahead.length + 3
decreasing_by all_goals (subst_vars; omega)

end

/-! ## Expressions -/

/-- Which literal a token is shows in its kind and its text. -/
theorem literal?_eq {t u : Token} (hkind : t.kind = u.kind) (hlexeme : t.lexeme = u.lexeme) :
    literal? t = literal? u := by
  rw [literal?, literal?, hkind, hlexeme]

/-- Which operator a token is shows in its kind. -/
theorem prefixOp?_eq {t u : Token} (hkind : t.kind = u.kind) : prefixOp? t = prefixOp? u := by
  rw [prefixOp?, prefixOp?, hkind]

/-- A name in an expression is read alike. -/
theorem nameExpression_alike (h : SamePieces ahead other) :
    AlikeBy SameReading (nameExpression stop ahead) (nameExpression stop' other) := by
  rw [nameExpression, nameExpression]
  refine SameReading.elim (identifier_alike h .expression) (fun _ _ => .error) ?_
  intro text left left' _ _ hleft
  cases left with
  | nil =>
    obtain rfl := hleft.nil_left
    exact .ok ⟨rfl, rfl⟩
  | cons t rest =>
    obtain ⟨u, more, rfl, hkind, -, hrest⟩ := hleft.cons_left
    dsimp only
    rw [hkind]
    split
    · refine SameReading.elim (identifier_alike hrest .name) (fun _ _ => .error) ?_
      intro inner last last' _ _ hlast
      exact .ok ⟨rfl, hlast⟩
    · exact .ok ⟨rfl, hleft⟩

/-- What stands behind the dots of an expression is read alike. -/
theorem memberTail_alike {ahead other : List Token} (h : SamePieces ahead other)
    (receiver : Expr) :
    AlikeBy SameReading (memberTail stop receiver ahead) (memberTail stop' receiver other) := by
  rw [memberTail.eq_def stop receiver ahead, memberTail.eq_def stop' receiver other]
  cases ahead with
  | nil =>
    rw [h.nil_left]
    exact .ok ⟨rfl, rfl⟩
  | cons t rest =>
    obtain ⟨u, more, rfl, hkind, -, hrest⟩ := h.cons_left
    dsimp only
    rw [hkind]
    split
    · refine SameReading.elim (identifier_alike hrest .memberName) (fun _ _ => .error) ?_
      intro field behind behind' shorter _ hbehind
      dsimp only
      refine SameReading.elim (memberTail_alike hbehind _) (fun _ _ => .error) ?_
      intro whole left left' _ _ hleft
      exact .ok ⟨rfl, hleft⟩
    · exact .ok ⟨rfl, h⟩
termination_by ahead.length
decreasing_by
  subst_vars
  simp only [List.length_cons]
  omega

/-- A `typeof` is read alike. -/
theorem typeOf_alike (h : SamePieces ahead other) :
    AlikeBy SameReading (typeOf stop ahead) (typeOf stop' other) := by
  rw [typeOf, typeOf]
  refine SamePieces.elim (expect_alike h .leftParen .openParen) (fun _ _ => .error) ?_
  intro inside inside' _ _ hinside
  dsimp only
  refine SameReading.elim (typeRef_alike hinside) (fun _ _ => .error) ?_
  intro type behind behind' _ _ hbehind
  dsimp only
  refine SamePieces.elim (expect_alike hbehind .rightParen .closeParen) (fun _ _ => .error) ?_
  intro left left' _ _ hleft
  exact .ok ⟨rfl, hleft⟩

mutual

/-- An expression is read alike. The induction is on the number of tokens ahead, as the steps call
each other behind a token that was taken. -/
theorem expression_alike {ahead other : List Token} (h : SamePieces ahead other) :
    AlikeBy SameReading (expression stop ahead) (expression stop' other) := by
  rw [expression, expression]
  refine SameReading.elim (unary_alike h) (fun _ _ => .error) ?_
  intro target left left' fewer _ hleft
  cases left with
  | nil =>
    obtain rfl := hleft.nil_left
    exact .ok ⟨rfl, rfl⟩
  | cons t rest =>
    obtain ⟨u, more, rfl, hkind, -, hrest⟩ := hleft.cons_left
    dsimp only
    rw [hkind]
    split
    · split
      · refine SameReading.elim (expression_alike hrest) (fun _ _ => .error) ?_
        intro right behind behind' _ _ hbehind
        exact .ok ⟨rfl, hbehind⟩
      · exact .error rfl
    · exact .ok ⟨rfl, hleft⟩
termination_by 4 * ahead.length + 2
decreasing_by
  · omega
  · simp only [List.length_cons] at fewer
    omega

/-- An operand is read alike. -/
theorem unary_alike {ahead other : List Token} (h : SamePieces ahead other) :
    AlikeBy SameReading (unary stop ahead) (unary stop' other) := by
  rw [unary.eq_def stop ahead, unary.eq_def stop' other]
  cases ahead with
  | nil =>
    rw [h.nil_left]
    exact .error rfl
  | cons t rest =>
    obtain ⟨u, more, rfl, hkind, hlexeme, hrest⟩ := h.cons_left
    dsimp only
    rw [prefixOp?_eq hkind]
    split
    · refine SameReading.elim (unary_alike hrest) (fun _ _ => .error) ?_
      intro operand left left' _ _ hleft
      exact .ok ⟨rfl, hleft⟩
    · refine SameReading.elim (primary_alike h) (fun _ _ => .error) ?_
      intro receiver behind behind' _ _ hbehind
      dsimp only
      refine SameReading.elim (memberTail_alike hbehind _) (fun _ _ => .error) ?_
      intro whole left left' _ _ hleft
      exact .ok ⟨rfl, hleft⟩
termination_by 4 * ahead.length + 1
decreasing_by all_goals (subst_vars; simp)

/-- What is enclosed in parentheses is read alike. -/
theorem enclosed_alike {ahead other : List Token} (h : SamePieces ahead other) :
    AlikeBy SameReading (enclosed stop ahead) (enclosed stop' other) := by
  rw [enclosed, enclosed]
  refine SameReading.elim (expression_alike h) (fun _ _ => .error) ?_
  intro inner behind behind' _ _ hbehind
  dsimp only
  refine SamePieces.elim (expect_alike hbehind .rightParen .closeParen) (fun _ _ => .error) ?_
  intro left left' _ _ hleft
  exact .ok ⟨rfl, hleft⟩
termination_by 4 * ahead.length + 3
decreasing_by omega

/-- What is read without operators is read alike. -/
theorem primary_alike {ahead other : List Token} (h : SamePieces ahead other) :
    AlikeBy SameReading (primary stop ahead) (primary stop' other) := by
  rw [primary.eq_def stop ahead, primary.eq_def stop' other]
  cases ahead with
  | nil =>
    rw [h.nil_left]
    exact .error rfl
  | cons t rest =>
    obtain ⟨u, more, rfl, hkind, hlexeme, hrest⟩ := h.cons_left
    dsimp only
    rw [literal?_eq hkind hlexeme]
    split
    · exact .ok ⟨rfl, hrest⟩
    · -- all tests look at the kind, the text and the kind of the next token
      rw [hkind, hlexeme, hrest.nextIs_eq, predefined?_eq hkind hlexeme]
      split
      · refine SameReading.elim (enclosed_alike hrest) (fun _ _ => .error) ?_
        intro inner left left' _ _ hleft
        exact .ok ⟨rfl, hleft⟩
      · split
        · split
          · refine SameReading.elim (typeOf_alike hrest) (fun _ _ => .error) ?_
            intro whole left left' _ _ hleft
            exact .ok ⟨rfl, hleft⟩
          · split
            · refine SameReading.elim (enclosed_alike hrest.tail) (fun _ _ => .error) ?_
              intro inner left left' _ _ hleft
              exact .ok ⟨rfl, hleft⟩
            · split
              · exact .ok ⟨rfl, hrest⟩
              · exact nameExpression_alike h
        · exact .error (unmet_unplaced h .expression)
termination_by 4 * ahead.length
decreasing_by
  · subst_vars
    simp only [List.length_tail, List.length_cons]
    omega
  · subst_vars
    simp only [List.length_cons]
    omega

end

end

/-! ## Whole texts -/

/-- If a step does not look at places, whole texts with the same pieces are read alike by it. -/
theorem whole_alike {α : Type} {kind : FragmentKind}
    {step : Position → (ahead : List Token) → Except ParseError (α × Fewer ahead)}
    (hstep : ∀ {stop stop' : Position} {ahead other : List Token}, SamePieces ahead other →
      AlikeBy SameReading (step stop ahead) (step stop' other))
    {text other : String} {stream stream' : TokenStream} (htext : tokenize text = .ok stream)
    (hother : tokenize other = .ok stream') (h : SamePieces stream.tokens stream'.tokens) :
    AlikeBy Eq (whole kind step text) (whole kind step other) := by
  obtain ⟨tokens, stop⟩ := stream
  obtain ⟨tokens', stop'⟩ := stream'
  rw [whole, whole, htext, hother]
  cases tokens with
  | nil =>
    obtain rfl := h.nil_left
    exact .error rfl
  | cons t rest =>
    obtain ⟨u, more, rfl, -, -, -⟩ := h.cons_left
    dsimp only
    refine SameReading.elim (hstep h) (fun _ _ => .error) ?_
    intro value left left' _ _ hleft
    cases left with
    | nil =>
      obtain rfl := hleft.nil_left
      exact .ok rfl
    | cons extra behind =>
      obtain ⟨extra', behind', rfl, -, hlexeme, -⟩ := hleft.cons_left
      refine .error ?_
      simp only [ParseError.unplaced, Token.describe, hlexeme]

end Parser

/-- White space between tokens never matters. The lexemes of a text, written again with any white
space around them that keeps them apart, are read as the same tokens but for their places; and of
two texts with the same tokens but for their places both are the same name, type or expression, or
neither is and the errors are the same but for their places. -/
theorem spacing_is_irrelevant {text : String} {stream : TokenStream}
    (h : tokenize text = .ok stream) :
    (∀ gap spaced, spaced.map Prod.fst = stream.tokens → IsSpacing gap spaced →
      ∃ other, tokenize (String.ofList (gap ++ spelled spaced)) = .ok other ∧
        other.tokens.map Token.piece = stream.tokens.map Token.piece) ∧
      ∀ other stream', tokenize other = .ok stream' →
        stream.tokens.map Token.piece = stream'.tokens.map Token.piece →
        AlikeBy Eq (Name.parse text) (Name.parse other) ∧
          AlikeBy Eq (TypeRef.parse text) (TypeRef.parse other) ∧
          AlikeBy Eq (Expr.parse text) (Expr.parse other) := by
  refine ⟨fun gap spaced htokens hspacing => exists_tokenize_spelled h htokens hspacing, ?_⟩
  intro other stream' hother hpieces
  exact ⟨Parser.whole_alike Parser.name_alike h hother hpieces,
    Parser.whole_alike Parser.typeRef_alike h hother hpieces,
    Parser.whole_alike Parser.expression_alike h hother hpieces⟩

/-- A type written without white space, and white space to put behind each of its lexemes. -/
def spacedTokensSample : List (Token × List Char) :=
  [(⟨.identifier, "A", ⟨0, 1, 1⟩⟩, [' ', '\t']), (⟨.dot, ".", ⟨1, 1, 2⟩⟩, ['\n']),
    (⟨.identifier, "B", ⟨2, 1, 3⟩⟩, [' ']), (⟨.question, "?", ⟨3, 1, 4⟩⟩, [])]

/-- A type with a dot and a question mark, closely spaced and with every kind of white space. -/
theorem spacing_is_irrelevant_sample :
    tokenize "A.B?" = .ok ⟨spacedTokensSample.map Prod.fst, ⟨4, 1, 5⟩⟩ ∧
      IsSpacing ['\n'] spacedTokensSample ∧
      (∃ other, tokenize "\nA \t.\nB ?" = .ok other ∧
        other.tokens.map Token.piece = (spacedTokensSample.map Prod.fst).map Token.piece) ∧
      AlikeBy Eq (TypeRef.parse "A.B?") (TypeRef.parse "A . B ?") := by
  have hread : tokenize "A.B?" = .ok ⟨spacedTokensSample.map Prod.fst, ⟨4, 1, 5⟩⟩ := by
    decide +kernel
  have hspacing : IsSpacing ['\n'] spacedTokensSample := ⟨by decide, by decide, by decide⟩
  have hspaced : tokenize "A . B ?" = .ok ⟨[⟨.identifier, "A", ⟨0, 1, 1⟩⟩, ⟨.dot, ".", ⟨2, 1, 3⟩⟩,
      ⟨.identifier, "B", ⟨4, 1, 5⟩⟩, ⟨.question, "?", ⟨6, 1, 7⟩⟩], ⟨7, 1, 8⟩⟩ := by decide +kernel
  exact ⟨hread, hspacing, (spacing_is_irrelevant hread).1 ['\n'] spacedTokensSample rfl hspacing,
    ((spacing_is_irrelevant hread).2 _ _ hspaced rfl).2.1⟩

end DeclScribe
