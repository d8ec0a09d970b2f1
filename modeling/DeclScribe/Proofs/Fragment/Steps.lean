import DeclScribe.Proofs.Fragment.WellFormed

/-!
# What a parsing step does

For each parsing step, one statement says when it succeeds, what it reads and which tokens it
leaves, in terms of the steps it is made of. Everything else about parsing rests on these
statements and on no definition of a step.
-/

set_option autoImplicit false

namespace DeclScribe

namespace Parser

/-- A parsing step succeeds with a value and leaves these tokens. -/
def Gives {α : Type} {P : List Token → Prop} (answer : Except ParseError (α × Subtype P))
    (value : α) (left : List Token) : Prop :=
  ∃ h : P left, answer = .ok (value, ⟨left, h⟩)

section

variable {stop : Position} {ahead left : List Token}

/-- An answer gives its value and what is left behind it. -/
theorem gives_ok {α : Type} {P : List Token → Prop} {value value' : α} {rest : Subtype P} :
    Gives (.ok (value', rest)) value left ↔ value = value' ∧ left = rest.val := by
  constructor
  · rintro ⟨h, heq⟩
    injection heq with heq
    injection heq with hvalue hrest
    subst hrest
    exact ⟨hvalue.symm, rfl⟩
  · rintro ⟨rfl, rfl⟩
    exact ⟨rest.property, rfl⟩

/-- An error gives nothing. -/
theorem not_gives_error {α : Type} {P : List Token → Prop} {value : α} {e : ParseError} :
    ¬ Gives (.error e : Except ParseError (α × Subtype P)) value left := by
  rintro ⟨h, heq⟩
  exact absurd heq (by simp)

/-- What is left has the property that the step promises of it. -/
theorem Gives.property {α : Type} {P : List Token → Prop}
    {answer : Except ParseError (α × Subtype P)} {value : α} (h : Gives answer value left) :
    P left := by
  obtain ⟨hleft, -⟩ := h
  exact hleft

/-- The next token is the first one ahead. -/
theorem nextIs_cons (kind : TokenKind) (t : Token) (rest : List Token) :
    nextIs kind (t :: rest) = true ↔ t.kind = kind := by
  simp [nextIs]

/-- The next token is of another kind if the first one ahead is. -/
theorem nextIs_cons_eq_false {kind : TokenKind} {t : Token} {rest : List Token} :
    nextIs kind (t :: rest) = false ↔ t.kind ≠ kind := by
  simp [nextIs]

/-- A kind is next only where there is a token. -/
theorem nextIs_iff {kind : TokenKind} :
    nextIs kind ahead = true ↔ ∃ t rest, ahead = t :: rest ∧ t.kind = kind := by
  cases ahead with
  | nil => simp [nextIs]
  | cons t rest => simp [nextIs]

/-! ## Single tokens -/

/-- A token of the expected kind is taken. -/
theorem expect_cons {kind : TokenKind} {what : Expectation} {t : Token} (hkind : t.kind = kind) :
    expect stop kind what (t :: left) = .ok ⟨left, Nat.lt_add_one _⟩ := by
  simp [expect, hkind]

/-- Only a token of the expected kind is taken. -/
theorem expect_eq_ok {kind : TokenKind} {what : Expectation} {h : left.length < ahead.length}
    (hread : expect stop kind what ahead = .ok ⟨left, h⟩) :
    ∃ t, ahead = t :: left ∧ t.kind = kind := by
  unfold expect at hread
  split at hread
  · rename_i t behind
    split at hread
    · rename_i hkind
      injection hread with hread
      injection hread with hread
      subst hread
      exact ⟨t, rfl, hkind⟩
    · exact absurd hread (by simp)
  · exact absurd hread (by simp)

/-- An identifier is one token, marked or not reserved. -/
theorem identifier_iff {role : NameRole} {text : String} :
    Gives (identifier stop role ahead) text left ↔
      ∃ t, ahead = t :: left ∧ t.kind = .identifier ∧ t.lexeme = text ∧
        (isVerbatim text = true ∨ isReserved text = false) := by
  constructor
  · rintro ⟨h, heq⟩
    unfold identifier at heq
    split at heq
    · rename_i t rest
      split at heq
      · rename_i hkind
        split at heq
        · exact absurd heq (by simp)
        · rename_i hfree
          simp only [Except.ok.injEq, Prod.mk.injEq, Subtype.mk.injEq] at heq
          obtain ⟨rfl, rfl⟩ := heq
          refine ⟨t, rfl, hkind, rfl, ?_⟩
          simpa [Bool.and_eq_true, or_iff_not_imp_left] using hfree
      · exact absurd heq (by simp)
    · exact absurd heq (by simp)
  · rintro ⟨t, rfl, hkind, rfl, hfree⟩
    refine ⟨by simp, ?_⟩
    unfold identifier
    rcases hfree with hmarked | hfree
    · simp [hkind, hmarked]
    · simp [hkind, hfree]

/-! ## Names -/

/-- A simple name is an identifier, alone or with type arguments. -/
theorem simpleName_iff {n : Name} :
    Gives (simpleName stop ahead) n left ↔
      ∃ text behind, Gives (identifier stop .name ahead) text behind ∧
        (nextIs .less behind = false ∧ n = .identifier text ∧ left = behind ∨
          ∃ t rest first middle more tail u, behind = t :: rest ∧ t.kind = .less ∧
            Gives (typeRef stop rest) first middle ∧ Gives (moreArguments stop middle) more tail ∧
            tail = u :: left ∧ u.kind = .greater ∧ n = .generic text (first :: more)) := by
  rw [simpleName]
  constructor
  · intro h
    split at h
    · exact absurd h not_gives_error
    · rename_i text fewer hid
      obtain ⟨rfl, rfl⟩ := gives_ok.mp h
      exact ⟨text, [], ⟨fewer, hid⟩, Or.inl ⟨rfl, rfl, rfl⟩⟩
    · rename_i text t rest fewer hid
      refine ⟨text, t :: rest, ⟨fewer, hid⟩, ?_⟩
      split at h
      · -- type arguments, up to the `>` behind them
        rename_i hless
        split at h
        · exact absurd h not_gives_error
        · rename_i first middle hmiddle hfirst
          split at h
          · exact absurd h not_gives_error
          · rename_i more tail htail hmore
            split at h
            · exact absurd h not_gives_error
            · rename_i behind hbehind hgreater
              obtain ⟨u, hclose, hu⟩ := expect_eq_ok hgreater
              obtain ⟨rfl, rfl⟩ := gives_ok.mp h
              exact Or.inr ⟨t, rest, first, middle, more, tail, u, rfl, hless, ⟨_, hfirst⟩,
                ⟨_, hmore⟩, hclose, hu, rfl⟩
      · rename_i hless
        obtain ⟨rfl, rfl⟩ := gives_ok.mp h
        exact Or.inl ⟨nextIs_cons_eq_false.mpr hless, rfl, rfl⟩
  · rintro ⟨text, behind, ⟨fewer, hid⟩, ⟨hless, rfl, rfl⟩ | hgeneric⟩
    · rw [hid]
      cases left with
      | nil => exact ⟨fewer, rfl⟩
      | cons t rest =>
        have hkind := nextIs_cons_eq_false.mp hless
        simp only [hkind, if_false]
        exact ⟨fewer, rfl⟩
    · obtain ⟨t, rest, first, middle, more, tail, u, rfl, hless, ⟨_, hfirst⟩, ⟨_, hmore⟩, rfl, hu,
        rfl⟩ := hgeneric
      rw [hid]
      simp only [hless, if_true, hfirst, hmore, expect_cons hu]
      exact ⟨_, rfl⟩

/-- Behind a type argument there is no comma, or a comma and another one. -/
theorem moreArguments_iff {types : List TypeRef} :
    Gives (moreArguments stop ahead) types left ↔
      nextIs .comma ahead = false ∧ types = [] ∧ left = ahead ∨
        ∃ t rest first middle more, ahead = t :: rest ∧ t.kind = .comma ∧
          Gives (typeRef stop rest) first middle ∧ Gives (moreArguments stop middle) more left ∧
          types = first :: more := by
  rw [moreArguments.eq_def]
  constructor
  · intro h
    split at h
    · obtain ⟨rfl, rfl⟩ := gives_ok.mp h
      exact Or.inl ⟨rfl, rfl, rfl⟩
    · rename_i t rest
      split at h
      · rename_i hcomma
        split at h
        · exact absurd h not_gives_error
        · rename_i first middle hmiddle hfirst
          split at h
          · exact absurd h not_gives_error
          · rename_i more tail htail hmore
            obtain ⟨rfl, rfl⟩ := gives_ok.mp h
            exact Or.inr ⟨t, rest, first, middle, more, rfl, hcomma, ⟨_, hfirst⟩, ⟨_, hmore⟩, rfl⟩
      · rename_i hcomma
        obtain ⟨rfl, rfl⟩ := gives_ok.mp h
        exact Or.inl ⟨nextIs_cons_eq_false.mpr hcomma, rfl, rfl⟩
  · rintro (⟨hcomma, rfl, rfl⟩ | ⟨t, rest, first, middle, more, rfl, hcomma, ⟨_, hfirst⟩,
      ⟨_, hmore⟩, rfl⟩)
    · cases left with
      | nil => exact ⟨_, rfl⟩
      | cons t rest =>
        have hkind := nextIs_cons_eq_false.mp hcomma
        simp only [hkind, if_false]
        exact ⟨_, rfl⟩
    · simp only [hcomma, if_true, hfirst, hmore]
      exact ⟨_, rfl⟩

/-- Behind a name there is no dot, or a dot and a simple name that is qualified by it. -/
theorem qualifiedTail_iff {first whole : Name} :
    Gives (qualifiedTail stop first ahead) whole left ↔
      nextIs .dot ahead = false ∧ whole = first ∧ left = ahead ∨
        ∃ t rest right middle, ahead = t :: rest ∧ t.kind = .dot ∧
          Gives (simpleName stop rest) right middle ∧
          Gives (qualifiedTail stop (.qualified first right) middle) whole left := by
  rw [qualifiedTail.eq_def]
  constructor
  · intro h
    split at h
    · obtain ⟨rfl, rfl⟩ := gives_ok.mp h
      exact Or.inl ⟨rfl, rfl, rfl⟩
    · rename_i t rest
      split at h
      · rename_i hdot
        split at h
        · exact absurd h not_gives_error
        · rename_i right middle hmiddle hright
          split at h
          · exact absurd h not_gives_error
          · rename_i value tail htail hwhole
            obtain ⟨rfl, rfl⟩ := gives_ok.mp h
            exact Or.inr ⟨t, rest, right, middle, rfl, hdot, ⟨_, hright⟩, ⟨_, hwhole⟩⟩
      · rename_i hdot
        obtain ⟨rfl, rfl⟩ := gives_ok.mp h
        exact Or.inl ⟨nextIs_cons_eq_false.mpr hdot, rfl, rfl⟩
  · rintro (⟨hdot, rfl, rfl⟩ | ⟨t, rest, right, middle, rfl, hdot, ⟨_, hright⟩, ⟨_, hwhole⟩⟩)
    · cases left with
      | nil => exact ⟨_, rfl⟩
      | cons t rest =>
        have hkind := nextIs_cons_eq_false.mp hdot
        simp only [hkind, if_false]
        exact ⟨_, rfl⟩
    · simp only [hdot, if_true, hright, hwhole]
      exact ⟨_, rfl⟩

/-- A name is a simple name or one inside of an alias, and what qualifies it. -/
theorem name_iff {n : Name} :
    Gives (name stop ahead) n left ↔
      ∃ first behind, Gives (simpleName stop ahead) first behind ∧
        (nextIs .doubleColon behind = false ∧ Gives (qualifiedTail stop first behind) n left ∨
          ∃ t rest qualifier inner middle, behind = t :: rest ∧ t.kind = .doubleColon ∧
            first = .identifier qualifier ∧ Gives (simpleName stop rest) inner middle ∧
            Gives (qualifiedTail stop (.aliased qualifier inner) middle) n left) := by
  rw [name.eq_def]
  constructor
  · intro h
    split at h
    · exact absurd h not_gives_error
    · rename_i first fewer hfirst
      obtain ⟨rfl, rfl⟩ := gives_ok.mp h
      exact ⟨n, [], ⟨fewer, hfirst⟩,
        Or.inl ⟨rfl, qualifiedTail_iff.mpr (Or.inl ⟨rfl, rfl, rfl⟩)⟩⟩
    · rename_i first t rest fewer hfirst
      refine ⟨first, t :: rest, ⟨fewer, hfirst⟩, ?_⟩
      split at h
      · -- only a plain identifier can be an alias
        rename_i hcolon
        split at h
        · rename_i qualifier
          split at h
          · exact absurd h not_gives_error
          · rename_i inner middle hmiddle hinner
            split at h
            · exact absurd h not_gives_error
            · rename_i value tail htail hwhole
              obtain ⟨rfl, rfl⟩ := gives_ok.mp h
              exact Or.inr ⟨t, rest, qualifier, inner, middle, rfl, hcolon, rfl, ⟨_, hinner⟩,
                ⟨_, hwhole⟩⟩
        · exact absurd h not_gives_error
      · rename_i hcolon
        split at h
        · exact absurd h not_gives_error
        · rename_i value tail htail hwhole
          obtain ⟨rfl, rfl⟩ := gives_ok.mp h
          exact Or.inl ⟨nextIs_cons_eq_false.mpr hcolon, ⟨_, hwhole⟩⟩
  · rintro ⟨first, behind, ⟨fewer, hfirst⟩, ⟨hcolon, hwhole⟩ | haliased⟩
    · rw [hfirst]
      cases behind with
      | nil =>
        rw [qualifiedTail.eq_def] at hwhole
        obtain ⟨rfl, rfl⟩ := gives_ok.mp hwhole
        exact ⟨fewer, rfl⟩
      | cons t rest =>
        obtain ⟨_, hwhole⟩ := hwhole
        have hkind := nextIs_cons_eq_false.mp hcolon
        simp only [hkind, if_false, hwhole]
        exact ⟨_, rfl⟩
    · obtain ⟨t, rest, qualifier, inner, middle, rfl, hcolon, rfl, ⟨_, hinner⟩, ⟨_, hwhole⟩⟩ :=
        haliased
      rw [hfirst]
      simp only [hcolon, if_true, hinner, hwhole]
      exact ⟨_, rfl⟩

/-! ## Types -/

/-- A type is complete, or made nullable, or made an array of as many dimensions as its commas say.
-/
theorem typeSuffixes_iff {type whole : TypeRef} :
    Gives (typeSuffixes stop type ahead) whole left ↔
      nextIs .question ahead = false ∧ nextIs .leftBracket ahead = false ∧ whole = type ∧
          left = ahead ∨
        (∃ t rest, ahead = t :: rest ∧ t.kind = .question ∧
          Gives (typeSuffixes stop (.nullable type) rest) whole left) ∨
        ∃ t commas u rest, ahead = t :: (commas ++ u :: rest) ∧ t.kind = .leftBracket ∧
          (∀ c ∈ commas, c.kind = .comma) ∧ u.kind = .rightBracket ∧
          Gives (typeSuffixes stop (.array type (commas.length + 1)) rest) whole left := by
  rw [typeSuffixes.eq_def]
  constructor
  · intro h
    split at h
    · obtain ⟨rfl, rfl⟩ := gives_ok.mp h
      exact Or.inl ⟨rfl, rfl, rfl, rfl⟩
    · rename_i t rest
      split at h
      · rename_i hquestion
        split at h
        · exact absurd h not_gives_error
        · rename_i value tail htail hwhole
          obtain ⟨rfl, rfl⟩ := gives_ok.mp h
          exact Or.inr (Or.inl ⟨t, rest, rfl, hquestion, ⟨_, hwhole⟩⟩)
      · rename_i hquestion
        split at h
        · -- each comma up to the closing bracket is one more dimension
          rename_i hbracket
          dsimp only at h
          split at h
          · exact absurd h not_gives_error
          · rename_i behind hbehind hclose
            obtain ⟨u, hrest, hu⟩ := expect_eq_ok hclose
            split at h
            · exact absurd h not_gives_error
            · rename_i value tail htail hwhole
              obtain ⟨rfl, rfl⟩ := gives_ok.mp h
              refine Or.inr (Or.inr ⟨t, _, u, behind, ?_, hbracket, ?_, hu, ⟨_, hwhole⟩⟩)
              · rw [← hrest, List.prefix_iff_eq_append.mp (List.takeWhile_prefix _)]
              · intro c hc
                simpa using List.mem_takeWhile_imp hc
        · rename_i hbracket
          obtain ⟨rfl, rfl⟩ := gives_ok.mp h
          exact Or.inl ⟨nextIs_cons_eq_false.mpr hquestion, nextIs_cons_eq_false.mpr hbracket, rfl,
            rfl⟩
  · rintro (⟨hquestion, hbracket, rfl, rfl⟩ | ⟨t, rest, rfl, hquestion, ⟨_, hwhole⟩⟩ |
      ⟨t, commas, u, rest, rfl, hbracket, hcommas, hu, ⟨_, hwhole⟩⟩)
    · cases left with
      | nil => exact ⟨_, rfl⟩
      | cons t rest =>
        have hnone := nextIs_cons_eq_false.mp hquestion
        have hopen := nextIs_cons_eq_false.mp hbracket
        simp only [hnone, hopen, if_false]
        exact ⟨_, rfl⟩
    · simp only [hquestion, if_true, hwhole]
      exact ⟨_, rfl⟩
    · -- the bracket ends the commas, so that all of them are taken and no more
      have hnone : t.kind ≠ .question := by simp [hbracket]
      have htaken : (commas ++ u :: rest).takeWhile (fun v => v.kind == .comma) = commas := by
        rw [List.takeWhile_append_of_pos (by simpa using hcommas)]
        simp [hu]
      have hdropped : (commas ++ u :: rest).drop commas.length = u :: rest := List.drop_left
      dsimp only
      rw [if_neg hnone, if_pos hbracket]
      split
      · rename_i e hclose
        rw [htaken, hdropped, expect_cons hu] at hclose
        exact absurd hclose (by simp)
      · rename_i behind shorter hclose
        obtain ⟨v, hbehind, -⟩ := expect_eq_ok hclose
        rw [htaken, hdropped] at hbehind
        obtain ⟨-, rfl⟩ := List.cons.inj hbehind
        simp only [htaken, hwhole]
        exact ⟨_, rfl⟩

/-- A type is a predefined one or a name, with its suffixes. -/
theorem typeRef_iff {whole : TypeRef} :
    Gives (typeRef stop ahead) whole left ↔
      (∃ t rest type, ahead = t :: rest ∧ predefined? t = some type ∧
        Gives (typeSuffixes stop (.predefined type) rest) whole left) ∨
      ∃ t rest path middle, ahead = t :: rest ∧ predefined? t = none ∧
        Gives (name stop ahead) path middle ∧
        Gives (typeSuffixes stop (.named path) middle) whole left := by
  rw [typeRef.eq_def]
  constructor
  · intro h
    split at h
    · exact absurd h not_gives_error
    · rename_i t rest
      split at h
      · rename_i type htype
        split at h
        · exact absurd h not_gives_error
        · rename_i value tail htail hwhole
          obtain ⟨rfl, rfl⟩ := gives_ok.mp h
          exact Or.inl ⟨t, rest, type, rfl, htype, ⟨_, hwhole⟩⟩
      · rename_i htype
        split at h
        · exact absurd h not_gives_error
        · rename_i path middle hmiddle hpath
          split at h
          · exact absurd h not_gives_error
          · rename_i value tail htail hwhole
            obtain ⟨rfl, rfl⟩ := gives_ok.mp h
            exact Or.inr ⟨t, rest, path, middle, rfl, htype, ⟨_, hpath⟩, ⟨_, hwhole⟩⟩
  · rintro (⟨t, rest, type, rfl, htype, ⟨_, hwhole⟩⟩ |
      ⟨t, rest, path, middle, rfl, htype, ⟨_, hpath⟩, ⟨_, hwhole⟩⟩)
    · simp only [htype, hwhole]
      exact ⟨_, rfl⟩
    · simp only [htype, hpath, hwhole]
      exact ⟨_, rfl⟩

/-! ## Expressions -/

/-- A name in an expression is an identifier, alone or behind an alias. -/
theorem nameExpression_iff {e : Expr} :
    Gives (nameExpression stop ahead) e left ↔
      ∃ text behind, Gives (identifier stop .expression ahead) text behind ∧
        (nextIs .doubleColon behind = false ∧ e = .identifier text ∧ left = behind ∨
          ∃ t rest inner, behind = t :: rest ∧ t.kind = .doubleColon ∧
            Gives (identifier stop .name rest) inner left ∧
            e = .name (.aliased text (.identifier inner))) := by
  unfold nameExpression
  constructor
  · intro h
    split at h
    · exact absurd h not_gives_error
    · rename_i text fewer htext
      obtain ⟨rfl, rfl⟩ := gives_ok.mp h
      exact ⟨text, [], ⟨fewer, htext⟩, Or.inl ⟨rfl, rfl, rfl⟩⟩
    · rename_i text t rest fewer htext
      refine ⟨text, t :: rest, ⟨fewer, htext⟩, ?_⟩
      split at h
      · rename_i hcolon
        split at h
        · exact absurd h not_gives_error
        · rename_i inner tail htail hinner
          obtain ⟨rfl, rfl⟩ := gives_ok.mp h
          exact Or.inr ⟨t, rest, inner, rfl, hcolon, ⟨_, hinner⟩, rfl⟩
      · rename_i hcolon
        obtain ⟨rfl, rfl⟩ := gives_ok.mp h
        exact Or.inl ⟨nextIs_cons_eq_false.mpr hcolon, rfl, rfl⟩
  · rintro ⟨text, behind, ⟨fewer, htext⟩, ⟨hcolon, rfl, rfl⟩ | haliased⟩
    · rw [htext]
      cases left with
      | nil => exact ⟨fewer, rfl⟩
      | cons t rest =>
        have hkind := nextIs_cons_eq_false.mp hcolon
        simp only [hkind, if_false]
        exact ⟨fewer, rfl⟩
    · obtain ⟨t, rest, inner, rfl, hcolon, ⟨_, hinner⟩, rfl⟩ := haliased
      rw [htext]
      simp only [hcolon, if_true, hinner]
      exact ⟨_, rfl⟩

/-- Behind an expression there is no dot, or a dot and the name of a member. -/
theorem memberTail_iff {receiver whole : Expr} :
    Gives (memberTail stop receiver ahead) whole left ↔
      nextIs .dot ahead = false ∧ whole = receiver ∧ left = ahead ∨
        ∃ t rest field middle, ahead = t :: rest ∧ t.kind = .dot ∧
          Gives (identifier stop .memberName rest) field middle ∧
          Gives (memberTail stop (.member receiver field) middle) whole left := by
  rw [memberTail.eq_def]
  constructor
  · intro h
    split at h
    · obtain ⟨rfl, rfl⟩ := gives_ok.mp h
      exact Or.inl ⟨rfl, rfl, rfl⟩
    · rename_i t rest
      split at h
      · rename_i hdot
        split at h
        · exact absurd h not_gives_error
        · rename_i field middle hmiddle hfield
          split at h
          · exact absurd h not_gives_error
          · rename_i value tail htail hwhole
            obtain ⟨rfl, rfl⟩ := gives_ok.mp h
            exact Or.inr ⟨t, rest, field, middle, rfl, hdot, ⟨_, hfield⟩, ⟨_, hwhole⟩⟩
      · rename_i hdot
        obtain ⟨rfl, rfl⟩ := gives_ok.mp h
        exact Or.inl ⟨nextIs_cons_eq_false.mpr hdot, rfl, rfl⟩
  · rintro (⟨hdot, rfl, rfl⟩ | ⟨t, rest, field, middle, rfl, hdot, ⟨_, hfield⟩, ⟨_, hwhole⟩⟩)
    · cases left with
      | nil => exact ⟨_, rfl⟩
      | cons t rest =>
        have hkind := nextIs_cons_eq_false.mp hdot
        simp only [hkind, if_false]
        exact ⟨_, rfl⟩
    · simp only [hdot, if_true, hfield, hwhole]
      exact ⟨_, rfl⟩

/-- A `typeof` has a type in parentheses behind it. -/
theorem typeOf_iff {e : Expr} :
    Gives (typeOf stop ahead) e left ↔
      ∃ t rest type u, ahead = t :: rest ∧ t.kind = .leftParen ∧
        Gives (typeRef stop rest) type (u :: left) ∧ u.kind = .rightParen ∧ e = .typeOf type := by
  unfold typeOf
  constructor
  · intro h
    split at h
    · exact absurd h not_gives_error
    · rename_i rest hrest hopen
      obtain ⟨t, rfl, ht⟩ := expect_eq_ok hopen
      split at h
      · exact absurd h not_gives_error
      · rename_i type behind hbehind htype
        split at h
        · exact absurd h not_gives_error
        · rename_i tail htail hclose
          obtain ⟨u, rfl, hu⟩ := expect_eq_ok hclose
          obtain ⟨rfl, rfl⟩ := gives_ok.mp h
          exact ⟨t, rest, type, u, rfl, ht, ⟨_, htype⟩, hu, rfl⟩
  · rintro ⟨t, rest, type, u, rfl, ht, ⟨_, htype⟩, hu, rfl⟩
    simp only [expect_cons ht, htype, expect_cons hu]
    exact ⟨_, rfl⟩

/-- An expression is an operand, or an assignment to an identifier. -/
theorem expression_iff {e : Expr} :
    Gives (expression stop ahead) e left ↔
      ∃ first behind, Gives (unary stop ahead) first behind ∧
        (nextIs .equals behind = false ∧ e = first ∧ left = behind ∨
          ∃ t rest target right, behind = t :: rest ∧ t.kind = .equals ∧
            first = .identifier target ∧ Gives (expression stop rest) right left ∧
            e = .assign (.identifier target) right) := by
  rw [expression.eq_def]
  constructor
  · intro h
    split at h
    · exact absurd h not_gives_error
    · rename_i first fewer hfirst
      obtain ⟨rfl, rfl⟩ := gives_ok.mp h
      exact ⟨e, [], ⟨fewer, hfirst⟩, Or.inl ⟨rfl, rfl, rfl⟩⟩
    · rename_i first t rest fewer hfirst
      refine ⟨first, t :: rest, ⟨fewer, hfirst⟩, ?_⟩
      split at h
      · -- what is assigned to has to be an identifier
        rename_i hequals
        split at h
        · rename_i target
          split at h
          · exact absurd h not_gives_error
          · rename_i right behind hbehind hright
            obtain ⟨rfl, rfl⟩ := gives_ok.mp h
            exact Or.inr ⟨t, rest, target, right, rfl, hequals, rfl, ⟨_, hright⟩, rfl⟩
        · exact absurd h not_gives_error
      · rename_i hequals
        obtain ⟨rfl, rfl⟩ := gives_ok.mp h
        exact Or.inl ⟨nextIs_cons_eq_false.mpr hequals, rfl, rfl⟩
  · rintro ⟨first, behind, ⟨fewer, hfirst⟩, ⟨hequals, rfl, rfl⟩ | hassign⟩
    · rw [hfirst]
      cases left with
      | nil => exact ⟨fewer, rfl⟩
      | cons t rest =>
        have hkind := nextIs_cons_eq_false.mp hequals
        simp only [hkind, if_false]
        exact ⟨fewer, rfl⟩
    · obtain ⟨t, rest, target, right, rfl, hequals, rfl, ⟨_, hright⟩, rfl⟩ := hassign
      rw [hfirst]
      simp only [hequals, if_true, Expr.identifier, hright]
      exact ⟨_, rfl⟩

/-- An operand is an operator and another operand, or an expression without operators and what
stands behind its dots. -/
theorem unary_iff {e : Expr} :
    Gives (unary stop ahead) e left ↔
      (∃ t rest op operand, ahead = t :: rest ∧ prefixOp? t = some op ∧
        Gives (unary stop rest) operand left ∧ e = .unary op operand) ∨
      ∃ t rest receiver middle, ahead = t :: rest ∧ prefixOp? t = none ∧
        Gives (primary stop ahead) receiver middle ∧
        Gives (memberTail stop receiver middle) e left := by
  rw [unary.eq_def]
  constructor
  · intro h
    split at h
    · exact absurd h not_gives_error
    · rename_i t rest
      split at h
      · rename_i op hop
        split at h
        · exact absurd h not_gives_error
        · rename_i operand tail htail hoperand
          obtain ⟨rfl, rfl⟩ := gives_ok.mp h
          exact Or.inl ⟨t, rest, op, operand, rfl, hop, ⟨_, hoperand⟩, rfl⟩
      · rename_i hop
        split at h
        · exact absurd h not_gives_error
        · rename_i receiver middle hmiddle hreceiver
          split at h
          · exact absurd h not_gives_error
          · rename_i value tail htail hwhole
            obtain ⟨rfl, rfl⟩ := gives_ok.mp h
            exact Or.inr ⟨t, rest, receiver, middle, rfl, hop, ⟨_, hreceiver⟩, ⟨_, hwhole⟩⟩
  · rintro (⟨t, rest, op, operand, rfl, hop, ⟨_, hoperand⟩, rfl⟩ |
      ⟨t, rest, receiver, middle, rfl, hop, ⟨_, hreceiver⟩, ⟨_, hwhole⟩⟩)
    · simp only [hop, hoperand]
      exact ⟨_, rfl⟩
    · simp only [hop, hreceiver, hwhole]
      exact ⟨_, rfl⟩

/-- What is enclosed in parentheses is an expression, and then the closing one. -/
theorem enclosed_iff {e : Expr} :
    Gives (enclosed stop ahead) e left ↔
      ∃ u, Gives (expression stop ahead) e (u :: left) ∧ u.kind = .rightParen := by
  rw [enclosed.eq_def]
  constructor
  · intro h
    split at h
    · exact absurd h not_gives_error
    · rename_i inner behind hbehind hinner
      split at h
      · exact absurd h not_gives_error
      · rename_i tail htail hclose
        obtain ⟨u, rfl, hu⟩ := expect_eq_ok hclose
        obtain ⟨rfl, rfl⟩ := gives_ok.mp h
        exact ⟨u, ⟨_, hinner⟩, hu⟩
  · rintro ⟨u, ⟨_, hinner⟩, hu⟩
    simp only [hinner, expect_cons hu]
    exact ⟨_, rfl⟩

/-- The ways in which an expression is read that has no operators, assignments and member names of
its own. -/
inductive ReadsPrimary (stop : Position) : List Token → Expr → List Token → Prop
  | literal (t : Token) (rest : List Token) (value : Literal) : literal? t = some value →
      ReadsPrimary stop (t :: rest) (.literal value) rest
  | paren (t : Token) (rest left : List Token) (inner : Expr) : t.kind = .leftParen →
      Gives (enclosed stop rest) inner left → ReadsPrimary stop (t :: rest) (.paren inner) left
  | typeOf (t : Token) (rest left : List Token) (e : Expr) : t.kind = .identifier →
      t.lexeme = "typeof" → Gives (typeOf stop rest) e left → ReadsPrimary stop (t :: rest) e left
  | nameOf (t u : Token) (rest left : List Token) (inner : Expr) : t.kind = .identifier →
      t.lexeme = "nameof" → u.kind = .leftParen → Gives (enclosed stop rest) inner left →
      ReadsPrimary stop (t :: u :: rest) (.nameOf inner) left
  | predefined (t : Token) (rest : List Token) (type : Predefined) : predefined? t = some type →
      ReadsPrimary stop (t :: rest) (.predefined type) rest
  | name (t : Token) (rest left : List Token) (e : Expr) : literal? t = none →
      predefined? t = none → t.kind = .identifier → t.lexeme ≠ "typeof" →
      (t.lexeme = "nameof" → nextIs .leftParen rest = false) →
      Gives (nameExpression stop (t :: rest)) e left → ReadsPrimary stop (t :: rest) e left

/-- The ways to read an expression without operators are those that are told apart by its first
token. -/
theorem primary_iff {e : Expr} :
    Gives (primary stop ahead) e left ↔ ReadsPrimary stop ahead e left := by
  rw [primary.eq_def]
  constructor
  · intro h
    split at h
    · exact absurd h not_gives_error
    · rename_i t rest
      split at h
      · rename_i value hvalue
        obtain ⟨rfl, rfl⟩ := gives_ok.mp h
        exact .literal t _ value hvalue
      · rename_i hliteral
        split_ifs at h with hparen hkind htypeof hnameof
        · split at h
          · exact absurd h not_gives_error
          · rename_i inner tail htail hinner
            obtain ⟨rfl, rfl⟩ := gives_ok.mp h
            exact .paren t rest _ _ hparen ⟨_, hinner⟩
        · split at h
          · exact absurd h not_gives_error
          · rename_i whole tail htail hwhole
            obtain ⟨rfl, rfl⟩ := gives_ok.mp h
            exact .typeOf t rest _ _ hkind htypeof ⟨_, hwhole⟩
        · split at h
          · exact absurd h not_gives_error
          · rename_i inner tail htail hinner
            obtain ⟨rfl, rfl⟩ := gives_ok.mp h
            obtain ⟨u, more, rfl, hu⟩ := nextIs_iff.mp hnameof.2
            exact .nameOf t u more _ _ hkind hnameof.1 hu ⟨_, hinner⟩
        · split at h
          · rename_i type htype
            obtain ⟨rfl, rfl⟩ := gives_ok.mp h
            exact .predefined t _ type htype
          · rename_i htype
            -- all other words have been ruled out
            refine .name t rest _ _ hliteral htype hkind htypeof ?_ h
            intro hword
            rw [Bool.eq_false_iff]
            exact fun hopen => hnameof ⟨hword, hopen⟩
        · exact absurd h not_gives_error
  · intro h
    cases h with
    | literal t rest value hvalue =>
      simp only [hvalue]
      exact ⟨_, rfl⟩
    | paren t rest left inner hparen hinner =>
      obtain ⟨_, hinner⟩ := hinner
      have hliteral : literal? t = none := by simp [literal?, hparen]
      simp only [hliteral, hparen, if_true, hinner]
      exact ⟨_, rfl⟩
    | typeOf t rest left e hkind htypeof hwhole =>
      obtain ⟨_, hwhole⟩ := hwhole
      have hliteral : literal? t = none := by simp [literal?, hkind, htypeof]
      simp only [hliteral, hkind, htypeof, reduceCtorEq, if_true, if_false, hwhole]
      exact ⟨_, rfl⟩
    | nameOf t u rest left inner hkind hnameof hu hinner =>
      obtain ⟨_, hinner⟩ := hinner
      have hliteral : literal? t = none := by simp [literal?, hkind, hnameof]
      have hopen : nextIs .leftParen (u :: rest) = true := (nextIs_cons _ _ _).mpr hu
      simp only [hliteral, hkind, hnameof, hopen, reduceCtorEq, and_self, if_true, if_false,
        List.tail_cons, hinner]
      exact ⟨_, rfl⟩
    | predefined t rest type htype =>
      have hkind : t.kind = .identifier := by
        unfold predefined? at htype
        split at htype
        · assumption
        · exact absurd htype (by simp)
      -- the words that are tested first are no names of types
      have hword : t.lexeme = type.word := by
        rw [predefined?, if_pos hkind] at htype
        exact (Predefined.ofWord?_eq_some_iff.mp htype).symm
      have hliteral : literal? t = none := by
        cases type <;> simp [literal?, hkind, hword, Predefined.word]
      have htypeof : t.lexeme ≠ "typeof" := by
        cases type <;> simp [hword, Predefined.word]
      have hnameof : ¬ (t.lexeme = "nameof" ∧ nextIs .leftParen left = true) := by
        cases type <;> simp [hword, Predefined.word]
      simp only [hliteral, hkind, htypeof, hnameof, htype, reduceCtorEq, if_true, if_false]
      exact ⟨_, rfl⟩
    | name t rest left e hliteral htype hkind htypeof hnameof hwhole =>
      -- without a parenthesis `nameof` is an identifier like any other
      have hnameof' : ¬ (t.lexeme = "nameof" ∧ nextIs .leftParen rest = true) := by
        rintro ⟨hword, hopen⟩
        rw [hnameof hword] at hopen
        exact absurd hopen (by simp)
      simp only [hliteral, hkind, htypeof, hnameof', htype, reduceCtorEq, if_true, if_false]
      exact hwhole

end

end Parser

end DeclScribe
