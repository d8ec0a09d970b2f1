import DeclScribe.Fragment
import DeclScribe.Proofs.Token.Faults

/-!
# Parsing stays within the tokens

A parsing step looks at the tokens ahead from the front and never behind the last of them. What it
leaves are the last of those tokens, and an error shows at one of them or at the end of the text.
One lemma for each step says so, along the recursion of the steps. As every token stands behind a
front of the text, an error of a whole text does too, and a text is empty only when it has no token.
-/

set_option autoImplicit false

namespace DeclScribe

namespace Parser

/-- The places at which a step can stop: those of the tokens ahead and the end of the text. -/
def places (stop : Position) (ahead : List Token) : List Position :=
  ahead.map Token.pos ++ [stop]

/-- An answer to the tokens ahead that stays within them: it leaves the last of them, or it is an
error at one of their places. -/
inductive StaysWithin {α : Type} (stop : Position) (ahead : List Token) (left : α → List Token) :
    Except ParseError α → Prop
  | ok {a : α} (h : left a <:+ ahead) : StaysWithin stop ahead left (.ok a)
  | error {e : ParseError} {pos : Position} (hplace : e.position? = some pos)
      (hpos : pos ∈ places stop ahead) : StaysWithin stop ahead left (.error e)

/-- The answer of a step that reads a value stays within the tokens. -/
abbrev ReadsWithin {α : Type} {P : List Token → Prop} (stop : Position) (ahead : List Token) :
    Except ParseError (α × Subtype P) → Prop :=
  StaysWithin stop ahead fun answer => answer.2.val

section

variable {stop : Position} {ahead behind : List Token}

/-- Places further on are places. -/
theorem places_subset (h : behind <:+ ahead) : places stop behind ⊆ places stop ahead := by
  intro pos hpos
  rw [places, List.mem_append] at hpos ⊢
  exact hpos.imp_left fun hmem => (h.map Token.pos).subset hmem

/-- What goes on after a step on the last of the tokens ahead: an error of that step is one at a
place of the tokens ahead, and what it leaves are the last of them. -/
@[elab_as_elim]
theorem StaysWithin.elim {P : List Token → Prop} {motive : Except ParseError (Subtype P) → Prop}
    {x : Except ParseError (Subtype P)} (h : StaysWithin stop behind Subtype.val x)
    (hsuffix : behind <:+ ahead)
    (error : ∀ e pos, e.position? = some pos → pos ∈ places stop ahead → motive (.error e))
    (ok : ∀ left hleft, left <:+ ahead → motive (.ok ⟨left, hleft⟩)) : motive x := by
  cases h with
  | ok h => exact ok _ _ (h.trans hsuffix)
  | error hplace hpos => exact error _ _ hplace (places_subset hsuffix hpos)

/-- The same for a step that reads a value. -/
@[elab_as_elim]
theorem ReadsWithin.elim {α : Type} {P : List Token → Prop}
    {motive : Except ParseError (α × Subtype P) → Prop} {x : Except ParseError (α × Subtype P)}
    (h : ReadsWithin stop behind x) (hsuffix : behind <:+ ahead)
    (error : ∀ e pos, e.position? = some pos → pos ∈ places stop ahead → motive (.error e))
    (ok : ∀ value left hleft, left <:+ ahead → motive (.ok (value, ⟨left, hleft⟩))) :
    motive x := by
  cases h with
  | ok h => exact ok _ _ _ (h.trans hsuffix)
  | error hplace hpos => exact error _ _ hplace (places_subset hsuffix hpos)

/-! ## Single tokens -/

/-- A step can stop at the end of the text. -/
theorem stop_mem_places : stop ∈ places stop ahead := by
  simp [places]

/-- A step can stop at the next token. -/
theorem head_mem_places {t : Token} : t.pos ∈ places stop (t :: ahead) := by
  simp [places]

/-- A disappointed expectation is an error at the next token, or at the end of the text. -/
theorem unmet_within {α : Type} {left : α → List Token} (stop : Position) (what : Expectation)
    (ahead : List Token) : StaysWithin stop ahead left (.error (unmet stop what ahead)) := by
  cases ahead with
  | nil => exact .error rfl stop_mem_places
  | cons t rest => exact .error rfl head_mem_places

/-- A step for one token takes it, or fails there. -/
theorem expect_within (stop : Position) (kind : TokenKind) (what : Expectation)
    (ahead : List Token) : StaysWithin stop ahead Subtype.val (expect stop kind what ahead) := by
  unfold expect
  split
  · split
    · exact .ok (List.suffix_cons _ _)
    · exact unmet_within stop what _
  · exact unmet_within stop what []

/-- A step for an identifier takes it, or fails there, also if it is a reserved word. -/
theorem identifier_within (stop : Position) (role : NameRole) (ahead : List Token) :
    ReadsWithin stop ahead (identifier stop role ahead) := by
  unfold identifier
  split
  · split_ifs
    · exact .error rfl head_mem_places
    · exact .ok (List.suffix_cons _ _)
    · exact unmet_within stop .identifier _
  · exact unmet_within stop .identifier []

/-! ## Types -/

/-- The suffixes of a type are read token by token, each error behind the bracket that was taken. -/
theorem typeSuffixes_within (stop : Position) (type : TypeRef) (ahead : List Token) :
    ReadsWithin stop ahead (typeSuffixes stop type ahead) := by
  rw [typeSuffixes.eq_def]
  cases ahead with
  | nil => exact .ok List.suffix_rfl
  | cons t rest =>
    have hrest : rest <:+ t :: rest := List.suffix_cons t rest
    dsimp only
    split
    · refine ReadsWithin.elim (typeSuffixes_within stop type.nullable rest) hrest
        (fun _ _ => .error) ?_
      intro whole left _ hleft
      exact .ok hleft
    · split
      · refine StaysWithin.elim (expect_within stop .rightBracket .closeBracket _)
          ((List.drop_suffix _ _).trans hrest) (fun _ _ => .error) ?_
        intro behind shorter hbehind
        -- the brackets are taken, so the suffixes behind them have fewer tokens
        have hfewer : behind.length < rest.length := by
          simp only [List.length_drop] at shorter
          omega
        dsimp only
        refine ReadsWithin.elim (typeSuffixes_within stop _ behind) hbehind (fun _ _ => .error) ?_
        intro whole left _ hleft
        exact .ok hleft
      · exact .ok List.suffix_rfl
termination_by ahead.length
decreasing_by all_goals (subst_vars; simp only [List.length_cons]; omega)

mutual

/-- A simple name stays within the tokens, if the types inside of it do. -/
theorem simpleName_within (stop : Position) (ahead : List Token) :
    ReadsWithin stop ahead (simpleName stop ahead) := by
  rw [simpleName]
  refine ReadsWithin.elim (identifier_within stop .name ahead) List.suffix_rfl
    (fun _ _ => .error) ?_
  intro text left fewer hleft
  cases left with
  | nil => exact .ok hleft
  | cons t rest =>
    have hrest : rest <:+ ahead := (List.suffix_cons t rest).trans hleft
    dsimp only
    split
    · refine ReadsWithin.elim (typeRef_within stop rest) hrest (fun _ _ => .error) ?_
      intro first behind shorter hbehind
      dsimp only
      refine ReadsWithin.elim (moreArguments_within stop behind) hbehind (fun _ _ => .error) ?_
      intro more tail _ htail
      dsimp only
      refine StaysWithin.elim (expect_within stop .greater .closeAngle tail) htail
        (fun _ _ => .error) ?_
      intro last _ hlast
      exact .ok hlast
    · exact .ok hleft
termination_by 4 * ahead.length + 1
decreasing_by all_goals (simp only [List.length_cons] at fewer; omega)

/-- The types behind a comma stay within the tokens. -/
theorem moreArguments_within (stop : Position) (ahead : List Token) :
    ReadsWithin stop ahead (moreArguments stop ahead) := by
  rw [moreArguments.eq_def]
  cases ahead with
  | nil => exact .ok List.suffix_rfl
  | cons t rest =>
    dsimp only
    split
    · refine ReadsWithin.elim (typeRef_within stop rest) (List.suffix_cons t rest)
        (fun _ _ => .error) ?_
      intro type behind shorter hbehind
      dsimp only
      refine ReadsWithin.elim (moreArguments_within stop behind) hbehind (fun _ _ => .error) ?_
      intro more left _ hleft
      exact .ok hleft
    · exact .ok List.suffix_rfl
termination_by 4 * ahead.length
decreasing_by all_goals (subst_vars; simp only [List.length_cons]; omega)

/-- What qualifies a name stays within the tokens. -/
theorem qualifiedTail_within (stop : Position) (first : Name) (ahead : List Token) :
    ReadsWithin stop ahead (qualifiedTail stop first ahead) := by
  rw [qualifiedTail.eq_def]
  cases ahead with
  | nil => exact .ok List.suffix_rfl
  | cons t rest =>
    dsimp only
    split
    · refine ReadsWithin.elim (simpleName_within stop rest) (List.suffix_cons t rest)
        (fun _ _ => .error) ?_
      intro right behind shorter hbehind
      dsimp only
      refine ReadsWithin.elim (qualifiedTail_within stop _ behind) hbehind (fun _ _ => .error) ?_
      intro whole left _ hleft
      exact .ok hleft
    · exact .ok List.suffix_rfl
termination_by 4 * ahead.length
decreasing_by all_goals (subst_vars; simp only [List.length_cons]; omega)

/-- A name stays within the tokens. -/
theorem name_within (stop : Position) (ahead : List Token) :
    ReadsWithin stop ahead (name stop ahead) := by
  rw [name]
  refine ReadsWithin.elim (simpleName_within stop ahead) List.suffix_rfl (fun _ _ => .error) ?_
  intro first left fewer hleft
  cases left with
  | nil => exact .ok hleft
  | cons t rest =>
    have hrest : rest <:+ ahead := (List.suffix_cons t rest).trans hleft
    dsimp only
    split
    · cases first with
      | identifier qualifier =>
        dsimp only
        refine ReadsWithin.elim (simpleName_within stop rest) hrest (fun _ _ => .error) ?_
        intro inner behind shorter hbehind
        dsimp only
        refine ReadsWithin.elim (qualifiedTail_within stop _ behind) hbehind
          (fun _ _ => .error) ?_
        intro whole last _ hlast
        exact .ok hlast
      -- the error is at the two colons
      | _ => exact .error rfl (places_subset hleft head_mem_places)
    · refine ReadsWithin.elim (qualifiedTail_within stop first (t :: rest)) hleft
        (fun _ _ => .error) ?_
      intro whole last _ hlast
      exact .ok hlast
termination_by 4 * ahead.length + 2
decreasing_by
  · omega
  all_goals (simp only [List.length_cons] at fewer ⊢; omega)

/-- A type stays within the tokens. -/
theorem typeRef_within (stop : Position) (ahead : List Token) :
    ReadsWithin stop ahead (typeRef stop ahead) := by
  rw [typeRef.eq_def]
  cases ahead with
  | nil => exact unmet_within stop .identifier []
  | cons t rest =>
    dsimp only
    split
    · refine ReadsWithin.elim (typeSuffixes_within stop _ rest) (List.suffix_cons t rest)
        (fun _ _ => .error) ?_
      intro whole left _ hleft
      exact .ok hleft
    · refine ReadsWithin.elim (name_within stop (t :: rest)) List.suffix_rfl (fun _ _ => .error) ?_
      intro path behind _ hbehind
      dsimp only
      refine ReadsWithin.elim (typeSuffixes_within stop _ behind) hbehind (fun _ _ => .error) ?_
      intro whole left _ hleft
      exact .ok hleft
termination_by 4 * ahead.length + 3
decreasing_by all_goals (subst_vars; omega)

end

/-! ## Expressions -/

/-- A name in an expression stays within the tokens, behind an alias or without one. -/
theorem nameExpression_within (stop : Position) (ahead : List Token) :
    ReadsWithin stop ahead (nameExpression stop ahead) := by
  rw [nameExpression]
  refine ReadsWithin.elim (identifier_within stop .expression ahead) List.suffix_rfl
    (fun _ _ => .error) ?_
  intro text left _ hleft
  cases left with
  | nil => exact .ok hleft
  | cons t rest =>
    have hrest : rest <:+ ahead := (List.suffix_cons t rest).trans hleft
    dsimp only
    split
    · refine ReadsWithin.elim (identifier_within stop .name rest) hrest (fun _ _ => .error) ?_
      intro inner last _ hlast
      exact .ok hlast
    · exact .ok hleft

/-- What stands behind the dots of an expression stays within the tokens. -/
theorem memberTail_within (stop : Position) (receiver : Expr) (ahead : List Token) :
    ReadsWithin stop ahead (memberTail stop receiver ahead) := by
  rw [memberTail.eq_def]
  cases ahead with
  | nil => exact .ok List.suffix_rfl
  | cons t rest =>
    dsimp only
    split
    · refine ReadsWithin.elim (identifier_within stop .memberName rest) (List.suffix_cons t rest)
        (fun _ _ => .error) ?_
      intro field behind shorter hbehind
      dsimp only
      refine ReadsWithin.elim (memberTail_within stop _ behind) hbehind (fun _ _ => .error) ?_
      intro whole left _ hleft
      exact .ok hleft
    · exact .ok List.suffix_rfl
termination_by ahead.length
decreasing_by
  subst_vars
  simp only [List.length_cons]
  omega

/-- A `typeof` stays within the tokens. -/
theorem typeOf_within (stop : Position) (ahead : List Token) :
    ReadsWithin stop ahead (typeOf stop ahead) := by
  rw [typeOf]
  refine StaysWithin.elim (expect_within stop .leftParen .openParen ahead) List.suffix_rfl
    (fun _ _ => .error) ?_
  intro inside _ hinside
  dsimp only
  refine ReadsWithin.elim (typeRef_within stop inside) hinside (fun _ _ => .error) ?_
  intro type behind _ hbehind
  dsimp only
  refine StaysWithin.elim (expect_within stop .rightParen .closeParen behind) hbehind
    (fun _ _ => .error) ?_
  intro left _ hleft
  exact .ok hleft

mutual

/-- An expression stays within the tokens. The steps for expressions call each other, so these
lemmas do too, and each call is behind a token that was taken. -/
theorem expression_within (stop : Position) (ahead : List Token) :
    ReadsWithin stop ahead (expression stop ahead) := by
  rw [expression]
  refine ReadsWithin.elim (unary_within stop ahead) List.suffix_rfl (fun _ _ => .error) ?_
  intro target left fewer hleft
  cases left with
  | nil => exact .ok hleft
  | cons t rest =>
    have hrest : rest <:+ ahead := (List.suffix_cons t rest).trans hleft
    dsimp only
    split
    · split
      · refine ReadsWithin.elim (expression_within stop rest) hrest (fun _ _ => .error) ?_
        intro right behind _ hbehind
        exact .ok hbehind
      · -- the error shows where the target starts, which is the first token ahead
        refine .error rfl ?_
        cases ahead with
        | nil => exact absurd fewer (by simp)
        | cons u more => exact head_mem_places
    · exact .ok hleft
termination_by 4 * ahead.length + 2
decreasing_by
  · omega
  · simp only [List.length_cons] at fewer
    omega

/-- An operand stays within the tokens. -/
theorem unary_within (stop : Position) (ahead : List Token) :
    ReadsWithin stop ahead (unary stop ahead) := by
  rw [unary.eq_def]
  cases ahead with
  | nil => exact unmet_within stop .expression []
  | cons t rest =>
    dsimp only
    split
    · refine ReadsWithin.elim (unary_within stop rest) (List.suffix_cons t rest)
        (fun _ _ => .error) ?_
      intro operand left _ hleft
      exact .ok hleft
    · refine ReadsWithin.elim (primary_within stop (t :: rest)) List.suffix_rfl
        (fun _ _ => .error) ?_
      intro receiver behind _ hbehind
      dsimp only
      refine ReadsWithin.elim (memberTail_within stop receiver behind) hbehind
        (fun _ _ => .error) ?_
      intro whole left _ hleft
      exact .ok hleft
termination_by 4 * ahead.length + 1
decreasing_by all_goals (subst_vars; simp)

/-- What is enclosed in parentheses stays within the tokens. -/
theorem enclosed_within (stop : Position) (ahead : List Token) :
    ReadsWithin stop ahead (enclosed stop ahead) := by
  rw [enclosed]
  refine ReadsWithin.elim (expression_within stop ahead) List.suffix_rfl (fun _ _ => .error) ?_
  intro inner behind _ hbehind
  dsimp only
  refine StaysWithin.elim (expect_within stop .rightParen .closeParen behind) hbehind
    (fun _ _ => .error) ?_
  intro left _ hleft
  exact .ok hleft
termination_by 4 * ahead.length + 3
decreasing_by omega

/-- What is read without operators stays within the tokens. -/
theorem primary_within (stop : Position) (ahead : List Token) :
    ReadsWithin stop ahead (primary stop ahead) := by
  rw [primary.eq_def]
  cases ahead with
  | nil => exact unmet_within stop .expression []
  | cons t rest =>
    have hrest : rest <:+ t :: rest := List.suffix_cons t rest
    dsimp only
    split
    · exact .ok hrest
    · split
      · refine ReadsWithin.elim (enclosed_within stop rest) hrest (fun _ _ => .error) ?_
        intro inner left _ hleft
        exact .ok hleft
      · split
        · split
          · refine ReadsWithin.elim (typeOf_within stop rest) hrest (fun _ _ => .error) ?_
            intro whole left _ hleft
            exact .ok hleft
          · split
            · refine ReadsWithin.elim (enclosed_within stop rest.tail)
                ((List.tail_suffix rest).trans hrest) (fun _ _ => .error) ?_
              intro inner left _ hleft
              exact .ok hleft
            · split
              · exact .ok hrest
              · exact nameExpression_within stop (t :: rest)
        · exact unmet_within stop .expression (t :: rest)
termination_by 4 * ahead.length
decreasing_by
  · subst_vars
    simp only [List.length_tail, List.length_cons]
    omega
  · subst_vars
    simp only [List.length_cons]
    omega

end

end

/-! ## Whole texts -/

/-- An error at one of the tokens of a text or at its end shows in the text. -/
theorem showsIn_of_mem_places {text : String} {stream : TokenStream} {e : ParseError}
    {pos : Position} (h : tokenize text = .ok stream) (hplace : e.position? = some pos)
    (hpos : pos ∈ places stream.stop stream.tokens) : e.ShowsIn text.toList := by
  obtain ⟨⟨gap, spaced, htokens, hspelled⟩, hstop⟩ :=
    Lexer.isSpelledBy_of_tokensFrom Position.isBehind_start h
  rw [places, List.mem_append, List.mem_singleton, ← htokens] at hpos
  rcases hpos with hpos | rfl
  · obtain ⟨t, ht, rfl⟩ := List.mem_map.mp hpos
    obtain ⟨entry, hentry, rfl⟩ := List.mem_map.mp ht
    obtain ⟨front, back, rfl⟩ := List.append_of_mem hentry
    refine ⟨_, _, hplace, ?_, hspelled.places front entry back rfl⟩
    rw [hspelled.text]
    simp [spelled]
  · exact ⟨_, text.toList, hplace, List.prefix_rfl, hstop⟩

/-- How reading a text fails: as empty if there is nothing but white space, and otherwise with an
error that shows in the text. -/
structure FailsInPlace {α : Type} (text : String) (answer : Except ParseError α) : Prop where
  empty : answer = .error .emptyInput ↔ ∀ c ∈ text.toList, Text.isBlank c = true
  located : ∀ e, answer = .error e → e ≠ .emptyInput → e.ShowsIn text.toList

/-- On a text that is not all white space every failure has to show in the text. -/
theorem FailsInPlace.of_showsIn {α : Type} {text : String} {answer : Except ParseError α}
    (htext : ¬ ∀ c ∈ text.toList, Text.isBlank c = true)
    (h : ∀ e, answer = .error e → e.ShowsIn text.toList) : FailsInPlace text answer where
  empty := by
    constructor
    · intro hempty
      exact absurd rfl (h _ hempty).ne_emptyInput
    · intro hblank
      exact absurd hblank htext
  located := fun e he _ => h e he

/-- A step that stays within the tokens fails in place on whole texts. -/
theorem whole_failsInPlace {α : Type} {kind : FragmentKind}
    {step : Position → (ahead : List Token) → Except ParseError (α × Fewer ahead)}
    (hstep : ∀ stop ahead, ReadsWithin stop ahead (step stop ahead)) (text : String) :
    FailsInPlace text (whole kind step text) := by
  have hblank := Lexer.tokensFrom_eq_nil_iff .start text.toList
  rw [whole]
  cases hread : tokenize text with
  | error e =>
    refine .of_showsIn ?_ ?_
    · rw [← hblank]
      rintro ⟨stop, hnone⟩
      exact absurd (hread.symm.trans hnone) (by simp)
    · intro e' he
      injection he with he
      rw [← he]
      exact Lexer.tokensFrom_showsIn Position.isBehind_start hread
  | ok stream =>
    obtain ⟨tokens, stop⟩ := stream
    cases tokens with
    | nil =>
      refine ⟨iff_of_true rfl (hblank.mp ⟨stop, hread⟩), ?_⟩
      intro e he hne
      exact absurd (Except.error.inj he).symm hne
    | cons t rest =>
      refine .of_showsIn ?_ ?_
      · rw [← hblank]
        rintro ⟨stop', hnone⟩
        exact absurd (hread.symm.trans hnone) (by simp)
      · dsimp only
        refine ReadsWithin.elim (hstep stop (t :: rest)) List.suffix_rfl ?_ ?_
        · intro e pos hplace hpos e' he
          injection he with he
          rw [← he]
          exact showsIn_of_mem_places hread hplace hpos
        · -- a fragment was read, and the error is at the first token behind it
          intro value left _ hleft e' he
          cases left with
          | nil => exact absurd he (by simp)
          | cons extra more =>
            injection he with he
            rw [← he]
            exact showsIn_of_mem_places hread rfl (places_subset hleft head_mem_places)

end Parser

/-- Reading a name, a type or an expression never leaves the tokens ahead. So whatever the text is,
it fails as empty exactly if it is all white space, and any other error says a place in the text,
given by the bytes, the lines and the column of the text before it. -/
theorem failures_are_located :
    (∀ stop ahead, Parser.ReadsWithin stop ahead (Parser.name stop ahead) ∧
      Parser.ReadsWithin stop ahead (Parser.typeRef stop ahead) ∧
      Parser.ReadsWithin stop ahead (Parser.expression stop ahead)) ∧
    ∀ text, Parser.FailsInPlace text (Name.parse text) ∧
      Parser.FailsInPlace text (TypeRef.parse text) ∧
      Parser.FailsInPlace text (Expr.parse text) := by
  refine ⟨fun stop ahead => ⟨?_, ?_, ?_⟩, fun text => ⟨?_, ?_, ?_⟩⟩
  · exact Parser.name_within stop ahead
  · exact Parser.typeRef_within stop ahead
  · exact Parser.expression_within stop ahead
  · exact Parser.whole_failsInPlace Parser.name_within text
  · exact Parser.whole_failsInPlace Parser.typeRef_within text
  · exact Parser.whole_failsInPlace Parser.expression_within text

/-- A failure inside an escape sequence, on a second line behind a wide character. -/
theorem failures_are_located_sample :
    Expr.parse "-é\n '\\q" = .error (.invalidEscape 'q' ⟨7, 2, 4⟩) ∧
      (ParseError.invalidEscape 'q' ⟨7, 2, 4⟩).ShowsIn "-é\n '\\q".toList ∧
      Name.parse " \t\n" = .error .emptyInput := by
  have hread : Expr.parse "-é\n '\\q" = .error (.invalidEscape 'q' ⟨7, 2, 4⟩) := by decide +kernel
  have hblank : " \t\n".toList.all Text.isBlank = true := by decide
  exact ⟨hread, (failures_are_located.2 _).2.2.located _ hread (by simp),
    (failures_are_located.2 " \t\n").1.empty.mpr (List.all_eq_true.mp hblank)⟩

end DeclScribe
