import DeclScribe.Proofs.Token.Blanking
import DeclScribe.Proofs.Token.Spacing

/-!
# What stands in front of a text

A text that can be read at one place can be read at every place, as the same tokens but for where
they stand. So what is read behind a gap, or behind a token that it does not make longer, is what is
read without it: the whole can be read if and only if the rest can. A text that starts with a quote
and ends with one has a string literal at both ends.
-/

set_option autoImplicit false

namespace DeclScribe

/-! ## Reading at another place -/

/-- What a text is read as does not hang on where it starts. -/
theorem Lexer.reads_of_tokensFrom {pos : Position} {text : List Char} {stream : TokenStream}
    (h : tokensFrom pos text = .ok stream) : Reads text (stream.tokens.map Token.piece) := by
  fun_induction tokensFrom pos text generalizing stream with
  | case1 pos =>
    injection h with h
    subst h
    exact .nil
  | case2 pos c rest hblank ih => exact (ih h).blank hblank
  | case3 pos c rest _ fault => exact absurd h (by simp)
  | case4 pos c rest _ kind more _ e => exact absurd h (by simp)
  | case5 pos c rest hblank kind more htoken behind hbehind ih =>
    injection h with h
    subst h
    intro start
    obtain ⟨other, hother, hpieces⟩ := ih hbehind (start.after (c :: more))
    refine ⟨⟨⟨kind, String.ofList (c :: more), start⟩ :: other.tokens, other.stop⟩, ?_, ?_⟩
    · rw [tokensFrom, if_neg hblank, htoken]
      simp only [hother]
    · simp only [List.map_cons, hpieces, Token.piece]

/-- A text is read as the pieces that its tokens are. -/
theorem reads_iff_tokenize {text : String} {pieces : List Piece} :
    Reads text.toList pieces ↔
      ∃ stream, tokenize text = .ok stream ∧ stream.tokens.map Token.piece = pieces := by
  constructor
  · exact Reads.tokenize
  · rintro ⟨stream, hstream, rfl⟩
    exact Lexer.reads_of_tokensFrom hstream

section

variable {text : List Char} {pieces : List Piece}

/-- A blank in front of a text makes no difference to its pieces. -/
theorem reads_blank_iff {c : Char} (hc : Text.isBlank c = true) :
    Reads (c :: text) pieces ↔ Reads text pieces := by
  constructor
  · intro h
    obtain ⟨stream, hstream, rfl⟩ := h .start
    rw [Lexer.tokensFrom, if_pos hc] at hstream
    exact Lexer.reads_of_tokensFrom hstream
  · exact Reads.blank hc

/-- White space in front of a text makes no difference to its pieces. -/
theorem reads_gap_iff {gap : List Char} (hgap : IsGap gap) :
    Reads (gap ++ text) pieces ↔ Reads text pieces := by
  induction gap with
  | nil => rfl
  | cons c rest ih =>
    obtain ⟨hblank, hrest⟩ := List.forall_mem_cons.mp hgap
    rw [List.cons_append, reads_blank_iff hblank, ih hrest]

/-- Behind a token that it does not make longer, a text is read as it is by itself. -/
theorem reads_cons_iff {kind : TokenKind} {lexeme : List Char} (hlexeme : IsLexeme kind lexeme)
    (htail : EndsToken text kind) :
    Reads (lexeme ++ text) pieces ↔
      ∃ more, pieces = ⟨kind, String.ofList lexeme⟩ :: more ∧ Reads text more := by
  constructor
  · intro h
    obtain ⟨stream, hstream, rfl⟩ := h .start
    obtain ⟨c, rest, rfl, hblank⟩ := hlexeme.exists_cons
    have htoken := Lexer.token_append hlexeme htail
    rw [List.cons_append, Lexer.tokensFrom] at hstream
    simp only [hblank, Bool.false_eq_true, if_false, htoken, List.drop_left] at hstream
    split at hstream
    · exact absurd hstream (by simp)
    · rename_i behind hbehind
      injection hstream with hstream
      subst hstream
      exact ⟨behind.tokens.map Token.piece, rfl, Lexer.reads_of_tokensFrom hbehind⟩
  · rintro ⟨more, rfl, hmore⟩
    exact hmore.cons hlexeme htail

end

/-! ## Quotes at both ends -/

/-- Only string and character literals have a quote in them. -/
theorem IsLexeme.kind_of_mem_quote {kind : TokenKind} {text : List Char} (h : IsLexeme kind text)
    (hquote : '"' ∈ text) :
    kind = .string ∨ ∃ tail, Lexer.IsCharTail tail ∧ text = '\'' :: tail := by
  have hword : ∀ word : List Char, (∀ c ∈ word, isIdentifierPart c = true) → '"' ∉ word := by
    intro word hparts hmem
    exact absurd (hparts _ hmem) (by decide)
  cases h with
  | single kind c hkind =>
    rw [List.mem_singleton] at hquote
    exact absurd hquote.symm (TokenKind.classes_of_ofChar? hkind).2.2
  | doubleColon => exact absurd hquote (by decide)
  | string tail _ => exact .inl rfl
  | verbatim tail _ => exact .inl rfl
  | char tail htail => exact .inr ⟨tail, htail, rfl⟩
  | identifier c rest hstart hrest =>
    refine absurd hquote (hword _ ?_)
    exact List.forall_mem_cons.mpr ⟨isIdentifierPart_of_start hstart, hrest⟩
  | marked c rest hstart hrest =>
    have hbehind : '"' ∈ c :: rest := by simpa using hquote
    refine absurd hbehind (hword _ ?_)
    exact List.forall_mem_cons.mpr ⟨isIdentifierPart_of_start hstart, hrest⟩
  | number text hnumeral =>
    have hcode := hnumeral.areNumberChars.isCode '"' hquote
    exact absurd hcode (by decide)

/-- Only strings start with a quote. -/
theorem IsLexeme.kind_of_head? {kind : TokenKind} {text : List Char} (h : IsLexeme kind text)
    (hhead : text.head? = some '"') : kind = .string := by
  rcases h.kind_of_mem_quote (List.mem_of_head? hhead) with hstring | ⟨tail, -, rfl⟩
  · exact hstring
  · exact absurd hhead (by simp)

/-- A character literal ends with its apostrophe. -/
theorem Lexer.IsCharTail.getLast? {tail : List Char} (h : IsCharTail tail) :
    tail.getLast? = some '\'' := by
  cases h with
  | plain c _ _ _ => rfl
  | escaped sequence _ => rw [← List.cons_append, List.getLast?_concat]

/-- Only strings end with a quote. -/
theorem IsLexeme.kind_of_getLast? {kind : TokenKind} {text : List Char} (h : IsLexeme kind text)
    (hlast : text.getLast? = some '"') : kind = .string := by
  rcases h.kind_of_mem_quote (List.mem_of_getLast? hlast) with hstring | ⟨tail, htail, rfl⟩
  · exact hstring
  · rw [List.getLast?_cons, htail.getLast?] at hlast
    exact absurd hlast (by simp)

namespace IsSpelledBy

variable {before text gap : List Char} {spaced : List (Token × List Char)} {c : Char}

/-- A text that starts with no blank starts with its first token. -/
theorem exists_first (h : IsSpelledBy before text gap spaced)
    (hlexemes : ∀ entry ∈ spaced, IsLexeme entry.1.kind entry.1.lexeme.toList)
    (hblank : Text.isBlank c = false) (hhead : text.head? = some c) :
    gap = [] ∧ ∃ entry rest, spaced = entry :: rest ∧ entry.1.lexeme.toList.head? = some c := by
  cases gap with
  | cons d rest =>
    rw [h.text, List.cons_append, List.head?_cons] at hhead
    obtain rfl := Option.some.inj hhead
    exact absurd (h.blank d List.mem_cons_self) (by simp [hblank])
  | nil =>
    cases spaced with
    | nil => exact absurd hhead (by simp [h.text, spelled])
    | cons entry rest =>
      obtain ⟨d, more, hlexeme, -⟩ := (hlexemes entry List.mem_cons_self).exists_cons
      have hd : some d = some c := by
        rw [← hhead, h.text]
        simp [spelled, hlexeme]
      exact ⟨rfl, entry, rest, rfl, by rw [hlexeme, ← hd, List.head?_cons]⟩

/-- A text of tokens that ends with no blank ends with its last token. -/
theorem exists_last (h : IsSpelledBy before text gap spaced) (hspaced : spaced ≠ [])
    (hlexemes : ∀ entry ∈ spaced, IsLexeme entry.1.kind entry.1.lexeme.toList)
    (hblank : Text.isBlank c = false) (hlast : text.getLast? = some c) :
    ∃ front entry, spaced = front ++ [entry] ∧ entry.2 = [] ∧
      entry.1.lexeme.toList.getLast? = some c := by
  obtain ⟨front, entry, rfl⟩ : ∃ front entry, spaced = front ++ [entry] :=
    ⟨_, _, (List.dropLast_concat_getLast hspaced).symm⟩
  have hentry : entry ∈ front ++ [entry] := List.mem_append_right _ List.mem_cons_self
  have htext : text = gap ++ spelled front ++ entry.1.lexeme.toList ++ entry.2 := by
    rw [h.text]
    simp [spelled]
  rw [htext, List.getLast?_append] at hlast
  have hgap : entry.2 = [] := by
    cases hend : entry.2.getLast? with
    | none => exact List.getLast?_eq_none_iff.mp hend
    | some d =>
      rw [hend] at hlast
      obtain rfl : d = c := Option.some.inj hlast
      exact absurd (h.blanks entry hentry d (List.mem_of_getLast? hend)) (by simp [hblank])
  refine ⟨front, entry, rfl, hgap, ?_⟩
  obtain ⟨d, more, hlexeme, -⟩ := (hlexemes entry hentry).exists_cons
  rw [hgap, List.getLast?_nil, Option.none_or, List.getLast?_append, hlexeme] at hlast
  rw [hlexeme, ← hlast, List.getLast?_cons]
  rfl

end IsSpelledBy

end DeclScribe
