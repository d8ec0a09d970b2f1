import DeclScribe.Proofs.Token.Positions

/-!
# White space between tokens

The lexemes of a text can be written again with other white space around them. Behind a blank every
token ends where it did, since no blank is part of an identifier or a number, is a point or a quote;
so the text that is written is read as the same tokens, at other places. Two lexemes have to be kept
apart by a blank at least, the gaps at both ends of the text may be empty.
-/

set_option autoImplicit false

namespace DeclScribe

/-! ## Gaps -/

/-- Nothing but white space. -/
def IsGap (gap : List Char) : Prop :=
  ∀ c ∈ gap, Text.isBlank c = true

/-- It is decided by looking at each character. -/
instance (gap : List Char) : Decidable (IsGap gap) :=
  List.decidableBAll (fun c => Text.isBlank c = true) gap

/-- A gap to start with and gaps behind tokens, none of which is empty between two tokens. -/
structure IsSpacing (gap : List Char) (spaced : List (Token × List Char)) : Prop where
  first : IsGap gap
  behind : ∀ entry ∈ spaced, IsGap entry.2
  apart : ∀ entry ∈ spaced.dropLast, entry.2 ≠ []

/-- A blank is none of the characters that are not blank. -/
theorem ne_of_isBlank {c d : Char} (hc : Text.isBlank c = true) (hd : Text.isBlank d = false) :
    c ≠ d := by
  rintro rfl
  rw [hc] at hd
  exact absurd hd (by simp)

/-- A gap makes the token before it no longer, whatever follows; an empty one if nothing does. -/
theorem IsGap.isBreak_append {gap text : List Char} (h : IsGap gap)
    (hempty : gap = [] → text = []) : IsBreak (gap ++ text) := by
  cases gap with
  | nil =>
    rw [hempty rfl]
    exact .nil
  | cons c rest =>
    have hblank : Text.isBlank c = true := h c List.mem_cons_self
    exact .cons _ (isIdentifierPart_eq_false_of_isBlank hblank) (ne_of_isBlank hblank (by decide))
      (ne_of_isBlank hblank (by decide))

/-- A gap in front of a text does not change what it is read as. -/
theorem Reads.gap {gap text : List Char} {pieces : List Piece} (hgap : IsGap gap)
    (h : Reads text pieces) : Reads (gap ++ text) pieces := by
  induction gap with
  | nil => exact h
  | cons c rest ih =>
    obtain ⟨hblank, hrest⟩ := List.forall_mem_cons.mp hgap
    exact (ih hrest).blank hblank

/-! ## Lexemes with gaps between them -/

/-- What is behind the first of some tokens is spaced as well. -/
theorem IsSpacing.tail {gap : List Char} {entry : Token × List Char}
    {rest : List (Token × List Char)} (h : IsSpacing gap (entry :: rest)) :
    IsSpacing entry.2 rest := by
  obtain ⟨hentry, hrest⟩ := List.forall_mem_cons.mp h.behind
  refine ⟨hentry, hrest, ?_⟩
  intro other hother
  cases rest with
  | nil => exact absurd hother (by simp)
  | cons next more => exact h.apart other (List.mem_cons_of_mem entry hother)

/-- The gap behind a token is empty only if the token is the last one. -/
theorem IsSpacing.spelled_eq_nil {gap : List Char} {entry : Token × List Char}
    {rest : List (Token × List Char)} (h : IsSpacing gap (entry :: rest)) (hempty : entry.2 = []) :
    spelled rest = [] := by
  cases rest with
  | nil => rfl
  | cons next more =>
    have hmem : entry ∈ (entry :: next :: more).dropLast := List.mem_cons_self
    exact absurd hempty (h.apart entry hmem)

/-- Lexemes are read as what they are, whatever white space there is around them. -/
theorem reads_spelled {gap : List Char} {spaced : List (Token × List Char)}
    (hlexemes : ∀ entry ∈ spaced, IsLexeme entry.1.kind entry.1.lexeme.toList)
    (h : IsSpacing gap spaced) :
    Reads (gap ++ spelled spaced) (spaced.map fun entry => entry.1.piece) := by
  induction spaced generalizing gap with
  | nil => exact Reads.nil.gap h.first
  | cons entry rest ih =>
    obtain ⟨hentry, hrest⟩ := List.forall_mem_cons.mp hlexemes
    have hbreak : IsBreak (entry.2 ++ spelled rest) := h.tail.first.isBreak_append h.spelled_eq_nil
    have hread := (ih hrest h.tail).cons hentry (hbreak.endsToken entry.1.kind)
    rw [String.ofList_toList] at hread
    have htext : spelled (entry :: rest) =
        entry.1.lexeme.toList ++ (entry.2 ++ spelled rest) := by
      rw [spelled, List.flatMap_cons, List.append_assoc, ← spelled]
    rw [htext]
    exact hread.gap h.first

/-- The lexemes of a text, written with other white space around them, are read as the same tokens
but for their places. -/
theorem exists_tokenize_spelled {text : String} {stream : TokenStream}
    (hread : tokenize text = .ok stream) {gap : List Char} {spaced : List (Token × List Char)}
    (htokens : spaced.map Prod.fst = stream.tokens) (hspacing : IsSpacing gap spaced) :
    ∃ other, tokenize (String.ofList (gap ++ spelled spaced)) = .ok other ∧
      other.tokens.map Token.piece = stream.tokens.map Token.piece := by
  have hlexemes : ∀ entry ∈ spaced, IsLexeme entry.1.kind entry.1.lexeme.toList := by
    intro entry hentry
    have hmem : entry.1 ∈ stream.tokens := htokens ▸ List.mem_map_of_mem hentry
    exact Lexer.isLexeme_of_tokensFrom hread entry.1 hmem
  obtain ⟨other, hother, hpieces⟩ := reads_spelled hlexemes hspacing .start
  refine ⟨other, ?_, ?_⟩
  · rw [tokenize, String.toList_ofList]
    exact hother
  · rw [hpieces, ← htokens, List.map_map]
    rfl

end DeclScribe
