import DeclScribe.Proofs.Token.Lexemes
import Mathlib.Data.List.DropRight

/-!
# Where tokens stand

A text that is read as tokens is the lexemes of the tokens in their order, with nothing but white
space around them, and every token stands where it says: its place is the one behind the text before
it. The reader moves a place over each character it passes; what a place has to be is said here by
counting the text before it, without moving anything. One lemma for each step of the reader, a blank
and a token, carries both facts through a whole text.
-/

set_option autoImplicit false

namespace DeclScribe

/-! ## Places -/

/-- A place is the one behind a text: the bytes of the text, its line feeds and the characters
behind the last of them are counted, lines and columns from 1. -/
structure Position.IsBehind (p : Position) (text : List Char) : Prop where
  offset : p.offset = (String.ofList text).utf8ByteSize
  line : p.line = 1 + text.count '\n'
  column : p.column = 1 + (text.rtakeWhile (· != '\n')).length

namespace Position

/-- The first place is the one behind no text. -/
theorem isBehind_start : start.IsBehind [] := ⟨rfl, rfl, rfl⟩

/-- A place moves over one character: over its bytes, and to the next line or column. -/
theorem IsBehind.next {p : Position} {text : List Char} (h : p.IsBehind text) (c : Char) :
    (p.next c).IsBehind (text ++ [c]) := by
  have hbytes : (String.ofList (text ++ [c])).utf8ByteSize =
      (String.ofList text).utf8ByteSize + c.utf8Size := by
    rw [String.ofList_append, String.utf8ByteSize_append, ← String.singleton_eq_ofList,
      String.utf8ByteSize_singleton]
  unfold Position.next
  by_cases hfeed : c = '\n'
  · subst hfeed
    refine ⟨?_, ?_, ?_⟩
    · rw [hbytes, ← h.offset]
      rfl
    · simp [h.line, Nat.add_assoc]
    · simp
  · rw [if_neg hfeed]
    refine ⟨?_, ?_, ?_⟩
    · rw [hbytes, ← h.offset]
    · simp [h.line, hfeed]
    · rw [List.rtakeWhile_concat_pos _ _ _ (by simpa using hfeed), List.length_append, h.column]
      rfl

/-- A place moves over a text character by character. -/
theorem IsBehind.after {p : Position} {before : List Char} (h : p.IsBehind before)
    (text : List Char) : (p.after text).IsBehind (before ++ text) := by
  induction text generalizing p before with
  | nil =>
    rw [List.append_nil]
    exact h
  | cons c rest ih =>
    have hrest := ih (h.next c)
    rw [List.append_assoc] at hrest
    exact hrest

end Position

/-! ## Tokens and the gaps behind them -/

/-- Tokens with a gap behind each of them, written one after the other. -/
def spelled (spaced : List (Token × List Char)) : List Char :=
  spaced.flatMap fun entry => entry.1.lexeme.toList ++ entry.2

/-- Behind `before` a text goes on with a gap and then with tokens, each with a gap behind it. All
gaps are white space, and each token says the place where its lexeme stands. -/
structure IsSpelledBy (before text gap : List Char) (spaced : List (Token × List Char)) : Prop where
  text : text = gap ++ spelled spaced
  blank : ∀ c ∈ gap, Text.isBlank c = true
  blanks : ∀ entry ∈ spaced, ∀ c ∈ entry.2, Text.isBlank c = true
  places : ∀ front entry back, spaced = front ++ entry :: back →
    entry.1.pos.IsBehind (before ++ gap ++ spelled front)

namespace IsSpelledBy

variable {before text gap : List Char} {spaced : List (Token × List Char)}

/-- Without tokens and gaps there is no text. -/
theorem nil (before : List Char) : IsSpelledBy before [] [] [] where
  text := rfl
  blank := List.forall_mem_nil _
  blanks := List.forall_mem_nil _
  places := by
    intro front entry back h
    exact absurd h (by simp)

/-- A blank in front of a text makes its first gap longer. -/
theorem space {c : Char} (hc : Text.isBlank c = true)
    (h : IsSpelledBy (before ++ [c]) text gap spaced) :
    IsSpelledBy before (c :: text) (c :: gap) spaced where
  text := by rw [h.text, List.cons_append]
  blank := List.forall_mem_cons.mpr ⟨hc, h.blank⟩
  blanks := h.blanks
  places := by
    intro front entry back hspaced
    have hplace := h.places front entry back hspaced
    rw [List.append_assoc before, List.singleton_append] at hplace
    exact hplace

/-- A token in front of a text stands behind what comes before both. -/
theorem token {kind : TokenKind} {lexeme : List Char} {pos : Position}
    (hpos : pos.IsBehind before) (h : IsSpelledBy (before ++ lexeme) text gap spaced) :
    IsSpelledBy before (lexeme ++ text) []
      ((⟨kind, String.ofList lexeme, pos⟩, gap) :: spaced) where
  text := by
    rw [h.text]
    simp [spelled]
  blank := List.forall_mem_nil _
  blanks := List.forall_mem_cons.mpr ⟨h.blank, h.blanks⟩
  places := by
    intro front entry back hspaced
    cases front with
    | nil =>
      obtain ⟨rfl, -⟩ := List.cons.inj hspaced
      simpa [spelled] using hpos
    | cons first more =>
      obtain ⟨rfl, hmore⟩ := List.cons.inj hspaced
      have hplace := h.places more entry back hmore
      simpa [spelled] using hplace

end IsSpelledBy

/-! ## Whole texts -/

namespace Lexer

/-- What is read as tokens is spelled by them, wherever it starts. The induction follows the reader
and carries the text in front of it. -/
theorem isSpelledBy_of_tokensFrom {pos : Position} {before text : List Char} {stream : TokenStream}
    (hpos : pos.IsBehind before) (h : tokensFrom pos text = .ok stream) :
    (∃ gap spaced, spaced.map Prod.fst = stream.tokens ∧ IsSpelledBy before text gap spaced) ∧
      stream.stop.IsBehind (before ++ text) := by
  fun_induction tokensFrom pos text generalizing before stream with
  | case1 pos =>
    injection h with h
    subst h
    exact ⟨⟨[], [], rfl, .nil before⟩, by simpa using hpos⟩
  | case2 pos c rest hblank ih =>
    obtain ⟨⟨gap, spaced, htokens, hspelled⟩, hstop⟩ := ih (hpos.next c) h
    refine ⟨⟨c :: gap, spaced, htokens, hspelled.space hblank⟩, ?_⟩
    simpa using hstop
  | case3 pos c rest _ fault => exact absurd h (by simp)
  | case4 pos c rest _ kind more _ e => exact absurd h (by simp)
  | case5 pos c rest _ kind more htoken behind hbehind ih =>
    injection h with h
    subst h
    have hrest : more ++ rest.drop more.length = rest :=
      List.prefix_iff_eq_append.mp (token_sound htoken).2
    obtain ⟨⟨gap, spaced, htokens, hspelled⟩, hstop⟩ := ih (hpos.after (c :: more)) hbehind
    -- the lexeme and what is behind it are the text that was there
    have hwhole : c :: more ++ rest.drop more.length = c :: rest := by
      rw [List.cons_append, hrest]
    refine ⟨⟨[], (⟨kind, String.ofList (c :: more), pos⟩, gap) :: spaced, ?_, ?_⟩, ?_⟩
    · rw [List.map_cons, htokens]
    · rw [← hwhole]
      exact hspelled.token hpos
    · rw [List.append_assoc, hwhole] at hstop
      exact hstop

end Lexer

/-- Nothing is lost when a text is read as tokens, and every token says where it stands: the text is
the lexemes in their order with white space around them, each token has the place behind the text
before its lexeme, and the end, which is no token, has the place behind all of the text. -/
theorem tokenize_isSpelledBy {text : String} {stream : TokenStream}
    (h : tokenize text = .ok stream) :
    (∃ gap spaced, spaced.map Prod.fst = stream.tokens ∧ IsSpelledBy [] text.toList gap spaced) ∧
      (∀ t ∈ stream.tokens, t.lexeme ≠ "") ∧ stream.stop.IsBehind text.toList := by
  obtain ⟨hspelled, hstop⟩ := Lexer.isSpelledBy_of_tokensFrom Position.isBehind_start h
  refine ⟨hspelled, ?_, hstop⟩
  intro t ht hempty
  obtain ⟨c, rest, hlexeme, -⟩ := (Lexer.isLexeme_of_tokensFrom h t ht).exists_cons
  rw [hempty] at hlexeme
  exact absurd hlexeme (by simp)

/-- A text with a wide character, a token of two characters and a line feed inside a token. -/
def streamSample : TokenStream where
  tokens := [⟨.identifier, "é", ⟨1, 1, 2⟩⟩, ⟨.doubleColon, "::", ⟨3, 1, 3⟩⟩,
    ⟨.string, "@\"\n\"", ⟨6, 1, 6⟩⟩, ⟨.plus, "+", ⟨11, 2, 3⟩⟩]
  stop := ⟨13, 3, 1⟩

/-- The statement at such a text, with all places written out. -/
theorem tokenize_isSpelledBy_sample :
    tokenize " é:: @\"\n\" +\n" = .ok streamSample ∧
      (∃ gap spaced, spaced.map Prod.fst = streamSample.tokens ∧
        IsSpelledBy [] " é:: @\"\n\" +\n".toList gap spaced) ∧
      (∀ t ∈ streamSample.tokens, t.lexeme ≠ "") ∧
      streamSample.stop.IsBehind " é:: @\"\n\" +\n".toList := by
  have hread : tokenize " é:: @\"\n\" +\n" = .ok streamSample := by decide +kernel
  exact ⟨hread, tokenize_isSpelledBy hread⟩

end DeclScribe
