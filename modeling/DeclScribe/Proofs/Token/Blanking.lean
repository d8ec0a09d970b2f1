import DeclScribe.Proofs.Text.Nesting
import DeclScribe.Proofs.Token.Lexemes

/-!
# Tokens outside of literals

The string and character tokens of a text are its literals: blanking a text blanks these tokens and
leaves all others as they are. What a literal is taken to be is thus the same for the reader of
tokens and for whoever looks for the end of a declaration.
-/

set_option autoImplicit false

namespace DeclScribe

open Lexer (startsWith IsStringTail IsVerbatimTail IsCharTail)
open Text (Region blankedIn blanked literalMarks IsClosed IsCode IsComplete)

/-! ## Literals -/

/-- An escape sequence is one character, with hexadecimal digits behind it. -/
theorem Lexer.exists_of_escape {text sequence : List Char} (h : escape text = .ok sequence) :
    ∃ c digits, sequence = c :: digits ∧ ∀ d ∈ digits, Radix.hexadecimal.isDigit d = true := by
  cases text with
  | nil => exact absurd h (by simp [escape])
  | cons c rest =>
    simp only [escape] at h
    split at h
    · injection h with h
      exact ⟨c, [], h.symm, by simp⟩
    · split at h
      · exact absurd h (by simp)
      · split at h
        · exact absurd h (by simp)
        · injection h with h
          exact ⟨c, _, h.symm, fun _ hd => List.mem_takeWhile_imp hd⟩

namespace Text

/-- In a literal, a character other than a backslash and the delimiter is one blank. -/
theorem blankedIn_regular_cons {delimiter c : Char} (hslash : c ≠ '\\') (hc : c ≠ delimiter)
    (rest : List Char) :
    blankedIn (.regular delimiter) (c :: rest) = ' ' :: blankedIn (.regular delimiter) rest := by
  rw [blankedIn]
  · rw [if_neg hc]
  · intro letter more h
    exact absurd h hslash

/-- The delimiter ends the literal. -/
theorem blankedIn_regular_close {delimiter : Char} (hslash : delimiter ≠ '\\') (rest : List Char) :
    blankedIn (.regular delimiter) (delimiter :: rest) = ' ' :: blanked rest := by
  rw [blankedIn]
  · rw [if_pos rfl, blanked]
  · intro letter more h
    exact absurd h hslash

/-- Such characters are as many blanks. -/
theorem blankedIn_regular_append {delimiter : Char} {text : List Char}
    (h : ∀ c ∈ text, c ≠ '\\' ∧ c ≠ delimiter) (rest : List Char) :
    blankedIn (.regular delimiter) (text ++ rest) =
      List.replicate text.length ' ' ++ blankedIn (.regular delimiter) rest := by
  induction text with
  | nil => rfl
  | cons c more ih =>
    obtain ⟨⟨hslash, hc⟩, hmore⟩ := List.forall_mem_cons.mp h
    rw [List.cons_append, blankedIn_regular_cons hslash hc, ih hmore, List.length_cons,
      List.replicate_succ, List.cons_append]

/-- An escape sequence never ends a literal, even if it is the escaped delimiter. -/
theorem blankedIn_regular_escape {delimiter : Char} {text sequence : List Char}
    (h : Lexer.escape text = .ok sequence) (hdelimiter : delimiter = '"' ∨ delimiter = '\'')
    (rest : List Char) :
    blankedIn (.regular delimiter) ('\\' :: (sequence ++ rest)) =
      List.replicate (sequence.length + 1) ' ' ++ blankedIn (.regular delimiter) rest := by
  obtain ⟨c, digits, rfl, hdigits⟩ := Lexer.exists_of_escape h
  have hplain : ∀ d ∈ digits, d ≠ '\\' ∧ d ≠ delimiter := by
    intro d hd
    refine ⟨?_, ?_⟩
    · rintro rfl
      exact absurd (hdigits _ hd) (by decide)
    · rintro rfl
      obtain rfl | rfl := hdelimiter
      · exact absurd (hdigits _ hd) (by decide)
      · exact absurd (hdigits _ hd) (by decide)
  rw [List.cons_append, blankedIn, blankedIn_regular_append hplain, List.length_cons,
    List.replicate_succ, List.replicate_succ, List.cons_append, List.cons_append]

end Text

/-- The rest of a string is blanks, and code comes behind it. -/
theorem Lexer.IsStringTail.blankedIn {tail : List Char} (h : IsStringTail tail)
    (rest : List Char) :
    blankedIn (.regular '"') (tail ++ rest) = List.replicate tail.length ' ' ++ blanked rest := by
  induction h with
  | close => exact Text.blankedIn_regular_close (by decide) rest
  | plain c more _ hquote hslash _ ih =>
    rw [List.cons_append, Text.blankedIn_regular_cons hslash hquote, ih, List.length_cons,
      List.replicate_succ, List.cons_append]
  | escaped sequence more hsequence _ ih =>
    rw [List.cons_append, List.append_assoc,
      Text.blankedIn_regular_escape hsequence (.inl rfl), ih, List.length_cons, List.length_append,
      ← List.append_assoc, List.replicate_append_replicate, Nat.add_right_comm]

/-- The rest of a character literal is blanks, and code comes behind it. -/
theorem Lexer.IsCharTail.blankedIn {tail : List Char} (h : IsCharTail tail) (rest : List Char) :
    blankedIn (.regular '\'') (tail ++ rest) = List.replicate tail.length ' ' ++ blanked rest := by
  cases h with
  | plain c _ happostrophe hslash =>
    rw [List.cons_append, Text.blankedIn_regular_cons hslash happostrophe, List.singleton_append,
      Text.blankedIn_regular_close (by decide)]
    rfl
  | escaped sequence hsequence =>
    rw [List.cons_append, List.append_assoc, Text.blankedIn_regular_escape hsequence (.inr rfl),
      List.singleton_append, Text.blankedIn_regular_close (by decide), List.append_cons,
      ← List.replicate_succ']
    simp

/-- The rest of a verbatim string is blanks, and code comes behind it unless it is another quote. -/
theorem Lexer.IsVerbatimTail.blankedIn {tail rest : List Char} (h : IsVerbatimTail tail)
    (hrest : startsWith (· == '"') rest = false) :
    blankedIn .verbatim (tail ++ rest) = List.replicate tail.length ' ' ++ blanked rest := by
  induction h with
  | close =>
    rw [List.singleton_append, Text.blankedIn]
    · rfl
    · rintro more - rfl
      exact absurd hrest (by simp)
  | doubled more _ ih =>
    rw [List.cons_append, List.cons_append, Text.blankedIn, ih]
    rfl
  | plain c more hquote _ ih =>
    rw [List.cons_append, Text.blankedIn, if_neg hquote, ih]
    · rfl
    · intro behind hc
      exact absurd hc hquote

/-! ## Numbers -/

/-- Letters, digits, underscores, points and signs. -/
def AreNumberChars (text : List Char) : Prop :=
  ∀ c ∈ text, isIdentifierPart c = true ∨ c = '.' ∨ c = '+' ∨ c = '-'

namespace AreNumberChars

variable {text more : List Char}

/-- Letters, digits and underscores are characters of a number. -/
theorem of_parts (h : ∀ c ∈ text, isIdentifierPart c = true) : AreNumberChars text :=
  fun c hc => .inl (h c hc)

/-- Characters of a number are such side by side. -/
theorem append (h : AreNumberChars text) (hmore : AreNumberChars more) :
    AreNumberChars (text ++ more) :=
  List.forall_mem_append.mpr ⟨h, hmore⟩

/-- The digits of a number are characters of it, underscores included. -/
theorem of_run {radix : Radix} (h : Numeral.IsRun radix text) : AreNumberChars text := by
  refine of_parts fun c hc => ?_
  have hdigit := h c hc
  rw [Bool.or_eq_true, beq_iff_eq] at hdigit
  obtain hdigit | rfl := hdigit
  · exact isIdentifierPart_of_isDigit hdigit
  · decide

/-- A fraction has characters of a number. -/
theorem of_fraction (h : Numeral.IsFraction text) : AreNumberChars text := by
  cases h with
  | absent => exact List.forall_mem_nil _
  | point digit digits hdigit hdigits =>
    exact List.forall_mem_cons.mpr ⟨.inr (.inl rfl),
      List.forall_mem_cons.mpr ⟨.inl (isIdentifierPart_of_decimal hdigit), of_run hdigits⟩⟩

/-- An exponent has characters of a number, its sign included. -/
theorem of_exponent (h : Numeral.IsExponent text) : AreNumberChars text := by
  cases h with
  | absent => exact List.forall_mem_nil _
  | marked mark signs digits hmark hsigns hdigits _ =>
    have hletter : isIdentifierPart mark = true := by
      rw [Bool.or_eq_true, beq_iff_eq, beq_iff_eq] at hmark
      obtain rfl | rfl := hmark
      · decide
      · decide
    have hsign : AreNumberChars signs := by
      simp only [List.mem_cons, List.not_mem_nil, or_false] at hsigns
      obtain rfl | rfl | rfl := hsigns
      · exact List.forall_mem_nil _
      · exact List.forall_mem_singleton.mpr (.inr (.inr (.inl rfl)))
      · exact List.forall_mem_singleton.mpr (.inr (.inr (.inr rfl)))
    exact List.forall_mem_cons.mpr ⟨.inl hletter, hsign.append (of_run hdigits)⟩

/-- A suffix has characters of a number. -/
theorem of_suffix {isDecimal isReal : Bool} (h : Numeral.IsSuffix isDecimal isReal text) :
    AreNumberChars text := by
  have hletter : ∀ {letters : List Char} {c : Char}, c.toLower ∈ letters →
      (letters.all fun letter => 'a' ≤ letter ∧ letter ≤ 'z') = true → isIdentifierPart c = true :=
    fun hc hletters => Numeral.isIdentifierPart_of_toLower rfl
      (of_decide_eq_true (List.all_eq_true.mp hletters _ hc))
  refine of_parts ?_
  cases h with
  | absent => exact List.forall_mem_nil _
  | real c _ hc => exact List.forall_mem_singleton.mpr (hletter hc (by decide))
  | integer c _ hc => exact List.forall_mem_singleton.mpr (hletter hc (by decide))
  | pair c d _ hpair =>
    have hc : c.toLower ∈ ['u', 'l'] := by
      have hall : ∀ pair ∈ [('u', 'l'), ('l', 'u')], pair.1 ∈ ['u', 'l'] := by decide
      exact hall _ hpair
    have hd : d.toLower ∈ ['u', 'l'] := by
      have hall : ∀ pair ∈ [('u', 'l'), ('l', 'u')], pair.2 ∈ ['u', 'l'] := by decide
      exact hall _ hpair
    exact List.forall_mem_cons.mpr ⟨hletter hc (by decide),
      List.forall_mem_singleton.mpr (hletter hd (by decide))⟩

/-- The two characters that announce a base are characters of a number. -/
theorem of_announced {radix : Radix} (hlength : text.length = 2)
    (h : Radix.announced? text = some radix) : AreNumberChars text := by
  unfold Radix.announced? at h
  split at h
  case h_5 => exact absurd h (by simp)
  all_goals
    rename_i rest
    obtain rfl : rest = [] := by simpa using hlength
    exact of_parts (List.all_eq_true.mp (by decide))

end AreNumberChars

/-- A number consists of such characters. -/
theorem IsNumeral.areNumberChars {text : List Char} (h : IsNumeral text) : AreNumberChars text := by
  cases h with
  | announced mark digits suffix radix hlength hmark hdigits _ hsuffix =>
    exact ((AreNumberChars.of_announced hlength hmark).append (.of_run hdigits)).append
      (.of_suffix hsuffix)
  | decimal whole fraction exponent suffix hwhole hfraction hexponent _ hsuffix =>
    exact (((AreNumberChars.of_run hwhole).append (.of_fraction hfraction)).append
      (.of_exponent hexponent)).append (.of_suffix hsuffix)

/-! ## Tokens -/

/-- What is left of a token: blanks of a literal, and else the whole token. -/
def TokenKind.blanked (kind : TokenKind) (text : List Char) : List Char :=
  if kind = .string ∨ kind = .char then List.replicate text.length ' ' else text

/-- Identifier characters are not among blanks and other characters. -/
theorem notMem_of_isIdentifierPart {marks : List Char} {c : Char}
    (hmarks : (marks.all fun d => Text.isBlank d || !isIdentifierPart d) = true)
    (h : isIdentifierPart c = true) : c ∉ marks := by
  intro hc
  have hblank := isBlank_eq_false_of_part h
  have hnone := List.all_eq_true.mp hmarks c hc
  rw [h, hblank] at hnone
  exact absurd hnone (by decide)

/-- A part of an identifier starts no literal. -/
theorem notMem_literalMarks_of_part {c : Char} (h : isIdentifierPart c = true) :
    c ∉ literalMarks :=
  notMem_of_isIdentifierPart (by decide) h

/-- The characters of a number start no literal. -/
theorem AreNumberChars.isCode {text : List Char} (h : AreNumberChars text) : IsCode text := by
  intro c hc
  obtain hpart | rfl | rfl | rfl := h c hc
  · exact notMem_literalMarks_of_part hpart
  all_goals decide

/-- A single-character token starts no literal and is none. -/
theorem TokenKind.blanked_of_ofChar? {c : Char} {kind : TokenKind} (h : ofChar? c = some kind) :
    c ∉ literalMarks ∧ kind.blanked [c] = [c] := by
  unfold ofChar? at h
  split at h
  case h_15 => exact absurd h (by simp)
  all_goals
    injection h with h
    subst h
    exact ⟨by decide, rfl⟩

/-- Code is closed and is left as it is. -/
theorem blanked_of_code {text : List Char} (h : IsCode text) :
    IsClosed text ∧ blanked text = text :=
  Text.isClosed_of_append fun tail _ => Text.blanked_append_of_code h tail

/-- A token is left as it is or blanked as a whole. Only a verbatim string goes on when a quote
follows it. -/
theorem IsLexeme.blanked_append {kind : TokenKind} {text : List Char} (h : IsLexeme kind text)
    (tail : List Char)
    (htail : (∃ body, text = '@' :: '"' :: body) → startsWith (· == '"') tail = false) :
    Text.blanked (text ++ tail) = kind.blanked text ++ Text.blanked tail := by
  cases h with
  | single _ c hkind =>
    obtain ⟨hc, hleft⟩ := TokenKind.blanked_of_ofChar? hkind
    rw [hleft]
    exact Text.blanked_append_of_code (List.forall_mem_singleton.mpr hc) tail
  | doubleColon => exact Text.blanked_append_of_code (by decide) tail
  | string body hbody =>
    rw [Text.blanked, List.cons_append, Text.blankedIn, if_pos (.inl rfl), hbody.blankedIn]
    · rfl
    · intro more h
      exact absurd h (by decide)
  | verbatim body hbody =>
    rw [Text.blanked, List.cons_append, List.cons_append, Text.blankedIn,
      hbody.blankedIn (htail ⟨body, rfl⟩)]
    rfl
  | char body hbody =>
    rw [Text.blanked, List.cons_append, Text.blankedIn, if_pos (.inr rfl), hbody.blankedIn]
    · rfl
    · intro more h
      exact absurd h (by decide)
  | identifier c rest hstart hrest =>
    refine Text.blanked_append_of_code (List.forall_mem_cons.mpr ⟨?_, ?_⟩) tail
    · exact notMem_literalMarks_of_part (isIdentifierPart_of_start hstart)
    · exact fun d hd => notMem_literalMarks_of_part (hrest d hd)
  | marked c rest hstart hrest =>
    have hc := notMem_literalMarks_of_part (isIdentifierPart_of_start hstart)
    -- the mark is code because an identifier and no quote follows
    have hword : IsCode (c :: rest) :=
      List.forall_mem_cons.mpr ⟨hc, fun d hd => notMem_literalMarks_of_part (hrest d hd)⟩
    have hquote : c ≠ '"' := fun h => hc (by simp [h, literalMarks])
    rw [List.cons_append, Text.blanked_at (by simpa using hquote),
      Text.blanked_append_of_code hword]
    rfl
  | number text hnumeral =>
    exact Text.blanked_append_of_code hnumeral.areNumberChars.isCode tail

/-- A token is closed, and what is left of it is what its kind says. -/
theorem IsLexeme.blanked {kind : TokenKind} {text : List Char} (h : IsLexeme kind text) :
    IsClosed text ∧ Text.blanked text = kind.blanked text :=
  Text.isClosed_of_append fun tail htail => h.blanked_append tail fun _ => htail

/-! ## Whole texts -/

/-- A text of some tokens, with white space between them, and what is left of it when the literals
among the tokens are blanks. -/
inductive LeavesCode : List Piece → List Char → List Char → Prop
  | nil : LeavesCode [] [] []
  | space {pieces : List Piece} {c : Char} {text shown : List Char} : Text.isBlank c = true →
      LeavesCode pieces text shown → LeavesCode pieces (c :: text) (c :: shown)
  | token {pieces : List Piece} {kind : TokenKind} {lexeme text shown : List Char} :
      LeavesCode pieces text shown →
      LeavesCode (⟨kind, String.ofList lexeme⟩ :: pieces) (lexeme ++ text)
        (kind.blanked lexeme ++ shown)

namespace Lexer

/-- A verbatim string is read up to a quote that no other quote follows. -/
theorem startsWith_of_verbatimTail {text taken : List Char} (h : verbatimTail text = .ok taken) :
    startsWith (· == '"') (text.drop taken.length) = false := by
  fun_induction verbatimTail text generalizing taken with
  | case1 => exact absurd h (by simp)
  | case2 rest fault => exact absurd h (by simp)
  | case3 rest more hmore ih =>
    injection h with h
    subst h
    exact ih hmore
  | case4 rest hsingle =>
    injection h with h
    subst h
    cases rest with
    | nil => rfl
    | cons d tail =>
      have hd : d ≠ '"' := fun h => hsingle tail rfl (by rw [h])
      simpa using hd
  | case5 c rest _ _ fault => exact absurd h (by simp)
  | case6 c rest _ hquote more hmore ih =>
    injection h with h
    subst h
    exact ih hmore

/-- A verbatim token is not followed by a quote, since that would have belonged to it. -/
theorem startsWith_of_token {kind : TokenKind} {rest body : List Char}
    (h : token '@' rest = .ok (kind, '"' :: body)) :
    startsWith (· == '"') (rest.drop (body.length + 1)) = false := by
  obtain ⟨tail, rfl⟩ := (token_sound h).2
  have hverbatim : verbatimTail (body ++ tail) = .ok body := by
    cases hread : verbatimTail (body ++ tail) with
    | error fault => exact absurd h (by simp [token, TokenKind.ofChar?, hread])
    | ok more =>
      have hboth : TokenKind.string = kind ∧ more = body := by
        simpa [token, TokenKind.ofChar?, hread] using h
      rw [hboth.2]
  exact startsWith_of_verbatimTail hverbatim

/-- What is left of a text consists of what is left of its tokens and of the white space between
them. The induction is on the reading of the text, so that each token is blanked in front of what is
left behind it. -/
theorem leavesCode_of_tokensFrom {pos : Position} {text : List Char} {stream : TokenStream}
    (h : tokensFrom pos text = .ok stream) :
    LeavesCode (stream.tokens.map Token.piece) text (blanked text) := by
  have hmarks : literalMarks.all (fun c => !Text.isBlank c) = true := by decide
  fun_induction tokensFrom pos text generalizing stream with
  | case1 pos =>
    injection h with h
    subst h
    rw [Text.blanked_nil]
    exact .nil
  | case2 pos c rest hblank ih =>
    have hcode : c ∉ literalMarks :=
      fun hc => absurd (List.all_eq_true.mp hmarks c hc) (by simp [hblank])
    rw [Text.blanked_cons hcode]
    exact .space hblank (ih h)
  | case3 pos c rest _ fault => exact absurd h (by simp)
  | case4 pos c rest _ kind more _ e => exact absurd h (by simp)
  | case5 pos c rest _ kind more htoken behind hbehind ih =>
    injection h with h
    subst h
    obtain ⟨hlexeme, hfront⟩ := token_sound htoken
    have hrest : rest = more ++ rest.drop more.length := List.prefix_iff_eq_append.mp hfront |>.symm
    -- a verbatim string was read as far as its quotes go, so no quote follows it here
    have hquote : (∃ body, c :: more = '@' :: '"' :: body) →
        startsWith (· == '"') (rest.drop more.length) = false := by
      rintro ⟨body, hbody⟩
      obtain ⟨rfl, rfl⟩ := List.cons.inj hbody
      exact startsWith_of_token htoken
    have hwhole : LeavesCode (⟨kind, String.ofList (c :: more)⟩ :: behind.tokens.map Token.piece)
        (c :: more ++ rest.drop more.length)
        (kind.blanked (c :: more) ++ blanked (rest.drop more.length)) :=
      .token (ih hbehind)
    rw [← hlexeme.blanked_append _ hquote, List.cons_append, ← hrest] at hwhole
    exact hwhole

end Lexer

/-- Blanking a text that consists of tokens blanks its string and character tokens and no others. -/
theorem leavesCode_of_tokenize {text : String} {stream : TokenStream}
    (h : tokenize text = .ok stream) :
    LeavesCode (stream.tokens.map Token.piece) text.toList (blanked text.toList) :=
  Lexer.leavesCode_of_tokensFrom h

example : blanked "a = (@\"\"\"\x7d;\")".toList = "a = (       )".toList := by
  decide

end DeclScribe
