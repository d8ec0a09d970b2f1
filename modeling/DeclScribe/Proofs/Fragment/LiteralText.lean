import DeclScribe.Fragment.LiteralValue
import DeclScribe.Proofs.Fragment.WellFormed

/-!
# The text of string and character literals

A character is written inside a literal in one of three ways: as itself, as a backslash with a
letter, or as a backslash with four hexadecimal digits. What is read from a written character, what
cannot occur in it and which tokens it makes follows from these three ways, whichever quote encloses
the literal.
-/

set_option autoImplicit false

namespace DeclScribe

namespace Literal

/-! ## Ways to write a character -/

/-- A character that spoils a line: a control character or one of the two line separators. -/
def BreaksLine (c : Char) : Prop :=
  isControl c = true ∨ c = '\u2028' ∨ c = '\u2029'

/-- Whether a character spoils a line can be decided. -/
instance (c : Char) : Decidable (BreaksLine c) :=
  inferInstanceAs (Decidable (_ ∨ _))

/-- The letters of the escape sequences that are written, with what they stand for. -/
def writtenEscapes : List (Char × Char) :=
  [('\\', '\\'), ('"', '"'), ('\'', '\''), ('0', '\x00'), ('n', '\n'), ('r', '\r'), ('t', '\t')]

/-- How a character can be written inside a literal with a given quote. -/
inductive IsWritten (delimiter c : Char) : List Char → Prop
  | plain : c ≠ '\\' → c ≠ delimiter → ¬ BreaksLine c → IsWritten delimiter c [c]
  | letter (letter : Char) : (letter, c) ∈ writtenEscapes → IsWritten delimiter c ['\\', letter]
  | code : c.toNat < 0xd800 →
      IsWritten delimiter c ('\\' :: 'u' :: Text.hexFixed 4 c.toNat)

/-- The control characters by their codes. -/
theorem isControl_iff {c : Char} :
    isControl c = true ↔ c.toNat < 0x20 ∨ (0x7f ≤ c.toNat ∧ c.toNat < 0xa0) := by
  simp [isControl]

/-- All characters that spoil a line are below the surrogates, so four digits name them. -/
theorem BreaksLine.toNat_lt {c : Char} (h : BreaksLine c) : c.toNat < 0xd800 := by
  rcases h with hcontrol | rfl | rfl
  · rw [isControl_iff] at hcontrol
    omega
  · decide
  · decide

/-- Apart from the quote, whatever it is, a character is written as it has to be. -/
theorem isWritten_escaped {delimiter c : Char} (h : c ≠ delimiter) :
    IsWritten delimiter c (escaped c) := by
  unfold escaped
  split_ifs with hslash hnull hline hreturn htab hbreaks
  · exact .letter '\\' (by simp [hslash, writtenEscapes])
  · exact .letter '0' (by simp [hnull, writtenEscapes])
  · exact .letter 'n' (by simp [hline, writtenEscapes])
  · exact .letter 'r' (by simp [hreturn, writtenEscapes])
  · exact .letter 't' (by simp [htab, writtenEscapes])
  · have hbreaks : BreaksLine c := by
      rcases hbreaks with h | h | h
      · exact .inr (.inl h)
      · exact .inr (.inr h)
      · exact .inl h
    exact .code hbreaks.toNat_lt
  · refine .plain hslash h ?_
    rintro (hcontrol | rfl | rfl)
    · exact hbreaks (.inr (.inr hcontrol))
    · exact hbreaks (.inl rfl)
    · exact hbreaks (.inr (.inl rfl))

/-- A character in a string is written as it has to be, the double quote included. -/
theorem isWritten_escapedInString (c : Char) : IsWritten '"' c (escapedInString c) := by
  unfold escapedInString
  split_ifs with hquote
  · exact .letter '"' (by simp [hquote, writtenEscapes])
  · exact isWritten_escaped hquote

/-- A character in a character literal is written as it has to be, the single quote included. -/
theorem isWritten_escapedInChar (c : Char) : IsWritten '\'' c (escapedInChar c) := by
  unfold escapedInChar
  split_ifs with hquote
  · exact .letter '\'' (by simp [hquote, writtenEscapes])
  · exact isWritten_escaped hquote

end Literal

/-! ## Hexadecimal digits -/

namespace Text

/-- A fixed number of digits is that many characters. -/
theorem length_hexFixed (width n : Nat) : (hexFixed width n).length = width := by
  induction width generalizing n with
  | zero => rfl
  | succ width ih => simp [hexFixed, ih]

/-- A written digit is a digit of base sixteen. -/
theorem isDigit_hexDigit {n : Nat} (h : n < 16) :
    Radix.hexadecimal.isDigit (hexDigit n) = true := by
  have hall : ∀ m < 16, Radix.hexadecimal.isDigit (hexDigit m) = true := by decide
  exact hall n h

/-- Hexadecimal digits stand for themselves in a literal. -/
theorem hexDigit_plain {n : Nat} (h : n < 16) :
    hexDigit n ≠ '\\' ∧ hexDigit n ≠ '"' ∧ ¬ Literal.BreaksLine (hexDigit n) := by
  have hall : ∀ m < 16, hexDigit m ≠ '\\' ∧ hexDigit m ≠ '"' ∧
      ¬ Literal.BreaksLine (hexDigit m) := by
    decide
  exact hall n h

/-- All that stands in a written number are its digits. -/
theorem exists_of_mem_hexFixed {width n : Nat} {c : Char} (h : c ∈ hexFixed width n) :
    ∃ m < 16, c = hexDigit m := by
  induction width generalizing n with
  | zero => exact absurd h (by simp [hexFixed])
  | succ width ih =>
    rcases List.mem_append.mp h with h | h
    · exact ih h
    · exact ⟨n % 16, Nat.mod_lt _ (by omega), List.mem_singleton.mp h⟩

/-- As many characters as there are digits in front of a text are the digits. -/
theorem takeWhile_hexFixed {p : Char → Bool} (hp : ∀ m < 16, p (hexDigit m) = true)
    (width n : Nat) (rest : List Char) :
    ((hexFixed width n ++ rest).take width).takeWhile p = hexFixed width n := by
  have htake : (hexFixed width n ++ rest).take width = hexFixed width n :=
    List.take_left' (length_hexFixed width n)
  rw [htake, List.takeWhile_eq_self_iff]
  intro c hc
  obtain ⟨m, hm, rfl⟩ := exists_of_mem_hexFixed hc
  exact hp m hm

end Text

/-! ## Tokens -/

namespace Lexer

/-- A short escape sequence is complete behind its letter. -/
theorem escape_letter {letter c : Char} (h : (letter, c) ∈ Literal.writtenEscapes)
    (rest : List Char) : escape (letter :: rest) = .ok [letter] := by
  have hall : ∀ pair ∈ Literal.writtenEscapes, simpleEscapes.contains pair.1 = true := by decide
  rw [escape, if_pos (hall (letter, c) h)]

/-- The reader of tokens takes four written digits as the escape sequence they were written for. -/
theorem escape_code (n : Nat) (rest : List Char) :
    escape ('u' :: (Text.hexFixed 4 n ++ rest)) = .ok ('u' :: Text.hexFixed 4 n) := by
  have hsimple : ¬ simpleEscapes.contains 'u' = true := by decide
  have hdigits := Text.takeWhile_hexFixed (fun _ hm => Text.isDigit_hexDigit hm) 4 n rest
  have hlength := Text.length_hexFixed 4 n
  have hcount : ¬ (Text.hexFixed 4 n).length < 4 := by omega
  simp only [escape, if_neg hsimple, escapeDigits?, hdigits, if_neg hcount]

end Lexer

namespace Literal

open Lexer (IsStringTail IsCharTail)

variable {c : Char} {text : List Char}

/-- A line break is a character that spoils a line. -/
theorem not_breaksLine_newline {c : Char} (h : ¬ BreaksLine c) : c ≠ '\n' := by
  rintro rfl
  exact h (.inl (by decide))

/-- A written character takes the string to which it belongs one character further. -/
theorem IsWritten.isStringTail {rest : List Char} (h : IsWritten '"' c text)
    (hrest : IsStringTail rest) : IsStringTail (text ++ rest) := by
  cases h with
  | plain hslash hquote hbreaks =>
    exact .plain c rest (not_breaksLine_newline hbreaks) hquote hslash hrest
  | letter letter hletter => exact .escaped [letter] rest (Lexer.escape_letter hletter _) hrest
  | code =>
    exact .escaped ('u' :: Text.hexFixed 4 c.toNat) rest (Lexer.escape_code c.toNat rest) hrest

/-- A written character fills a character literal. -/
theorem IsWritten.isCharTail (h : IsWritten '\'' c text) : IsCharTail (text ++ ['\'']) := by
  cases h with
  | plain hslash hquote hbreaks =>
    exact .plain c (not_breaksLine_newline hbreaks) hquote hslash
  | letter letter hletter => exact .escaped [letter] (Lexer.escape_letter hletter _)
  | code => exact .escaped ('u' :: Text.hexFixed 4 c.toNat) (Lexer.escape_code c.toNat _)

/-- A text is written as the rest of a string. -/
theorem isStringTail_written (text : List Char) :
    IsStringTail (text.flatMap escapedInString ++ ['"']) := by
  induction text with
  | nil => exact .close
  | cons c rest ih =>
    rw [List.flatMap_cons, List.append_assoc]
    exact (isWritten_escapedInString c).isStringTail ih

/-- A quoted text is one string token. -/
theorem isSoleToken_quote (text : String) : IsSoleToken .string (quote text) := by
  have hlexeme := IsLexeme.string _ (isStringTail_written text.toList)
  rw [isSoleToken_iff, quote, String.toList_ofList]
  exact hlexeme

/-- The literal of a text is a string token. -/
theorem wellFormed_ofString (text : String) : (ofString text).WellFormed :=
  isSoleToken_quote text

/-- The literal of a character is a character token. -/
theorem wellFormed_ofChar (c : Char) : (ofChar c).WellFormed := by
  have hlexeme := IsLexeme.char _ (isWritten_escapedInChar c).isCharTail
  have htoken : IsSoleToken .char (ofChar c).token := by
    rw [isSoleToken_iff, ofChar, String.toList_ofList]
    exact hlexeme
  exact htoken

/-- The literals of the truth values are their words. -/
theorem wellFormed_ofBool (value : Bool) : (ofBool value).WellFormed := by
  cases value <;> rfl

/-- The literal of null is its word. -/
theorem wellFormed_null : null.WellFormed := rfl

/-! ## Single lines -/

/-- The body of a string literal in which every quote is escaped, and so is every backslash. -/
def QuotesEscaped : List Char → Prop
  | [] => True
  | ['\\'] => False
  | '\\' :: _ :: rest => QuotesEscaped rest
  | '"' :: _ => False
  | _ :: rest => QuotesEscaped rest

/-- A string literal on a single line: what is between its quotes neither breaks the line nor ends
the literal. -/
structure IsSingleLine (token : String) : Prop where
  body : ∃ body, token.toList = '"' :: (body ++ ['"']) ∧ QuotesEscaped body
  line : ∀ c ∈ token.toList, ¬ BreaksLine c
  sole : IsSoleToken .string token

/-- A character that is neither quote nor backslash escapes nothing. -/
theorem quotesEscaped_cons {rest : List Char} (hslash : c ≠ '\\') (hquote : c ≠ '"')
    (hrest : QuotesEscaped rest) : QuotesEscaped (c :: rest) := by
  rw [QuotesEscaped]
  · exact hrest
  all_goals simp [hslash, hquote]

/-- The digits of an escape sequence escape nothing. -/
theorem quotesEscaped_append {digits rest : List Char}
    (h : ∀ d ∈ digits, d ≠ '\\' ∧ d ≠ '"') (hrest : QuotesEscaped rest) :
    QuotesEscaped (digits ++ rest) := by
  induction digits with
  | nil => exact hrest
  | cons d more ih =>
    obtain ⟨⟨hslash, hquote⟩, hmore⟩ := List.forall_mem_cons.mp h
    exact quotesEscaped_cons hslash hquote (ih hmore)

/-- A written character leaves no quote without a backslash before it. -/
theorem IsWritten.quotesEscaped {rest : List Char} (h : IsWritten '"' c text)
    (hrest : QuotesEscaped rest) : QuotesEscaped (text ++ rest) := by
  cases h with
  | plain hslash hquote _ => exact quotesEscaped_cons hslash hquote hrest
  | letter letter _ => exact hrest
  | code =>
    have hdigits : QuotesEscaped (Text.hexFixed 4 c.toNat ++ rest) := by
      refine quotesEscaped_append ?_ hrest
      intro d hd
      obtain ⟨m, hm, rfl⟩ := Text.exists_of_mem_hexFixed hd
      obtain ⟨hslash, hquote, -⟩ := Text.hexDigit_plain hm
      exact ⟨hslash, hquote⟩
    exact hdigits

/-- A written character spoils no line, since it is escaped if it would. -/
theorem IsWritten.not_breaksLine {delimiter : Char} (h : IsWritten delimiter c text) :
    ∀ d ∈ text, ¬ BreaksLine d := by
  have hslash : ¬ BreaksLine '\\' := by decide
  cases h with
  | plain _ _ hbreaks => simpa using hbreaks
  | letter letter hletter =>
    have hall : ∀ pair ∈ writtenEscapes, ¬ BreaksLine pair.1 := by decide
    exact List.forall_mem_cons.mpr ⟨hslash, List.forall_mem_singleton.mpr (hall _ hletter)⟩
  | code =>
    have hmark : ¬ BreaksLine 'u' := by decide
    refine List.forall_mem_cons.mpr ⟨hslash, List.forall_mem_cons.mpr ⟨hmark, ?_⟩⟩
    intro d hd
    obtain ⟨m, hm, rfl⟩ := Text.exists_of_mem_hexFixed hd
    exact (Text.hexDigit_plain hm).2.2

/-- All quotes of a written text have a backslash before them. -/
theorem quotesEscaped_written (text : List Char) :
    QuotesEscaped (text.flatMap escapedInString) := by
  induction text with
  | nil => trivial
  | cons c rest ih =>
    rw [List.flatMap_cons]
    exact (isWritten_escapedInString c).quotesEscaped ih

/-- No character of a written text spoils a line. -/
theorem not_breaksLine_written {text : List Char} {d : Char}
    (hd : d ∈ text.flatMap escapedInString) : ¬ BreaksLine d := by
  obtain ⟨c, -, hdc⟩ := List.mem_flatMap.mp hd
  exact (isWritten_escapedInString c).not_breaksLine d hdc

/-- A quoted text stays on one line, whatever is in the text. -/
theorem isSingleLine_quote (text : String) : IsSingleLine (quote text) where
  body := ⟨_, by rw [quote, String.toList_ofList], quotesEscaped_written text.toList⟩
  line := by
    intro c hc
    rw [quote, String.toList_ofList, List.mem_cons, List.mem_append, List.mem_singleton] at hc
    rcases hc with rfl | hc | rfl
    · decide
    · exact not_breaksLine_written hc
    · decide
  sole := isSoleToken_quote text

end Literal

end DeclScribe
