import DeclScribe.Proofs.Token.Numerals

/-!
# The texts that are tokens

What makes a text a token of a kind is said here without reading it: the bodies of literals piece by
piece, identifiers by their characters, numbers by their parts. Reading a token takes such a text
exactly, as long as nothing follows that would have made the token longer, and takes nothing else.
From this the tokens of a text that is put together from lexemes are known without reading it.
-/

set_option autoImplicit false

namespace DeclScribe

open Lexer (startsWith)

namespace Lexer

/-! ## Literals -/

/-- A string literal behind its opening quote, closing quote included. -/
inductive IsStringTail : List Char → Prop
  | close : IsStringTail ['"']
  | plain (c : Char) (rest : List Char) : c ≠ '\n' → c ≠ '"' → c ≠ '\\' → IsStringTail rest →
      IsStringTail (c :: rest)
  | escaped (sequence rest : List Char) : escape (sequence ++ rest) = .ok sequence →
      IsStringTail rest → IsStringTail ('\\' :: (sequence ++ rest))

/-- A verbatim string behind its opening quote, closing quote included. -/
inductive IsVerbatimTail : List Char → Prop
  | close : IsVerbatimTail ['"']
  | doubled (rest : List Char) : IsVerbatimTail rest → IsVerbatimTail ('"' :: '"' :: rest)
  | plain (c : Char) (rest : List Char) : c ≠ '"' → IsVerbatimTail rest →
      IsVerbatimTail (c :: rest)

/-- A character literal behind its opening apostrophe, closing apostrophe included. -/
inductive IsCharTail : List Char → Prop
  | plain (c : Char) : c ≠ '\n' → c ≠ '\'' → c ≠ '\\' → IsCharTail [c, '\'']
  | escaped (sequence : List Char) : escape (sequence ++ ['\'']) = .ok sequence →
      IsCharTail ('\\' :: (sequence ++ ['\'']))

/-- How many characters of a class stand at the front of a bounded stretch. -/
theorem takeWhile_take_append_iff {p : Char → Bool} {n : Nat} {run rest : List Char} :
    ((run ++ rest).take n).takeWhile p = run ↔
      run.length ≤ n ∧ (∀ c ∈ run, p c = true) ∧ (run.length = n ∨ startsWith p rest = false) := by
  induction run generalizing n with
  | nil =>
    cases n with
    | zero => simp
    | succ n =>
      cases rest with
      | nil => simp
      | cons c rest => simp [List.takeWhile_cons]
  | cons c run ih =>
    cases n with
    | zero => simp
    | succ n =>
      rw [List.cons_append, List.take_succ_cons, List.takeWhile_cons]
      by_cases hc : p c = true
      · simp [hc, ih]
      · simp [hc]

/-- An escape letter that takes digits is no escape sequence by itself. -/
theorem notMem_simpleEscapes {letter : Char} {bounds : Nat × Nat}
    (h : escapeDigits? letter = some bounds) : letter ∉ simpleEscapes := by
  unfold escapeDigits? at h
  split at h
  · decide
  · decide
  · decide
  · exact absurd h (by simp)

/-- An escape sequence is one of the simple letters, or a letter with enough digits behind it, and
there are either as many digits as the letter takes or no more of them. -/
theorem escape_eq_ok_iff {sequence rest : List Char} :
    escape (sequence ++ rest) = .ok sequence ↔
      (∃ letter ∈ simpleEscapes, sequence = [letter]) ∨
        ∃ letter least most digits, sequence = letter :: digits ∧
          escapeDigits? letter = some (least, most) ∧ least ≤ digits.length ∧
          digits.length ≤ most ∧ (∀ d ∈ digits, Radix.hexadecimal.isDigit d = true) ∧
          (digits.length = most ∨ startsWith Radix.hexadecimal.isDigit rest = false) := by
  constructor
  · intro h
    cases sequence with
    | nil =>
      -- what is taken is never empty
      cases rest with
      | nil => exact absurd h (by simp [escape])
      | cons c behind =>
        simp only [List.nil_append, escape] at h
        split at h
        · exact absurd h (by simp)
        · split at h
          · exact absurd h (by simp)
          · split at h
            · exact absurd h (by simp)
            · exact absurd h (by simp)
    | cons letter digits =>
      simp only [List.cons_append, escape] at h
      split at h
      · rename_i hsimple
        injection h with h
        exact .inl ⟨letter, List.contains_iff_mem.mp hsimple, h.symm⟩
      · split at h
        · exact absurd h (by simp)
        · rename_i least most hbounds
          split at h
          · exact absurd h (by simp)
          · rename_i hleast
            injection h with h
            have hdigits := (List.cons.inj h).2
            obtain ⟨hmost, hall, hend⟩ := takeWhile_take_append_iff.mp hdigits
            rw [hdigits] at hleast
            exact .inr ⟨letter, least, most, digits, rfl, hbounds, by omega, hmost, hall, hend⟩
  · rintro (⟨letter, hletter, rfl⟩ | ⟨letter, least, most, digits, rfl, hbounds, hleast, hmost,
      hall, hend⟩)
    · rw [List.singleton_append, escape, if_pos (List.contains_iff_mem.mpr hletter)]
    · have hsimple : ¬ simpleEscapes.contains letter = true := by
        rw [List.contains_iff_mem]
        exact notMem_simpleEscapes hbounds
      have hdigits := takeWhile_take_append_iff.mpr ⟨hmost, hall, hend⟩
      rw [List.cons_append, escape, if_neg hsimple, hbounds]
      simp only [hdigits]
      rw [if_neg (by omega)]

/-- An escape sequence is read with one character of sight. -/
theorem escape_append {sequence : List Char} {d : Char} {more : List Char} (other : List Char)
    (h : escape (sequence ++ d :: more) = .ok sequence) :
    escape (sequence ++ d :: other) = .ok sequence := by
  rw [escape_eq_ok_iff] at h ⊢
  exact h

/-- What is taken as an escape sequence stands at the front of the text. -/
theorem escape_isPrefix {text sequence : List Char} (h : escape text = .ok sequence) :
    sequence <+: text := by
  cases text with
  | nil => exact absurd h (by simp [escape])
  | cons c rest =>
    simp only [escape] at h
    split at h
    · injection h with h
      subst h
      simp
    · split at h
      · exact absurd h (by simp)
      · split at h
        · exact absurd h (by simp)
        · injection h with h
          subst h
          refine (List.prefix_cons_inj c).mpr ?_
          exact (List.takeWhile_prefix _).trans (List.take_prefix _ _)

/-- The rest of a string is never empty, since it has at least the closing quote. -/
theorem IsStringTail.exists_cons {text : List Char} (h : IsStringTail text) :
    ∃ d more, text = d :: more := by
  cases h <;> exact ⟨_, _, rfl⟩

/-- The rest of a string is taken up to the closing quote, whatever follows. -/
theorem stringTail_append {text : List Char} (h : IsStringTail text) (tail : List Char) :
    stringTail (text ++ tail) = .ok text := by
  induction h with
  | close => simp [stringTail]
  | plain c rest hline hquote hslash _ ih =>
    simp only [List.cons_append, stringTail, hline, hquote, hslash, if_false, ih]
  | escaped sequence rest hsequence hrest ih =>
    obtain ⟨d, more, rfl⟩ := hrest.exists_cons
    have hread := escape_append (more ++ tail) hsequence
    simp only [List.cons_append, List.append_assoc] at ih ⊢
    rw [stringTail]
    simp [hread, ih]

/-- What is taken as the rest of a string is one, and stands at the front of the text. -/
theorem stringTail_sound {text taken : List Char} (h : stringTail text = .ok taken) :
    IsStringTail taken ∧ taken <+: text := by
  fun_induction stringTail text generalizing taken with
  | case1 => exact absurd h (by simp)
  | case2 rest => exact absurd h (by simp)
  | case3 rest =>
    injection h with h
    subst h
    exact ⟨.close, by simp⟩
  | case4 rest fault => exact absurd h (by simp)
  | case5 rest sequence _ fault => exact absurd h (by simp)
  | case6 rest sequence hsequence more hmore _ _ ih =>
    injection h with h
    subst h
    obtain ⟨htail, hfront⟩ := ih hmore
    have hrest := List.prefix_iff_eq_append.mp (escape_isPrefix hsequence)
    obtain ⟨behind, hbehind⟩ := hfront
    obtain ⟨d, inner, rfl⟩ := htail.exists_cons
    -- the sequence was read in front of all the text, and is read alike in front of the tail alone
    rw [← hrest, ← hbehind] at hsequence
    refine ⟨.escaped sequence _ (escape_append inner hsequence) htail, ?_⟩
    rw [← hrest, ← hbehind]
    simp
  | case7 c rest _ _ _ fault => exact absurd h (by simp)
  | case8 c rest hline hquote hslash more hmore ih =>
    injection h with h
    subst h
    obtain ⟨htail, hfront⟩ := ih hmore
    exact ⟨.plain c more hline hquote hslash htail, (List.prefix_cons_inj c).mpr hfront⟩

/-- The rest of a verbatim string is taken up to its closing quote if no quote follows that. -/
theorem verbatimTail_append {text tail : List Char} (h : IsVerbatimTail text)
    (htail : startsWith (· == '"') tail = false) : verbatimTail (text ++ tail) = .ok text := by
  induction h with
  | close =>
    cases tail with
    | nil => simp [verbatimTail]
    | cons c rest =>
      rw [startsWith_cons, beq_eq_false_iff_ne] at htail
      simp [verbatimTail, htail]
  | doubled rest _ ih =>
    simp only [List.cons_append, verbatimTail, ih]
  | plain c rest hquote _ ih =>
    have hread : verbatimTail (c :: (rest ++ tail)) = .ok (c :: rest) := by
      rw [verbatimTail]
      · simp [hquote, ih]
      · intro more hc
        exact absurd hc hquote
    exact hread

/-- What is taken as the rest of a verbatim string is one, and stands at the front of the text. -/
theorem verbatimTail_sound {text taken : List Char} (h : verbatimTail text = .ok taken) :
    IsVerbatimTail taken ∧ taken <+: text := by
  fun_induction verbatimTail text generalizing taken with
  | case1 => exact absurd h (by simp)
  | case2 rest fault => exact absurd h (by simp)
  | case3 rest more hmore ih =>
    injection h with h
    subst h
    obtain ⟨htail, hfront⟩ := ih hmore
    exact ⟨.doubled more htail, by simpa using hfront⟩
  | case4 rest _ =>
    injection h with h
    subst h
    exact ⟨.close, by simp⟩
  | case5 c rest _ _ fault => exact absurd h (by simp)
  | case6 c rest _ hquote more hmore ih =>
    injection h with h
    subst h
    obtain ⟨htail, hfront⟩ := ih hmore
    exact ⟨.plain c more hquote htail, (List.prefix_cons_inj c).mpr hfront⟩

/-- The rest of a character literal is taken up to the closing apostrophe, whatever follows. -/
theorem charTail_append {text : List Char} (h : IsCharTail text) (tail : List Char) :
    charTail (text ++ tail) = .ok text := by
  cases h with
  | plain c hline hquote hslash =>
    simp [charTail, hline, hquote, hslash, closeChar]
  | escaped sequence hsequence =>
    have hread := escape_append tail hsequence
    simp [charTail, hread, closeChar]

/-- A character literal is closed by an apostrophe right behind its body. -/
theorem closeChar_sound {body rest taken : List Char} (h : closeChar body rest = .ok taken) :
    taken = body ++ ['\''] ∧ ∃ more, rest = '\'' :: more := by
  unfold closeChar at h
  split at h
  · rename_i more
    injection h with h
    exact ⟨h.symm, more, rfl⟩
  · exact absurd h (by simp)

/-- What is taken as the rest of a character literal is one, and stands at the front of the text. -/
theorem charTail_sound {text taken : List Char} (h : charTail text = .ok taken) :
    IsCharTail taken ∧ taken <+: text := by
  cases text with
  | nil => exact absurd h (by simp [charTail])
  | cons c rest =>
    simp only [charTail] at h
    split_ifs at h with hstop hslash
    · -- an escape sequence
      split at h
      · exact absurd h (by simp)
      · rename_i sequence hsequence
        obtain ⟨rfl, more, hmore⟩ := closeChar_sound h
        have hrest := List.prefix_iff_eq_append.mp (escape_isPrefix hsequence)
        rw [hmore] at hrest
        rw [← hrest] at hsequence
        subst hslash
        refine ⟨.escaped sequence (escape_append [] hsequence), ?_⟩
        rw [← hrest]
        simp
    · obtain ⟨rfl, more, rfl⟩ := closeChar_sound h
      rw [not_or] at hstop
      exact ⟨.plain c hstop.1 hstop.2 hslash, by simp⟩

end Lexer

/-! ## Tokens -/

/-- The texts that are tokens of each kind. -/
inductive IsLexeme : TokenKind → List Char → Prop
  | single (kind : TokenKind) (c : Char) : TokenKind.ofChar? c = some kind → IsLexeme kind [c]
  | doubleColon : IsLexeme .doubleColon [':', ':']
  | string (tail : List Char) : Lexer.IsStringTail tail → IsLexeme .string ('"' :: tail)
  | verbatim (tail : List Char) : Lexer.IsVerbatimTail tail → IsLexeme .string ('@' :: '"' :: tail)
  | char (tail : List Char) : Lexer.IsCharTail tail → IsLexeme .char ('\'' :: tail)
  | identifier (c : Char) (rest : List Char) : isIdentifierStart c = true →
      (∀ d ∈ rest, isIdentifierPart d = true) → IsLexeme .identifier (c :: rest)
  | marked (c : Char) (rest : List Char) : isIdentifierStart c = true →
      (∀ d ∈ rest, isIdentifierPart d = true) → IsLexeme .identifier ('@' :: c :: rest)
  | number (text : List Char) : IsNumeral text → IsLexeme .number text

/-- An identifier can be recognized by testing all its characters. -/
theorem IsLexeme.identifier_of_all {c : Char} {rest : List Char}
    (hstart : isIdentifierStart c = true) (hrest : rest.all isIdentifierPart = true) :
    IsLexeme .identifier (c :: rest) :=
  .identifier c rest hstart (List.all_eq_true.mp hrest)

/-- Only numbers are tokens of the kind of numbers. -/
theorem IsLexeme.isNumeral {text : List Char} (h : IsLexeme .number text) : IsNumeral text := by
  cases h with
  | single _ c hc =>
    unfold TokenKind.ofChar? at hc
    split at hc <;> exact absurd hc (by simp)
  | number _ hnumeral => exact hnumeral

/-- What follows a token of a kind does not make it longer. Brackets, operators and character
literals are complete whatever follows. -/
def EndsToken (tail : List Char) : TokenKind → Prop
  | .identifier => startsWith isIdentifierPart tail = false
  | .number => EndsNumber tail
  | .string => startsWith (· == '"') tail = false
  | .dot => startsWith Radix.decimal.isDigit tail = false
  | _ => True

/-- What follows makes no token longer: it continues no identifier, is no point with a digit and no
quote. -/
structure IsBreak (tail : List Char) : Prop extends EndsNumber tail where
  quote : startsWith (· == '"') tail = false

namespace IsBreak

/-- The end of a text makes no token longer. -/
theorem nil : IsBreak [] where
  part := rfl
  point := rfl
  quote := rfl

/-- A character outside of words, numbers and strings is a break. -/
theorem cons {c : Char} (rest : List Char) (hpart : isIdentifierPart c = false) (hpoint : c ≠ '.')
    (hquote : c ≠ '"') : IsBreak (c :: rest) where
  part := hpart
  point := by
    unfold Numeral.fraction
    split
    · rename_i heq
      exact absurd (List.cons.inj heq).1 hpoint
    · rfl
  quote := by simp [hquote]

/-- A point without a digit behind it makes no token longer. -/
theorem dot {rest : List Char} (h : startsWith Radix.decimal.isDigit rest = false) :
    IsBreak ('.' :: rest) where
  part := by
    rw [startsWith_cons]
    decide
  point := by
    cases rest with
    | nil => rfl
    | cons c more =>
      rw [startsWith_cons] at h
      simp [Numeral.fraction, h]
  quote := rfl

/-- What makes no token longer ends tokens of every kind. -/
theorem endsToken {tail : List Char} (h : IsBreak tail) (kind : TokenKind) :
    EndsToken tail kind := by
  cases kind
  case identifier => exact h.part
  case number => exact h.toEndsNumber
  case string => exact h.quote
  case dot => exact startsWith_eq_false_of_imp (fun _ hd => isIdentifierPart_of_decimal hd) h.part
  all_goals exact trivial

end IsBreak

/-- A number starts with a digit, or with a point and a digit. -/
theorem IsNumeral.start {text : List Char} (h : IsNumeral text) :
    ∃ c rest, text = c :: rest ∧ (Radix.decimal.isDigit c = true ∨
      c = '.' ∧ startsWith Radix.decimal.isDigit rest = true) := by
  cases h with
  | announced mark digits suffix radix hlength hmark _ _ _ =>
    match mark, hlength with
    | [c, d], _ =>
      refine ⟨c, d :: (digits ++ suffix), by simp, Or.inl ?_⟩
      unfold Radix.announced? at hmark
      split at hmark
      case h_5 => exact absurd hmark (by simp)
      all_goals
        rename_i heq
        obtain ⟨rfl, -⟩ := List.cons.inj heq
        decide
  | decimal whole fraction exponent suffix hwhole hfraction hexponent hstart hsuffix =>
    rcases hstart with hdigit | ⟨rfl, hpoint⟩
    · cases whole with
      | nil => exact absurd hdigit (by simp)
      | cons c rest => exact ⟨c, rest ++ fraction ++ exponent ++ suffix, by simp, Or.inl hdigit⟩
    · cases hfraction with
      | absent => exact absurd rfl hpoint
      | point digit digits hdigit hdigits =>
        exact ⟨'.', digit :: (digits ++ exponent ++ suffix), by simp, Or.inr ⟨rfl, hdigit⟩⟩

namespace Lexer

/-- A character that is told apart from the first characters of all tokens but identifiers and
numbers. -/
theorem token_eq_of_plain {c : Char} {rest : List Char} (hpoint : c ≠ '.')
    (hkind : TokenKind.ofChar? c = none) (hcolon : c ≠ ':') (hquote : c ≠ '"')
    (happostrophe : c ≠ '\'') (hat : c ≠ '@') :
    token c rest =
      if Radix.decimal.isDigit c then
        (number (c :: rest)).map fun lexeme => (.number, lexeme.tail)
      else if isIdentifierStart c then .ok (.identifier, rest.takeWhile isIdentifierPart)
      else .error ⟨.unexpected c, []⟩ := by
  simp [token, hpoint, hkind, hcolon, hquote, happostrophe, hat]

/-- A character that is a token by itself is read as one, unless it is the point of a number. -/
theorem token_single {kind : TokenKind} {c : Char} {tail : List Char}
    (hkind : TokenKind.ofChar? c = some kind) (htail : EndsToken tail kind) :
    token c tail = .ok (kind, []) := by
  have hpoint : ¬ (c = '.' ∧ startsWith Radix.decimal.isDigit tail = true) := by
    rintro ⟨rfl, hdigit⟩
    obtain rfl : TokenKind.dot = kind := by simpa [TokenKind.ofChar?] using hkind
    have hno : startsWith Radix.decimal.isDigit tail = false := htail
    rw [hno] at hdigit
    exact absurd hdigit (by simp)
  unfold token
  rw [if_neg hpoint, hkind]

/-- A word is read up to the first character that cannot be part of it. -/
theorem token_identifier {c : Char} {rest tail : List Char} (hstart : isIdentifierStart c = true)
    (hrest : ∀ d ∈ rest, isIdentifierPart d = true)
    (htail : startsWith isIdentifierPart tail = false) :
    token c (rest ++ tail) = .ok (.identifier, rest) := by
  have hkind := TokenKind.ofChar?_eq_none_of_part (isIdentifierPart_of_start hstart)
  have hdigit : Radix.decimal.isDigit c = false := by
    cases hd : Radix.decimal.isDigit c with
    | false => rfl
    | true =>
      rw [isIdentifierStart_eq_false_of_decimal hd] at hstart
      exact absurd hstart (by simp)
  have hne : ∀ d : Char, isIdentifierStart d = false → c ≠ d := by
    rintro d hd rfl
    rw [hd] at hstart
    exact absurd hstart (by simp)
  rw [token_eq_of_plain (hne '.' (by decide)) hkind (hne ':' (by decide)) (hne '"' (by decide))
    (hne '\'' (by decide)) (hne '@' (by decide))]
  simp [hdigit, hstart, takeWhile_append_of_startsWith hrest htail]

/-- A marked word is read with its mark. -/
theorem token_marked {c : Char} {rest tail : List Char} (hstart : isIdentifierStart c = true)
    (hrest : ∀ d ∈ rest, isIdentifierPart d = true)
    (htail : startsWith isIdentifierPart tail = false) :
    token '@' (c :: (rest ++ tail)) = .ok (.identifier, c :: rest) := by
  have hquote : c ≠ '"' := by
    rintro rfl
    exact absurd hstart (by decide)
  have hall : ∀ d ∈ c :: rest, isIdentifierPart d = true := by
    intro d hd
    rcases List.mem_cons.mp hd with rfl | hd
    · exact isIdentifierPart_of_start hstart
    · exact hrest d hd
  have htake : (c :: (rest ++ tail)).takeWhile isIdentifierPart = c :: rest :=
    takeWhile_append_of_startsWith hall htail
  simp [token, TokenKind.ofChar?, hquote, hstart, htake]

/-- A number is read up to where it ends. -/
theorem token_number {c : Char} {rest tail : List Char} (h : IsNumeral (c :: rest))
    (htail : EndsNumber tail) : token c (rest ++ tail) = .ok (.number, rest) := by
  have hread : number (c :: (rest ++ tail)) = .ok (c :: rest) := number_append h htail
  obtain ⟨first, more, heq, hstart⟩ := h.start
  obtain ⟨rfl, rfl⟩ := List.cons.inj heq
  rcases hstart with hdigit | ⟨rfl, hdigit⟩
  · have hkind := TokenKind.ofChar?_eq_none_of_part (isIdentifierPart_of_decimal hdigit)
    have hne : ∀ d : Char, Radix.decimal.isDigit d = false → c ≠ d := by
      rintro d hd rfl
      rw [hd] at hdigit
      exact absurd hdigit (by simp)
    rw [token_eq_of_plain (hne '.' (by decide)) hkind (hne ':' (by decide)) (hne '"' (by decide))
      (hne '\'' (by decide)) (hne '@' (by decide))]
    simp [hdigit, hread, Except.map]
  · have hmore : startsWith Radix.decimal.isDigit (rest ++ tail) = true := by
      cases rest with
      | nil => exact absurd hdigit (by simp)
      | cons d digits => exact hdigit
    simp [token, hmore, hread, Except.map]

/-- A token is read as it is when nothing follows that makes it longer. -/
theorem token_append {kind : TokenKind} {c : Char} {rest tail : List Char}
    (h : IsLexeme kind (c :: rest)) (htail : EndsToken tail kind) :
    token c (rest ++ tail) = .ok (kind, rest) := by
  generalize htext : c :: rest = text at h
  cases h with
  | single kind d hkind =>
    obtain ⟨rfl, rfl⟩ := List.cons.inj htext
    exact token_single hkind htail
  | doubleColon =>
    obtain ⟨rfl, rfl⟩ := List.cons.inj htext
    simp [token, TokenKind.ofChar?]
  | string body hbody =>
    obtain ⟨rfl, rfl⟩ := List.cons.inj htext
    simp [token, TokenKind.ofChar?, stringTail_append hbody tail]
  | verbatim body hbody =>
    obtain ⟨rfl, rfl⟩ := List.cons.inj htext
    simp [token, TokenKind.ofChar?, verbatimTail_append hbody htail]
  | char body hbody =>
    obtain ⟨rfl, rfl⟩ := List.cons.inj htext
    simp [token, TokenKind.ofChar?, charTail_append hbody tail]
  | identifier d more hstart hmore =>
    obtain ⟨rfl, rfl⟩ := List.cons.inj htext
    exact token_identifier hstart hmore htail
  | marked d more hstart hmore =>
    obtain ⟨rfl, rfl⟩ := List.cons.inj htext
    exact token_marked hstart hmore htail
  | number text hnumeral =>
    subst htext
    exact token_number hnumeral htail

/-- What is read as a number is one, and stands at the front of the text. -/
theorem token_number_sound {c : Char} {rest more : List Char} {kind : TokenKind}
    (hstart : Radix.decimal.isDigit c = true ∨
      c = '.' ∧ startsWith Radix.decimal.isDigit rest = true)
    (h : (number (c :: rest)).map (fun lexeme => (TokenKind.number, lexeme.tail))
      = .ok (kind, more)) :
    IsLexeme kind (c :: more) ∧ more <+: rest := by
  have hnumber' : startsWith Radix.decimal.isDigit (c :: rest) = true ∨
      Numeral.fraction (c :: rest) ≠ [] := by
    rcases hstart with hdigit | ⟨rfl, hdigit⟩
    · exact Or.inl hdigit
    · cases rest with
      | nil => exact absurd hdigit (by simp)
      | cons d digits =>
        rw [startsWith_cons] at hdigit
        exact Or.inr (by simp [Numeral.fraction, hdigit])
  cases hnumber : number (c :: rest) with
  | error fault =>
    rw [hnumber] at h
    exact absurd h (by simp [Except.map])
  | ok lexeme =>
    rw [hnumber] at h
    simp only [Except.map, Except.ok.injEq, Prod.mk.injEq] at h
    obtain ⟨rfl, rfl⟩ := h
    obtain ⟨hnumeral, hfront, -⟩ := number_sound hnumber' hnumber
    obtain ⟨d, digits, rfl, -⟩ := hnumeral.start
    obtain ⟨rfl, hmore⟩ := List.cons_prefix_cons.mp hfront
    exact ⟨.number _ hnumeral, hmore⟩

/-- What is taken as a token is one, and stands at the front of the text. -/
theorem token_sound {kind : TokenKind} {c : Char} {rest more : List Char}
    (h : token c rest = .ok (kind, more)) : IsLexeme kind (c :: more) ∧ more <+: rest := by
  unfold token at h
  split at h
  · -- a number that starts with its point
    rename_i hpoint
    exact token_number_sound (Or.inr hpoint) h
  · split at h
    · rename_i single hsingle
      simp only [Except.ok.injEq, Prod.mk.injEq] at h
      obtain ⟨rfl, rfl⟩ := h
      exact ⟨.single _ c hsingle, List.nil_prefix⟩
    · rename_i hnone
      split_ifs at h with hcolon hquote happostrophe hverbatim hmarked hdigit hstart
      · simp only [Except.ok.injEq, Prod.mk.injEq] at h
        obtain ⟨rfl, rfl⟩ := h
        -- two colons
        obtain ⟨rfl, hnext⟩ := hcolon
        cases rest with
        | nil => exact absurd hnext (by simp)
        | cons d tail =>
          rw [startsWith_cons, beq_iff_eq] at hnext
          subst hnext
          exact ⟨.doubleColon, by simp⟩
      · split at h
        · exact absurd h (by simp)
        · rename_i taken htaken
          simp only [Except.ok.injEq, Prod.mk.injEq] at h
          obtain ⟨rfl, rfl⟩ := h
          -- a string
          subst hquote
          obtain ⟨htail, hfront⟩ := stringTail_sound htaken
          exact ⟨.string _ htail, hfront⟩
      · split at h
        · exact absurd h (by simp)
        · rename_i taken htaken
          simp only [Except.ok.injEq, Prod.mk.injEq] at h
          obtain ⟨rfl, rfl⟩ := h
          -- a character literal
          subst happostrophe
          obtain ⟨htail, hfront⟩ := charTail_sound htaken
          exact ⟨.char _ htail, hfront⟩
      · -- a verbatim string, whose quote is the first character behind the `@`
        obtain ⟨rfl, hnext⟩ := hverbatim
        cases rest with
        | nil => exact absurd hnext (by simp)
        | cons d tail =>
          rw [startsWith_cons, beq_iff_eq] at hnext
          subst hnext
          split at h
          · exact absurd h (by simp)
          · rename_i taken htaken
            simp only [Except.ok.injEq, Prod.mk.injEq] at h
            obtain ⟨rfl, rfl⟩ := h
            obtain ⟨htail, hfront⟩ := verbatimTail_sound htaken
            exact ⟨.verbatim _ htail, (List.prefix_cons_inj _).mpr hfront⟩
      · simp only [Except.ok.injEq, Prod.mk.injEq] at h
        obtain ⟨rfl, rfl⟩ := h
        -- a marked identifier
        obtain ⟨rfl, hnext⟩ := hmarked
        refine ⟨?_, List.takeWhile_prefix _⟩
        cases rest with
        | nil => exact absurd hnext (by simp)
        | cons d tail =>
          rw [startsWith_cons] at hnext
          rw [List.takeWhile_cons, if_pos (isIdentifierPart_of_start hnext)]
          exact .marked d _ hnext fun _ hd => List.mem_takeWhile_imp hd
      · exact token_number_sound (Or.inl hdigit) h
      · simp only [Except.ok.injEq, Prod.mk.injEq] at h
        obtain ⟨rfl, rfl⟩ := h
        exact ⟨.identifier c _ hstart fun _ hd => List.mem_takeWhile_imp hd,
          List.takeWhile_prefix _⟩

end Lexer

/-! ## Whole texts -/

/-- A token is not empty and does not start with a blank. -/
theorem IsLexeme.exists_cons {kind : TokenKind} {text : List Char} (h : IsLexeme kind text) :
    ∃ c rest, text = c :: rest ∧ Text.isBlank c = false := by
  cases h with
  | single kind c hkind => exact ⟨c, [], rfl, (TokenKind.classes_of_ofChar? hkind).1⟩
  | doubleColon => exact ⟨':', [':'], rfl, by decide⟩
  | string tail _ => exact ⟨'"', tail, rfl, by decide⟩
  | verbatim tail _ => exact ⟨'@', '"' :: tail, rfl, by decide⟩
  | char tail _ => exact ⟨'\'', tail, rfl, by decide⟩
  | identifier c rest hstart _ =>
    exact ⟨c, rest, rfl, isBlank_eq_false_of_part (isIdentifierPart_of_start hstart)⟩
  | marked c rest _ _ => exact ⟨'@', c :: rest, rfl, by decide⟩
  | number text hnumeral =>
    obtain ⟨c, rest, rfl, hdigit | ⟨rfl, -⟩⟩ := hnumeral.start
    · exact ⟨c, rest, rfl, isBlank_eq_false_of_part (isIdentifierPart_of_decimal hdigit)⟩
    · exact ⟨'.', rest, rfl, by decide⟩

/-- What a token is apart from its place. -/
structure Piece where
  kind : TokenKind
  lexeme : String
deriving DecidableEq

/-- A token without its place. -/
def Token.piece (t : Token) : Piece := ⟨t.kind, t.lexeme⟩

/-- A piece has the kind of its token. -/
@[simp] theorem Token.piece_kind (t : Token) : t.piece.kind = t.kind := rfl

/-- A piece has the text of its token. -/
@[simp] theorem Token.piece_lexeme (t : Token) : t.piece.lexeme = t.lexeme := rfl

/-- Wherever a text starts, it is read as these pieces. -/
def Reads (text : List Char) (pieces : List Piece) : Prop :=
  ∀ pos, ∃ stream, Lexer.tokensFrom pos text = .ok stream ∧
    stream.tokens.map Token.piece = pieces

namespace Reads

/-- An empty text has no pieces. -/
theorem nil : Reads [] [] := by
  intro pos
  exact ⟨⟨[], pos⟩, by simp [Lexer.tokensFrom], rfl⟩

/-- A blank in front of a text does not change what it is read as. -/
theorem blank {c : Char} (hc : Text.isBlank c = true) {text : List Char} {pieces : List Piece}
    (h : Reads text pieces) : Reads (c :: text) pieces := by
  intro pos
  obtain ⟨stream, hstream, hpieces⟩ := h (pos.next c)
  refine ⟨stream, ?_, hpieces⟩
  rw [Lexer.tokensFrom, if_pos hc]
  exact hstream

/-- A space in front of a text changes nothing. -/
theorem space {text : List Char} {pieces : List Piece} (h : Reads text pieces) :
    Reads (' ' :: text) pieces :=
  h.blank (by decide)

/-- A lexeme in front of a text that does not make it longer is one more piece. -/
theorem cons {kind : TokenKind} {lexeme text : List Char} {pieces : List Piece}
    (hlexeme : IsLexeme kind lexeme) (htail : EndsToken text kind) (h : Reads text pieces) :
    Reads (lexeme ++ text) (⟨kind, String.ofList lexeme⟩ :: pieces) := by
  intro pos
  obtain ⟨c, rest, rfl, hblank⟩ := hlexeme.exists_cons
  obtain ⟨stream, hstream, hpieces⟩ := h (pos.after (c :: rest))
  refine ⟨⟨⟨kind, String.ofList (c :: rest), pos⟩ :: stream.tokens, stream.stop⟩, ?_, ?_⟩
  · have htoken := Lexer.token_append hlexeme htail
    rw [List.cons_append, Lexer.tokensFrom]
    simp only [hblank, Bool.false_eq_true, if_false, htoken, List.drop_left, hstream]
  · simp [hpieces, Token.piece]

end Reads

/-- The tokens of a text are lexemes of their kinds. -/
theorem Lexer.isLexeme_of_tokensFrom {pos : Position} {text : List Char} {stream : TokenStream}
    (h : tokensFrom pos text = .ok stream) :
    ∀ t ∈ stream.tokens, IsLexeme t.kind t.lexeme.toList := by
  fun_induction tokensFrom pos text generalizing stream with
  | case1 pos =>
    injection h with h
    subst h
    simp
  | case2 pos c rest _ ih => exact ih h
  | case3 pos c rest _ fault => exact absurd h (by simp)
  | case4 pos c rest _ kind more _ e => exact absurd h (by simp)
  | case5 pos c rest _ kind more htoken behind hbehind ih =>
    injection h with h
    subst h
    intro t ht
    rcases List.mem_cons.mp ht with rfl | ht
    · simpa using (token_sound htoken).1
    · exact ih hbehind t ht

/-- A text that is read as a single token of a kind, which is all of the text. -/
def IsSoleToken (kind : TokenKind) (text : String) : Prop :=
  ∃ stop, tokenize text = .ok ⟨[⟨kind, text, .start⟩], stop⟩

/-- The texts that are read as a single token are the lexemes of its kind. -/
theorem isSoleToken_iff {kind : TokenKind} {text : String} :
    IsSoleToken kind text ↔ IsLexeme kind text.toList := by
  constructor
  · rintro ⟨stop, hstream⟩
    exact Lexer.isLexeme_of_tokensFrom hstream ⟨kind, text, .start⟩ (by simp)
  · intro h
    obtain ⟨c, rest, htext, hblank⟩ := h.exists_cons
    rw [htext] at h
    have htoken : Lexer.token c rest = .ok (kind, rest) := by
      simpa using Lexer.token_append h (IsBreak.nil.endsToken kind)
    have hwhole : String.ofList (c :: rest) = text := by
      rw [← htext, String.ofList_toList]
    refine ⟨Position.start.after (c :: rest), ?_⟩
    unfold tokenize
    rw [htext, Lexer.tokensFrom]
    simp [hblank, htoken, Lexer.tokensFrom, hwhole]

/-- A text that is read as some pieces wherever it starts has them as its tokens. -/
theorem Reads.tokenize {text : String} {pieces : List Piece} (h : Reads text.toList pieces) :
    ∃ stream, DeclScribe.tokenize text = .ok stream ∧ stream.tokens.map Token.piece = pieces :=
  h .start

end DeclScribe
