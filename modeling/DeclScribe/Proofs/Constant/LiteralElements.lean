import DeclScribe.Proofs.Constant.IntegerLiterals
import Mathlib.Tactic.FinCases

/-!
# Literals element by element

The body of a string or character literal is a list of elements: characters that stand for
themselves, escape sequences as the reader of tokens delimits them, and the doubled quotes of a
verbatim string. Every element names a code. The decoder looks at the body again and finds the same
elements, because an escape sequence ends for both at the same digit; it makes one character of
every element whose code is a Unicode scalar value, in order, and nothing of the others. So a
literal is decoded without loss exactly if none of its escape sequences names a surrogate or a
number that is too great.
-/

set_option autoImplicit false

namespace DeclScribe

open Lexer (startsWith simpleEscapes escapeDigits?)

namespace Literal

/-! ## Elements -/

/-- An element of the body of a literal. -/
inductive Element where
  /-- A character that stands for itself. -/
  | plain (c : Char)
  /-- An escape sequence, by what stands behind its backslash. -/
  | escape (sequence : List Char)
  /-- Two quotes in a verbatim string. -/
  | doubled
deriving Repr, DecidableEq

/-- The codes of the characters that the letters of simple escape sequences stand for. -/
def letterCodes : List (Char × Nat) :=
  [('\'', 0x27), ('"', 0x22), ('\\', 0x5c), ('0', 0x00), ('a', 0x07), ('b', 0x08), ('f', 0x0c),
   ('n', 0x0a), ('r', 0x0d), ('t', 0x09), ('v', 0x0b)]

/-- The code that an escape sequence names: the one of its letter, or the number that the
hexadecimal digits behind the letter are. -/
def escapeCode : List Char → Nat
  | [] => 0
  | letter :: digits =>
    (letterCodes.lookup letter).getD
      (Nat.ofDigits 16 (Numeral.digitValues .hexadecimal digits).reverse)

/-- The code that an element names. -/
def Element.code : Element → Nat
  | .plain c => c.toNat
  | .escape sequence => escapeCode sequence
  | .doubled => 0x22

/-- The elements of a regular literal behind its opening delimiter. An escape sequence is what the
reader of tokens takes as one. -/
@[mk_iff]
inductive IsRegularTail (delimiter : Char) : List Char → List Element → Prop
  | close : IsRegularTail delimiter [delimiter] []
  | plain (c : Char) (rest : List Char) (elements : List Element) : c ≠ '\n' → c ≠ delimiter →
      c ≠ '\\' → IsRegularTail delimiter rest elements →
      IsRegularTail delimiter (c :: rest) (.plain c :: elements)
  | escape (sequence rest : List Char) (elements : List Element) :
      Lexer.escape (sequence ++ rest) = .ok sequence → IsRegularTail delimiter rest elements →
      IsRegularTail delimiter ('\\' :: (sequence ++ rest)) (.escape sequence :: elements)

/-- The elements of a verbatim string behind its opening quote. -/
@[mk_iff]
inductive IsVerbatimTail : List Char → List Element → Prop
  | close : IsVerbatimTail ['"'] []
  | plain (c : Char) (rest : List Char) (elements : List Element) : c ≠ '"' →
      IsVerbatimTail rest elements → IsVerbatimTail (c :: rest) (.plain c :: elements)
  | doubled (rest : List Char) (elements : List Element) : IsVerbatimTail rest elements →
      IsVerbatimTail ('"' :: '"' :: rest) (.doubled :: elements)

/-- A literal with the elements of its body. -/
inductive HasElements : List Char → List Element → Prop
  | string (tail : List Char) (elements : List Element) : IsRegularTail '"' tail elements →
      HasElements ('"' :: tail) elements
  | char (tail : List Char) (elements : List Element) : IsRegularTail '\'' tail elements →
      HasElements ('\'' :: tail) elements
  | verbatim (tail : List Char) (elements : List Element) : IsVerbatimTail tail elements →
      HasElements ('@' :: '"' :: tail) elements

/-- The characters that elements are decoded to: one for each code that is a scalar value. -/
def IsDecodedTo (elements : List Element) (decoded : List Char) : Prop :=
  decoded.map Char.toNat = (elements.map Element.code).filter fun code => code.isValidChar

namespace IsDecodedTo

variable {elements : List Element} {decoded : List Char}

/-- No elements are decoded to no characters. -/
theorem nil : IsDecodedTo [] [] := rfl

/-- An element that names a scalar value stands for the character of that value. -/
theorem cons {element : Element} {c : Char} (hcode : c.toNat = element.code)
    (h : IsDecodedTo elements decoded) : IsDecodedTo (element :: elements) (c :: decoded) := by
  have hscalar : element.code.isValidChar := hcode ▸ c.valid
  unfold IsDecodedTo at h ⊢
  rw [List.map_cons, List.map_cons, List.filter_cons_of_pos (by simpa using hscalar), h, hcode]

/-- An element that names no scalar value stands for nothing. -/
theorem skip {element : Element} (hcode : ¬ element.code.isValidChar)
    (h : IsDecodedTo elements decoded) : IsDecodedTo (element :: elements) decoded := by
  unfold IsDecodedTo at h ⊢
  rw [List.map_cons, List.filter_cons_of_neg (by simpa using hcode), h]

/-- There is one character for each element if and only if every element names a scalar value. -/
theorem forall₂_iff (h : IsDecodedTo elements decoded) :
    List.Forall₂ (fun element c => Char.toNat c = element.code) elements decoded ↔
      ∀ element ∈ elements, element.code.isValidChar := by
  have hcodes : List.Forall₂ (fun element c => Char.toNat c = element.code) elements decoded ↔
      decoded.map Char.toNat = elements.map Element.code := by
    rw [← List.forall₂_eq_eq_eq, List.forall₂_map_left_iff, List.forall₂_map_right_iff]
    exact ⟨List.Forall₂.flip, List.Forall₂.flip⟩
  rw [hcodes, h, List.filter_eq_self, List.forall_mem_map]
  simp only [decide_eq_true_iff]

/-- A single element is decoded to its character, if it names one. -/
theorem singleton {element : Element} (h : IsDecodedTo [element] decoded) :
    (element.code.isValidChar → ∃ c, decoded = [c] ∧ c.toNat = element.code) ∧
      (¬ element.code.isValidChar → decoded = []) := by
  unfold IsDecodedTo at h
  rw [List.map_singleton] at h
  refine ⟨?_, ?_⟩
  · intro hscalar
    rw [List.filter_cons_of_pos (by simpa using hscalar), List.filter_nil,
      List.map_eq_singleton_iff] at h
    exact h
  · intro hscalar
    rw [List.filter_cons_of_neg (by simpa using hscalar), List.filter_nil, List.map_eq_nil_iff] at h
    exact h

end IsDecodedTo

end Literal

/-! ## Escape sequences -/

namespace Number

/-- A character has a value as a hexadecimal digit if it has a value below 16 as a digit. -/
theorem digitValue?_hexadecimal_iff {c : Char} {digit : Nat} :
    Radix.digitValue? c = some digit ↔ digitValue? c = some digit ∧ digit < 16 := by
  have hradix : Radix.digitValue? c =
      if 48 ≤ c.toNat ∧ c.toNat ≤ 57 then some (c.toNat - 48)
      else if 97 ≤ c.toNat ∧ c.toNat ≤ 102 then some (c.toNat - 87)
      else if 65 ≤ c.toNat ∧ c.toNat ≤ 70 then some (c.toNat - 55)
      else none := rfl
  have hread : digitValue? c =
      if 48 ≤ c.toNat ∧ c.toNat ≤ 57 then some (c.toNat - 48)
      else if 97 ≤ c.toNat ∧ c.toNat ≤ 122 then some (c.toNat - 87)
      else if 65 ≤ c.toNat ∧ c.toNat ≤ 90 then some (c.toNat - 55)
      else none := rfl
  rw [hradix, hread]
  split_ifs <;> simp only [Option.some.injEq, false_and, false_iff] <;> omega

/-- The decoder takes the same characters for hexadecimal digits as the reader of tokens. -/
theorem isSome_value?_singleton (c : Char) :
    (value? 16 [c]).isSome = Radix.hexadecimal.isDigit c := by
  cases hdigit : Radix.digitValue? c with
  | some digit =>
    obtain ⟨hvalue, hsmall⟩ := digitValue?_hexadecimal_iff.mp hdigit
    simp [value?, valueFrom?, Radix.isDigit, Radix.base, hdigit, hvalue, hsmall]
  | none =>
    have hnone : value? 16 [c] = none := by
      cases hvalue : digitValue? c with
      | none => simp [value?, valueFrom?, hvalue]
      | some digit =>
        have hgreat : ¬ digit < 16 := by
          intro hsmall
          rw [digitValue?_hexadecimal_iff.mpr ⟨hvalue, hsmall⟩] at hdigit
          exact absurd hdigit (by simp)
        simp [value?, valueFrom?, hvalue, hgreat]
    simp [hnone, Radix.isDigit, hdigit]

/-- Hexadecimal digits are read as the number that their positions give them. -/
theorem valueFrom?_of_isHexDigit {digits : List Char}
    (h : ∀ c ∈ digits, Radix.hexadecimal.isDigit c = true) :
    valueFrom? 16 0 digits =
      some (Nat.ofDigits 16 (Numeral.digitValues .hexadecimal digits).reverse) := by
  have hdigits : List.Forall₂ (fun c digit => digitValue? c = some digit ∧ digit < 16) digits
      (Numeral.digitValues .hexadecimal digits) := by
    induction digits with
    | nil => exact .nil
    | cons c rest ih =>
      obtain ⟨hc, hrest⟩ := List.forall_mem_cons.mp h
      obtain ⟨digit, hvalue, -⟩ := Numeral.exists_of_isDigit hc
      rw [Numeral.digitValues, List.filterMap_cons_some (by rw [if_pos hc, hvalue])]
      exact .cons (digitValue?_hexadecimal_iff.mp hvalue) (ih hrest)
  rw [valueFrom?_eq hdigits, Nat.zero_mul, Nat.zero_add]

end Number

namespace Decode

/-- The decoder reads at most as many digits behind a letter as the reader of tokens, and such a
letter has no meaning of its own. -/
theorem hexEscape?_of_escapeDigits? {letter : Char} {least most : Nat}
    (h : escapeDigits? letter = some (least, most)) :
    hexEscape? letter = some most ∧ Literal.letterCodes.lookup letter = none := by
  unfold escapeDigits? at h
  split at h
  case h_4 => exact absurd h (by simp)
  all_goals
    injection h with h
    injection h with _ h
    subst h
    exact ⟨rfl, by decide⟩

/-- A code that is a scalar value is that of a character. -/
theorem exists_scalar? {n : Nat} (h : n.isValidChar) : ∃ c, scalar? n = some c ∧ c.toNat = n := by
  refine ⟨Char.ofNat n, if_pos h, ?_⟩
  unfold Char.ofNat
  rw [dif_pos h]
  rfl

/-- A code that is no scalar value is that of no character. -/
theorem scalar?_eq_none {n : Nat} (h : ¬ n.isValidChar) : scalar? n = none :=
  if_neg h

/-- An escape sequence is decoded to the character it names, if it names one, whatever part of the
literal stands behind it. -/
theorem unescape_escape {sequence body behind : List Char}
    (h : Lexer.escape (sequence ++ (body ++ behind)) = .ok sequence) :
    unescape ('\\' :: (sequence ++ body)) =
      (scalar? (Literal.escapeCode sequence)).toList ++ unescape body := by
  rcases Lexer.escape_eq_ok_iff.mp h with ⟨letter, hletter, rfl⟩ |
    ⟨letter, least, most, digits, rfl, hbounds, -, hlength, hall, hend⟩
  · have hall : ∀ letter ∈ simpleEscapes, hexEscape? letter = none ∧
        scalar? (Literal.escapeCode [letter]) = some (escaped letter) := by
      intro letter hletter
      fin_cases hletter <;> exact ⟨rfl, rfl⟩
    obtain ⟨hcount, hmeaning⟩ := hall letter hletter
    rw [List.singleton_append, unescape_letter hcount, hmeaning]
    rfl
  · obtain ⟨hcount, hother⟩ := hexEscape?_of_escapeDigits? hbounds
    -- the digits end at the same place when the text does
    have hrun : hexRun most (digits ++ body) = digits := by
      unfold hexRun
      simp only [Number.isSome_value?_singleton]
      apply Lexer.takeWhile_take_append_iff.mpr
      refine ⟨hlength, hall, ?_⟩
      rcases hend with hfull | hstop
      · exact .inl hfull
      · right
        cases body with
        | nil => rfl
        | cons c rest => exact hstop
    have hcode : Literal.escapeCode (letter :: digits) =
        Nat.ofDigits 16 (Numeral.digitValues .hexadecimal digits).reverse := by
      rw [Literal.escapeCode, hother, Option.getD_none]
    rw [List.cons_append, unescape, if_pos rfl, hcount]
    simp only [hrun, List.drop_left, Number.valueFrom?_of_isHexDigit hall, Option.getD_some, hcode]

end Decode

/-! ## Bodies -/

namespace Literal

open Decode (unescape undouble)

/-- A regular literal is decoded element by element. -/
theorem IsRegularTail.exists_body {delimiter : Char} {tail : List Char} {elements : List Element}
    (h : IsRegularTail delimiter tail elements) :
    ∃ body, tail = body ++ [delimiter] ∧ IsDecodedTo elements (unescape body) := by
  induction h with
  | close =>
    refine ⟨[], rfl, ?_⟩
    rw [unescape]
    exact .nil
  | plain c rest elements _ _ hslash _ ih =>
    obtain ⟨body, rfl, hdecoded⟩ := ih
    refine ⟨c :: body, rfl, ?_⟩
    rw [Decode.unescape_cons hslash]
    exact hdecoded.cons rfl
  | escape sequence rest elements hsequence _ ih =>
    obtain ⟨body, rfl, hdecoded⟩ := ih
    refine ⟨'\\' :: (sequence ++ body), by simp, ?_⟩
    rw [Decode.unescape_escape hsequence]
    by_cases hscalar : (escapeCode sequence).isValidChar
    · obtain ⟨c, hc, hcode⟩ := Decode.exists_scalar? hscalar
      rw [hc]
      exact hdecoded.cons hcode
    · rw [Decode.scalar?_eq_none hscalar]
      exact hdecoded.skip hscalar

/-- Only quotes come doubled in a verbatim string. -/
theorem undouble_cons {c : Char} (hquote : c ≠ '"') (rest : List Char) :
    undouble (c :: rest) = c :: undouble rest := by
  rw [undouble]
  intro more hc
  exact absurd hc hquote

/-- A verbatim string is decoded element by element, and every element is a character. -/
theorem IsVerbatimTail.exists_body {tail : List Char} {elements : List Element}
    (h : IsVerbatimTail tail elements) :
    ∃ body, tail = body ++ ['"'] ∧ IsDecodedTo elements (undouble body) := by
  induction h with
  | close => exact ⟨[], rfl, .nil⟩
  | plain c rest elements hquote _ ih =>
    obtain ⟨body, rfl, hdecoded⟩ := ih
    refine ⟨c :: body, rfl, ?_⟩
    rw [undouble_cons hquote]
    exact hdecoded.cons rfl
  | doubled rest elements _ ih =>
    obtain ⟨body, rfl, hdecoded⟩ := ih
    refine ⟨'"' :: '"' :: body, rfl, ?_⟩
    rw [undouble]
    exact hdecoded.cons rfl

/-! ## What is read as a literal has elements -/

/-- What is read as the rest of a string has elements. -/
theorem exists_isRegularTail {tail : List Char} (h : Lexer.IsStringTail tail) :
    ∃ elements, IsRegularTail '"' tail elements := by
  induction h with
  | close => exact ⟨[], .close⟩
  | plain c rest hline hquote hslash _ ih =>
    obtain ⟨elements, helements⟩ := ih
    exact ⟨.plain c :: elements, .plain c rest elements hline hquote hslash helements⟩
  | escaped sequence rest hsequence _ ih =>
    obtain ⟨elements, helements⟩ := ih
    exact ⟨.escape sequence :: elements, .escape sequence rest elements hsequence helements⟩

/-- What is read as the rest of a verbatim string has elements. -/
theorem exists_isVerbatimTail {tail : List Char} (h : Lexer.IsVerbatimTail tail) :
    ∃ elements, IsVerbatimTail tail elements := by
  induction h with
  | close => exact ⟨[], .close⟩
  | doubled rest _ ih =>
    obtain ⟨elements, helements⟩ := ih
    exact ⟨.doubled :: elements, .doubled rest elements helements⟩
  | plain c rest hquote _ ih =>
    obtain ⟨elements, helements⟩ := ih
    exact ⟨.plain c :: elements, .plain c rest elements hquote helements⟩

/-- A character literal has a single element. -/
theorem exists_isRegularTail_of_isCharTail {tail : List Char} (h : Lexer.IsCharTail tail) :
    ∃ element, IsRegularTail '\'' tail [element] := by
  cases h with
  | plain c hline hquote hslash => exact ⟨.plain c, .plain c _ [] hline hquote hslash .close⟩
  | escaped sequence hsequence => exact ⟨.escape sequence, .escape sequence _ [] hsequence .close⟩

/-! ## The elements are determined by the text -/

/-- There is one way to divide a regular literal into elements: each character says whether it
closes the literal, stands for itself or opens an escape sequence, and the reader takes one sequence
only. -/
theorem IsRegularTail.eq_of_isRegularTail {delimiter : Char} (hdelimiter : delimiter ≠ '\\')
    {tail : List Char} {elements other : List Element} (h : IsRegularTail delimiter tail elements)
    (hother : IsRegularTail delimiter tail other) : other = elements := by
  induction h generalizing other with
  | close =>
    rcases (isRegularTail_iff ..).mp hother with ⟨-, rfl⟩ |
      ⟨c, rest, more, -, hc, -, -, htext, -⟩ | ⟨sequence, rest, more, -, -, htext, -⟩
    · rfl
    · exact absurd (List.cons.inj htext).1.symm hc
    · exact absurd (List.cons.inj htext).1 hdelimiter
  | plain c rest elements _ hc hslash _ ih =>
    rcases (isRegularTail_iff ..).mp hother with ⟨htext, -⟩ |
      ⟨d, behind, more, -, -, -, hmore, htext, rfl⟩ | ⟨sequence, behind, more, -, -, htext, -⟩
    · exact absurd (List.cons.inj htext).1 hc
    · obtain ⟨rfl, rfl⟩ := List.cons.inj htext
      rw [ih hmore]
    · exact absurd (List.cons.inj htext).1 hslash
  | escape sequence rest elements hsequence _ ih =>
    rcases (isRegularTail_iff ..).mp hother with ⟨htext, -⟩ |
      ⟨d, behind, more, -, -, hslash, -, htext, -⟩ |
      ⟨taken, behind, more, htaken, hmore, htext, rfl⟩
    · exact absurd (List.cons.inj htext).1.symm hdelimiter
    · exact absurd (List.cons.inj htext).1.symm hslash
    · -- the reader takes one sequence from the front of a text
      have hsame := (List.cons.inj htext).2
      rw [← hsame, hsequence] at htaken
      obtain rfl := Except.ok.inj htaken
      obtain rfl := List.append_cancel_left hsame
      rw [ih hmore]

/-- There is one way to divide a verbatim string into elements, since a quote that closes it has
nothing behind it. -/
theorem IsVerbatimTail.eq_of_isVerbatimTail {tail : List Char} {elements other : List Element}
    (h : IsVerbatimTail tail elements) (hother : IsVerbatimTail tail other) : other = elements := by
  induction h generalizing other with
  | close =>
    rcases (isVerbatimTail_iff ..).mp hother with ⟨-, rfl⟩ | ⟨c, rest, more, hc, -, htext, -⟩ |
      ⟨rest, more, -, htext, -⟩
    · rfl
    · exact absurd (List.cons.inj htext).1.symm hc
    · exact absurd (List.cons.inj htext).2 (by simp)
  | plain c rest elements hc _ ih =>
    rcases (isVerbatimTail_iff ..).mp hother with ⟨htext, -⟩ |
      ⟨d, behind, more, -, hmore, htext, rfl⟩ | ⟨behind, more, -, htext, -⟩
    · exact absurd (List.cons.inj htext).1 hc
    · obtain ⟨rfl, rfl⟩ := List.cons.inj htext
      rw [ih hmore]
    · exact absurd (List.cons.inj htext).1 hc
  | doubled rest elements _ ih =>
    rcases (isVerbatimTail_iff ..).mp hother with ⟨htext, -⟩ | ⟨d, behind, more, hd, -, htext, -⟩ |
      ⟨behind, more, hmore, htext, rfl⟩
    · exact absurd (List.cons.inj htext).2 (by simp)
    · exact absurd (List.cons.inj htext).1.symm hd
    · obtain rfl := (List.cons.inj (List.cons.inj htext).2).2
      rw [ih hmore]

/-- A literal has one list of elements, because its first characters say how it is to be divided. -/
theorem HasElements.eq_of_hasElements {text : List Char} {elements other : List Element}
    (h : HasElements text elements) (hother : HasElements text other) : other = elements := by
  cases h with
  | string tail _ h =>
    cases hother with
    | string _ _ hother => exact h.eq_of_isRegularTail (by decide) hother
  | char tail _ h =>
    cases hother with
    | char _ _ hother => exact h.eq_of_isRegularTail (by decide) hother
  | verbatim tail _ h =>
    cases hother with
    | verbatim _ _ hother => exact h.eq_of_isVerbatimTail hother

end Literal

/-! ## Literals -/

namespace Constant

open Literal (Element HasElements IsDecodedTo)

/-- The constant of a string literal is the text that its elements are decoded to. -/
theorem exists_ofLiteral_string {token : String} (h : IsLexeme .string token.toList) :
    ∃ elements decoded, HasElements token.toList elements ∧ IsDecodedTo elements decoded ∧
      (ofLiteral ⟨.string, token⟩).IsPrimitive (some "string")
        (.string (String.ofList decoded)) := by
  have hread : ofLiteral ⟨.string, token⟩ =
      ofString (String.ofList (Decode.string token.toList)) := rfl
  rw [hread]
  generalize token.toList = text at h
  cases h with
  | single _ c hc =>
    have hspelling := congrArg String.toList (TokenKind.spelling_of_ofChar? hc)
    exact absurd hspelling (by simp [TokenKind.spelling])
  | string tail htail =>
    obtain ⟨elements, helements⟩ := Literal.exists_isRegularTail htail
    obtain ⟨body, rfl, hdecoded⟩ := helements.exists_body
    refine ⟨elements, Decode.unescape body, .string _ elements helements, hdecoded, ?_⟩
    have hbody : Decode.string ('"' :: (body ++ ['"'])) = Decode.unescape body :=
      congrArg Decode.unescape (Literal.inside_enclosed '"' body)
    rw [hbody]
    exact ⟨rfl, rfl, rfl⟩
  | verbatim tail htail =>
    obtain ⟨elements, helements⟩ := Literal.exists_isVerbatimTail htail
    obtain ⟨body, rfl, hdecoded⟩ := helements.exists_body
    refine ⟨elements, Decode.undouble body, .verbatim _ elements helements, hdecoded, ?_⟩
    have hbody : Decode.string ('@' :: '"' :: (body ++ ['"'])) = Decode.undouble body :=
      congrArg Decode.undouble (Literal.inside_enclosed '"' body)
    rw [hbody]
    exact ⟨rfl, rfl, rfl⟩

/-- The constant of a character literal is the character that its one element is decoded to, or null
if that is none. -/
theorem exists_ofLiteral_char {token : String} (h : IsLexeme .char token.toList) :
    ∃ element decoded, HasElements token.toList [element] ∧ IsDecodedTo [element] decoded ∧
      ofLiteral ⟨.char, token⟩ = (decoded.head?.map ofChar).getD null := by
  have hread : ofLiteral ⟨.char, token⟩ = ((Decode.char? token.toList).map ofChar).getD null := by
    unfold ofLiteral
    cases Decode.char? token.toList <;> rfl
  rw [hread]
  generalize token.toList = text at h
  cases h with
  | single _ c hc =>
    have hspelling := congrArg String.toList (TokenKind.spelling_of_ofChar? hc)
    exact absurd hspelling (by simp [TokenKind.spelling])
  | char tail htail =>
    obtain ⟨element, helement⟩ := Literal.exists_isRegularTail_of_isCharTail htail
    obtain ⟨body, rfl, hdecoded⟩ := helement.exists_body
    refine ⟨element, Decode.unescape body, .char _ _ helement, hdecoded, ?_⟩
    rw [Decode.char?, Literal.inside_enclosed]

/-- Decoding a literal loses nothing exactly if each of its elements names a scalar value. A string
literal becomes one character for each element, in order, less the elements that name none; a
character literal, which has one element, becomes that character, or null. -/
theorem decoding_keeps_elements_iff {text : String} {stream : TokenStream}
    (h : tokenize text = .ok stream) {t : Token} (ht : t ∈ stream.tokens) :
    (t.kind = .string → ∃ elements decoded, HasElements t.lexeme.toList elements ∧
        (∀ other, HasElements t.lexeme.toList other → other = elements) ∧
        (ofLiteral ⟨.string, t.lexeme⟩).IsPrimitive (some "string")
          (.string (String.ofList decoded)) ∧
        IsDecodedTo elements decoded ∧
        (List.Forall₂ (fun element c => Char.toNat c = element.code) elements decoded ↔
          ∀ element ∈ elements, element.code.isValidChar)) ∧
      (t.kind = .char → ∃ element, HasElements t.lexeme.toList [element] ∧
        (∀ other, HasElements t.lexeme.toList other → other = [element]) ∧
        (element.code.isValidChar →
          ∃ c, c.toNat = element.code ∧
            (ofLiteral ⟨.char, t.lexeme⟩).IsPrimitive (some "char") (.char c)) ∧
        (¬ element.code.isValidChar →
          (ofLiteral ⟨.char, t.lexeme⟩).IsPrimitive none .null)) := by
  have hlexeme := Lexer.isLexeme_of_tokensFrom h t ht
  refine ⟨?_, ?_⟩
  · intro hkind
    rw [hkind] at hlexeme
    obtain ⟨elements, decoded, helements, hdecoded, hread⟩ := exists_ofLiteral_string hlexeme
    exact ⟨elements, decoded, helements, fun _ => helements.eq_of_hasElements, hread, hdecoded,
      hdecoded.forall₂_iff⟩
  · intro hkind
    rw [hkind] at hlexeme
    obtain ⟨element, decoded, helement, hdecoded, hread⟩ := exists_ofLiteral_char hlexeme
    -- the one element is decoded to one character or to none
    obtain ⟨hkept, hlost⟩ := hdecoded.singleton
    refine ⟨element, helement, fun _ => helement.eq_of_hasElements, ?_, ?_⟩
    · intro hscalar
      obtain ⟨c, rfl, hcode⟩ := hkept hscalar
      rw [hread]
      exact ⟨c, hcode, rfl, rfl, rfl⟩
    · intro hscalar
      rw [hread, hlost hscalar]
      exact ⟨rfl, rfl, rfl⟩

/-- The first escape sequence ends before a letter that is no digit, the second one at its eighth
digit, and the surrogate at the end stands for nothing. -/
theorem decoding_keeps_elements_iff_sample :
    tokenize "\"\\x41g\\U000000e90\\uD800\"" =
        .ok ⟨[⟨.string, "\"\\x41g\\U000000e90\\uD800\"", .start⟩], ⟨24, 1, 25⟩⟩ ∧
      ∃ decoded, (ofLiteral ⟨.string, "\"\\x41g\\U000000e90\\uD800\""⟩).IsPrimitive
          (some "string") (.string (String.ofList decoded)) ∧
        IsDecodedTo [.escape "x41".toList, .plain 'g', .escape "U000000e9".toList, .plain '0',
          .escape "uD800".toList] decoded := by
  have hread : tokenize "\"\\x41g\\U000000e90\\uD800\"" =
      .ok ⟨[⟨.string, "\"\\x41g\\U000000e90\\uD800\"", .start⟩], ⟨24, 1, 25⟩⟩ := by decide +kernel
  have helements : HasElements "\"\\x41g\\U000000e90\\uD800\"".toList [.escape "x41".toList,
      .plain 'g', .escape "U000000e9".toList, .plain '0', .escape "uD800".toList] :=
    .string _ _ (.escape "x41".toList _ _ rfl (.plain 'g' _ _ (by decide) (by decide) (by decide)
      (.escape "U000000e9".toList _ _ rfl (.plain '0' _ _ (by decide) (by decide) (by decide)
        (.escape "uD800".toList ['"'] _ rfl .close)))))
  obtain ⟨elements, decoded, -, hunique, hconstant, hdecoded, -⟩ :=
    (decoding_keeps_elements_iff hread (List.mem_singleton_self _)).1 rfl
  rw [← hunique _ helements] at hdecoded
  exact ⟨hread, decoded, hconstant, hdecoded⟩

/-- The literal of a surrogate is a character literal and reads as null, and a string of one loses
it. -/
theorem surrogate_literals_lose_element :
    tokenize "'\\uD800'" = .ok ⟨[⟨.char, "'\\uD800'", .start⟩], ⟨8, 1, 9⟩⟩ ∧
      HasElements "'\\uD800'".toList [.escape "uD800".toList] ∧
      (ofLiteral ⟨.char, "'\\uD800'"⟩).IsPrimitive none .null ∧
      tokenize "\"\\uD800\"" = .ok ⟨[⟨.string, "\"\\uD800\"", .start⟩], ⟨8, 1, 9⟩⟩ ∧
      HasElements "\"\\uD800\"".toList [.escape "uD800".toList] ∧
      (ofLiteral ⟨.string, "\"\\uD800\""⟩).IsPrimitive (some "string") (.string "") := by
  have hchar : Decode.char? "'\\uD800'".toList = none := by decide +kernel
  have hstring : Decode.string "\"\\uD800\"".toList = [] := by decide +kernel
  refine ⟨by decide +kernel, .char _ _ (.escape "uD800".toList ['\''] _ rfl .close), ?_,
    by decide +kernel, .string _ _ (.escape "uD800".toList ['"'] _ rfl .close), ?_⟩
  · unfold ofLiteral
    simp only [hchar]
    exact ⟨rfl, rfl, rfl⟩
  · unfold ofLiteral
    simp only [hstring]
    exact ⟨rfl, rfl, rfl⟩

end Constant

end DeclScribe
