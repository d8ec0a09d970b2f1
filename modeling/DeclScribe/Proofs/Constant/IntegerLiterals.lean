import DeclScribe.Proofs.Constant.Literals
import Mathlib.Data.Nat.Digits.Defs
import Mathlib.Tactic.Ring

/-!
# Integer literals

What an integer literal denotes is said here from its characters: its base from the first two of
them, its value from the digits of that base, and the types it can have from the letters `u` and
`l`. The reader goes another way, by a lower case text whose end is cut off at the suffix, and
arrives at the same constant: the value in the first type whose range holds it, or the text if there
is none.
-/

set_option autoImplicit false

namespace DeclScribe

open Lexer (startsWith)

/-! ## Types of literals -/

/-- A type of integer literals, by the width of its words and whether they have a sign. -/
structure LiteralType where
  word : String
  isUnsigned : Bool
  bits : Nat
deriving Repr, DecidableEq

namespace LiteralType

/-- The types of integer literals, in the order in which they are tried. -/
def all : List LiteralType :=
  [⟨"int", false, 32⟩, ⟨"uint", true, 32⟩, ⟨"long", false, 64⟩, ⟨"ulong", true, 64⟩]

/-- The integers that a type holds. -/
def range (type : LiteralType) : IntRange :=
  if type.isUnsigned then .unsigned type.bits else .signed type.bits

/-- An integer as a value of the type. -/
def value (type : LiteralType) (n : Int) : ConstantValue :=
  if type.isUnsigned then .uint n.toNat else .int n

end LiteralType

namespace Numeral

/-! ## What an integer literal stands for -/

/-- The base of a number. -/
def radix (text : List Char) : Radix :=
  (Radix.announced? text).getD .decimal

/-- A number without the mark of its base. -/
def unmarked (text : List Char) : List Char :=
  if (Radix.announced? text).isSome then text.drop 2 else text

/-- The values of the digits of a base in a text, whatever stands between them. -/
def digitValues (radix : Radix) (text : List Char) : List Nat :=
  text.filterMap fun c => if radix.isDigit c then Radix.digitValue? c else none

/-- The value of the digits of an integer literal, the last of which counts ones. -/
def value (text : List Char) : Nat :=
  Nat.ofDigits (radix text).base (digitValues (radix text) (unmarked text)).reverse

/-- Whether a letter stands in a text, in either case. -/
def hasLetter (letter : Char) (text : List Char) : Bool :=
  (text.map Char.toLower).contains letter

/-- The types that the suffix of an integer literal leaves: unsigned ones behind `u`, ones of 64
bits behind `l`. -/
def types (text : List Char) : List LiteralType :=
  LiteralType.all.filter fun type =>
    (type.isUnsigned || !hasLetter 'u' text) && (type.bits == 64 || !hasLetter 'l' text)

/-- Whether a number has no point, no exponent and no suffix of real numbers. The letters of the
latter two are digits behind the mark of a base. -/
def isInteger (text : List Char) : Bool :=
  !text.contains '.' && ((Radix.announced? text).isSome ||
    ['e', 'f', 'd', 'm'].all fun letter => !hasLetter letter text)

/-! ## The parts of an integer literal -/

variable {text digits suffix : List Char} {base : Radix}

/-- The mark of a base in lower case. -/
def markOf : Radix → List Char
  | .binary => ['0', 'b']
  | .decimal => []
  | .hexadecimal => ['0', 'x']

/-- The parts of an integer literal: the mark of its base, digits and an integer suffix. -/
structure HasParts (text : List Char) (base : Radix) (mark digits suffix : List Char) : Prop where
  text_eq : text = mark ++ digits ++ suffix
  radix_eq : radix text = base
  unmarked_eq : unmarked text = digits ++ suffix
  mark_lower : mark.map Char.toLower = markOf base
  run : IsRun base digits
  hasDigit : base.hasDigit digits = true
  suffix : IsSuffix false false suffix

/-- A letter stands in a text that is put together if it stands in one of the parts. -/
theorem hasLetter_append (letter : Char) (text more : List Char) :
    hasLetter letter (text ++ more) = (hasLetter letter text || hasLetter letter more) := by
  rw [hasLetter, List.map_append, List.contains_append]
  rfl

/-- A suffix of a decimal that has none of the letters of real numbers is an integer suffix. -/
theorem IsSuffix.integer_of_letters {isReal : Bool} (h : IsSuffix true isReal suffix)
    (hletters : ∀ letter ∈ ['f', 'd', 'm'], hasLetter letter suffix = false) :
    IsSuffix false false suffix := by
  cases h with
  | absent => exact .absent
  | real c _ hc =>
    have hnone := hletters c.toLower hc
    exact absurd hnone (by simp [hasLetter])
  | integer c _ hc => exact .integer c rfl hc
  | pair c d _ hcd => exact .pair c d rfl hcd

/-- The two characters that announce a base are its mark in one of the letter cases. -/
theorem markOf_of_announced? {mark : List Char} (hlength : mark.length = 2)
    (h : Radix.announced? mark = some base) : mark.map Char.toLower = markOf base := by
  obtain ⟨c, d, rfl⟩ := List.length_eq_two.mp hlength
  unfold Radix.announced? at h
  split at h
  case h_5 => exact absurd h (by simp)
  all_goals
    rename_i heq
    injection heq with hc hd
    injection hd with hd
    obtain rfl := Option.some.inj h
    rw [hc, hd]
    rfl

/-- A number whose base is announced falls into the mark, the digits and the suffix. -/
theorem hasParts_announced {mark : List Char} (hlength : mark.length = 2)
    (hmark : Radix.announced? mark = some base) (hdigits : IsRun base digits)
    (hhas : base.hasDigit digits = true) (hsuffix : IsSuffix false false suffix) :
    HasParts (mark ++ digits ++ suffix) base mark digits suffix := by
  have hannounced : Radix.announced? (mark ++ digits ++ suffix) = some base := by
    rw [List.append_assoc, Radix.announced?_append _ hlength, hmark]
  have hdrop : (mark ++ digits ++ suffix).drop 2 = digits ++ suffix := by
    rw [List.append_assoc, ← hlength, List.drop_left]
  refine ⟨rfl, ?_, ?_, markOf_of_announced? hlength hmark, hdigits, hhas, hsuffix⟩
  · rw [radix, hannounced, Option.getD_some]
  · rw [unmarked, hannounced, Option.isSome_some, if_pos rfl, hdrop]

/-- A number that announces no base falls into digits and a suffix, and starts with a digit. -/
theorem hasParts_decimal (hannounced : Radix.announced? (digits ++ suffix) = none)
    (hdigits : IsRun .decimal digits) (hstart : startsWith Radix.decimal.isDigit digits = true)
    (hsuffix : IsSuffix false false suffix) :
    HasParts (digits ++ suffix) .decimal [] digits suffix := by
  refine ⟨rfl, ?_, ?_, rfl, hdigits, ?_, hsuffix⟩
  · rw [radix, hannounced, Option.getD_none]
  · rw [unmarked, hannounced, Option.isSome_none, if_neg (by simp)]
  · cases digits with
    | nil => exact absurd hstart (by simp)
    | cons c rest =>
      rw [startsWith_cons] at hstart
      simp [Radix.hasDigit, hstart]

/-- A fraction shows its point. -/
theorem IsFraction.eq_nil {fraction : List Char} (h : IsFraction fraction)
    (hpoint : '.' ∉ fraction) : fraction = [] := by
  cases h with
  | absent => rfl
  | point digit rest _ _ => exact absurd hpoint (by simp)

/-- An exponent shows its letter. -/
theorem IsExponent.eq_nil {exponent : List Char} (h : IsExponent exponent)
    (hletter : hasLetter 'e' exponent = false) : exponent = [] := by
  cases h with
  | absent => rfl
  | marked mark signs rest hmark _ _ _ =>
    simp only [Bool.or_eq_true, beq_iff_eq] at hmark
    rcases hmark with rfl | rfl <;> exact absurd hletter (by simp [hasLetter])

/-- An integer literal has its parts. -/
theorem exists_hasParts (h : IsNumeral text) (hinteger : isInteger text = true) :
    ∃ base mark digits suffix, HasParts text base mark digits suffix := by
  simp only [isInteger, Bool.and_eq_true, Bool.or_eq_true, Bool.not_eq_true', List.all_eq_true,
    List.contains_eq_mem, decide_eq_false_iff_not] at hinteger
  obtain ⟨hpoint, hmarked⟩ := hinteger
  cases h with
  | announced mark digits suffix base hlength hmark hdigits hhas hsuffix =>
    exact ⟨base, mark, digits, suffix, hasParts_announced hlength hmark hdigits hhas hsuffix⟩
  | decimal whole fraction exponent suffix hwhole hfraction hexponent hstart hsuffix =>
    have hannounced : Radix.announced? (whole ++ fraction ++ exponent ++ suffix) = none := by
      have hread := announced?_decimal hwhole hfraction hexponent hstart hsuffix (startsWith_nil _)
      rwa [List.append_nil, ← List.append_assoc, ← List.append_assoc] at hread
    have hletters := hmarked.resolve_left (by rw [hannounced]; simp)
    simp only [hasLetter_append, Bool.or_eq_false_iff] at hletters
    simp only [List.mem_append, not_or] at hpoint
    obtain rfl := hfraction.eq_nil hpoint.1.1.2
    obtain rfl := hexponent.eq_nil (hletters 'e' (by simp)).1.2
    have hstart : startsWith Radix.decimal.isDigit whole = true := by
      simpa using hstart
    have hsuffix : IsSuffix false false suffix := by
      refine hsuffix.integer_of_letters ?_
      intro letter hletter
      exact (hletters letter (List.mem_cons_of_mem _ hletter)).2
    simp only [List.append_nil] at hannounced ⊢
    exact ⟨.decimal, [], whole, suffix, hasParts_decimal hannounced hwhole hstart hsuffix⟩

/-! ## Reading the parts -/

/-- A text as the reader takes it: without separators and in lower case. -/
def normalized (text : List Char) : List Char :=
  (text.filter (· != '_')).map Char.toLower

/-- Normalizing goes character by character, so each part of a literal can be normalized on its own.
-/
theorem normalized_append (text more : List Char) :
    normalized (text ++ more) = normalized text ++ normalized more := by
  rw [normalized, List.filter_append, List.map_append]
  rfl

/-- Without separators only the letter case changes. -/
theorem normalized_of_notMem (h : '_' ∉ text) : normalized text = text.map Char.toLower := by
  have hfilter : text.filter (· != '_') = text := by
    rw [List.filter_eq_self]
    intro c hc
    have hne : c ≠ '_' := by
      rintro rfl
      exact h hc
    simp [hne]
  rw [normalized, hfilter]

/-- A character that lower case does not change is in a text only if it is there in lower case. -/
theorem notMem_of_toLower {c : Char} (hc : c.toLower = c) (h : c ∉ text.map Char.toLower) :
    c ∉ text := by
  intro hmem
  exact h (List.mem_map.mpr ⟨c, hmem, hc⟩)

/-- The mark of a base holds no separator, and is lower case for the reader. -/
theorem HasParts.normalized_mark {mark : List Char} (h : HasParts text base mark digits suffix) :
    normalized mark = markOf base := by
  have hmark : '_' ∉ mark := by
    refine notMem_of_toLower rfl ?_
    rw [h.mark_lower]
    cases base <;> decide
  rw [normalized_of_notMem hmark, h.mark_lower]

/-- The letters of an integer suffix, in lower case. -/
theorem IsSuffix.isIntegerSuffix (h : IsSuffix false false suffix) {c : Char}
    (hc : c ∈ suffix.map Char.toLower) : Constant.isIntegerSuffix c = true := by
  cases h with
  | absent => exact absurd hc (by simp)
  | real d hdecimal _ => exact absurd hdecimal (by simp)
  | integer d _ hd =>
    obtain rfl : c = d.toLower := by simpa using hc
    simpa [Constant.isIntegerSuffix] using hd
  | pair d e _ hde =>
    simp only [List.mem_cons, List.not_mem_nil, or_false, Prod.mk.injEq] at hde
    simp only [List.map_cons, List.map_nil, List.mem_cons, List.not_mem_nil, or_false] at hc
    rcases hde with ⟨hd, he⟩ | ⟨hd, he⟩ <;> rcases hc with rfl | rfl <;>
      simp [hd, he, Constant.isIntegerSuffix]

/-- A suffix holds no separator. -/
theorem IsSuffix.normalized (h : IsSuffix false false suffix) :
    normalized suffix = suffix.map Char.toLower := by
  refine normalized_of_notMem (notMem_of_toLower rfl ?_)
  intro hmem
  exact absurd (h.isIntegerSuffix hmem) (by decide)

/-! ## Reading the digits -/

/-- A character that counts as a digit has a value below the base. -/
theorem exists_of_isDigit {c : Char} (h : base.isDigit c = true) :
    ∃ digit, Radix.digitValue? c = some digit ∧ digit < base.base := by
  unfold Radix.isDigit at h
  split at h
  · rename_i digit hdigit
    exact ⟨digit, hdigit, of_decide_eq_true h⟩
  · exact absurd h (by simp)

/-- The separator is a digit in no base. -/
theorem ne_separator_of_isDigit {c : Char} (h : base.isDigit c = true) : c ≠ '_' := by
  rintro rfl
  cases base <;> exact absurd h (by decide)

/-- The value of a digit is the same in either letter case. -/
theorem digitValue?_toLower {c : Char} (h : base.isDigit c = true) :
    Number.digitValue? c.toLower = Radix.digitValue? c := by
  have hbounds : (48 ≤ c.toNat ∧ c.toNat ≤ 57) ∨ (97 ≤ c.toNat ∧ c.toNat ≤ 102) ∨
    (65 ≤ c.toNat ∧ c.toNat ≤ 70) := Radix.bounds_of_isDigit h
  have hlower := toNat_toLower c
  have hread : Number.digitValue? c.toLower =
      if 48 ≤ c.toLower.toNat ∧ c.toLower.toNat ≤ 57 then some (c.toLower.toNat - 48)
      else if 97 ≤ c.toLower.toNat ∧ c.toLower.toNat ≤ 122 then some (c.toLower.toNat - 87)
      else if 65 ≤ c.toLower.toNat ∧ c.toLower.toNat ≤ 90 then some (c.toLower.toNat - 55)
      else none := rfl
  have hvalue : Radix.digitValue? c =
      if 48 ≤ c.toNat ∧ c.toNat ≤ 57 then some (c.toNat - 48)
      else if 97 ≤ c.toNat ∧ c.toNat ≤ 102 then some (c.toNat - 87)
      else if 65 ≤ c.toNat ∧ c.toNat ≤ 70 then some (c.toNat - 55)
      else none := rfl
  rw [hread, hvalue]
  split_ifs <;> first | omega | (congr 1; omega)

end Numeral

/-- Digits of a base have the value that the positions of the digits give them. -/
theorem Number.valueFrom?_eq {base : Nat} {text : List Char} {digits : List Nat}
    (h : List.Forall₂ (fun c digit => digitValue? c = some digit ∧ digit < base) text digits)
    (high : Nat) :
    valueFrom? base high text =
      some (high * base ^ digits.length + Nat.ofDigits base digits.reverse) := by
  induction h generalizing high with
  | nil => simp [valueFrom?]
  | @cons c digit text digits hc _ ih =>
    obtain ⟨hvalue, hsmall⟩ := hc
    have hsum : (high * base + digit) * base ^ digits.length + Nat.ofDigits base digits.reverse =
        high * base ^ (digit :: digits).length + Nat.ofDigits base (digit :: digits).reverse := by
      rw [List.reverse_cons, Nat.ofDigits_append, Nat.ofDigits_singleton, List.length_reverse,
        List.length_cons, pow_succ]
      ring
    rw [valueFrom?, hvalue]
    simp only [hsmall, if_true]
    rw [ih, hsum]

namespace Numeral

variable {text mark digits suffix : List Char} {base : Radix}

/-- What is left of a run without its separators are its digits. -/
theorem IsRun.forall₂_normalized (h : IsRun base digits) :
    List.Forall₂ (fun c digit => Number.digitValue? c = some digit ∧ digit < base.base)
      (normalized digits) (digitValues base digits) := by
  induction digits with
  | nil => exact .nil
  | cons c rest ih =>
    obtain ⟨hc, hrest⟩ := List.forall_mem_cons.mp h
    cases hdigit : base.isDigit c with
    | true =>
      have hne := ne_separator_of_isDigit hdigit
      obtain ⟨digit, hvalue, hsmall⟩ := exists_of_isDigit hdigit
      have hread := (digitValue?_toLower hdigit).trans hvalue
      rw [normalized, List.filter_cons_of_pos (by simp [hne]), List.map_cons, digitValues,
        List.filterMap_cons_some (by rw [if_pos hdigit, hvalue])]
      exact .cons ⟨hread, hsmall⟩ (ih hrest)
    | false =>
      obtain rfl : c = '_' := by simpa [hdigit] using hc
      rw [normalized, List.filter_cons_of_neg (by simp), digitValues,
        List.filterMap_cons_none (by simp [hdigit])]
      exact ih hrest

/-- The characters of a normalized text, by where they come from. -/
theorem mem_normalized {c : Char} :
    c ∈ normalized text ↔ ∃ d ∈ text, d ≠ '_' ∧ d.toLower = c := by
  simp [normalized, and_assoc]

/-- What stands in a run of digits is a digit or the separator. -/
theorem IsRun.isDigit_of_mem {c : Char} (h : IsRun base digits) (hc : c ∈ digits) (hne : c ≠ '_') :
    base.isDigit c = true := by
  simpa [hne] using h c hc

/-- No digit is a letter of an integer suffix. -/
theorem isIntegerSuffix_eq_false_of_isDigit {c : Char} (h : base.isDigit c = true) :
    Constant.isIntegerSuffix c.toLower = false := by
  cases hsuffix : Constant.isIntegerSuffix c.toLower with
  | false => rfl
  | true =>
    have hrun : (base.isDigit c || c == '_') = true := by
      rw [h, Bool.true_or]
    have hnone : c.toLower ∉ suffixLetters false := toLower_not_mem_of_run (by simp) hrun
    refine absurd ?_ hnone
    simpa [suffixLetters, Constant.isIntegerSuffix] using hsuffix

namespace HasParts

/-! ## Reading the whole literal -/

/-- The suffix holds no digits. -/
theorem digitValues_eq (h : HasParts text base mark digits suffix) :
    digitValues base (digits ++ suffix) = digitValues base digits := by
  have hnone : digitValues base suffix = [] := by
    rw [digitValues, List.filterMap_eq_nil_iff]
    intro c hc
    have hsuffix := h.suffix.isIntegerSuffix (List.mem_map_of_mem hc)
    have hdigit : ¬ base.isDigit c = true := by
      intro hdigit
      rw [isIntegerSuffix_eq_false_of_isDigit hdigit] at hsuffix
      exact absurd hsuffix (by simp)
    exact if_neg hdigit
  rw [digitValues, List.filterMap_append]
  exact (congrArg (digitValues base digits ++ ·) hnone).trans (List.append_nil _)

/-- A literal has a digit, so there is one left to read. -/
theorem normalized_ne_nil (h : HasParts text base mark digits suffix) : normalized digits ≠ [] := by
  obtain ⟨c, hc, hdigit⟩ := List.any_eq_true.mp h.hasDigit
  exact List.ne_nil_of_mem (mem_normalized.mpr ⟨c, hc, ne_separator_of_isDigit hdigit, rfl⟩)

/-- The digits are read as the value of the literal. -/
theorem value?_normalized (h : HasParts text base mark digits suffix) :
    Number.value? base.base (normalized digits) = some (value text) := by
  have hread := Number.valueFrom?_eq h.run.forall₂_normalized 0
  have hvalue : value text = Nat.ofDigits base.base (digitValues base digits).reverse := by
    rw [value, h.radix_eq, h.unmarked_eq, h.digitValues_eq]
  rw [Nat.zero_mul, Nat.zero_add, ← hvalue] at hread
  cases hdigits : normalized digits with
  | nil => exact absurd hdigits h.normalized_ne_nil
  | cons c rest =>
    rw [hdigits] at hread
    exact hread

/-- The suffix is not cut into the digits: no digit is a letter of it, not even in base sixteen. -/
theorem isIntegerSuffix_eq_false (h : HasParts text base mark digits suffix) {c : Char}
    (hc : c ∈ normalized digits) : Constant.isIntegerSuffix c = false := by
  obtain ⟨d, hd, hne, rfl⟩ := mem_normalized.mp hc
  exact isIntegerSuffix_eq_false_of_isDigit (h.run.isDigit_of_mem hd hne)

/-- The digits are what is left when the suffix is cut off. -/
theorem trimEnd_eq (h : HasParts text base mark digits suffix) :
    Constant.trimEnd Constant.isIntegerSuffix (normalized digits ++ suffix.map Char.toLower) =
      normalized digits :=
  Constant.trimEnd_append (fun _ hc => h.isIntegerSuffix_eq_false hc)
    fun _ hc => h.suffix.isIntegerSuffix hc

/-- A decimal literal without its separators is made of digits and suffix letters. -/
theorem isInteger_body (h : HasParts text .decimal mark digits suffix) {c : Char}
    (hc : c ∈ normalized digits ++ suffix.map Char.toLower) :
    c.isDigit = true ∨ Constant.isIntegerSuffix c = true := by
  rcases List.mem_append.mp hc with hc | hc
  · left
    obtain ⟨d, hd, hne, rfl⟩ := mem_normalized.mp hc
    have hdigit : d.isDigit = true := by
      rw [← Radix.isDigit_decimal]
      exact h.run.isDigit_of_mem hd hne
    rw [Constant.toLower_of_isDigit hdigit]
    exact hdigit
  · exact .inr (h.suffix.isIntegerSuffix hc)

/-- The mark of the base is found and left out. -/
theorem radixAndBody_eq (h : HasParts text base mark digits suffix) :
    Constant.radixAndBody (normalized text) =
      (base.base, normalized digits ++ suffix.map Char.toLower) := by
  have htext : normalized text = markOf base ++ (normalized digits ++ suffix.map Char.toLower) := by
    rw [h.text_eq, normalized_append, normalized_append, h.normalized_mark, h.suffix.normalized,
      List.append_assoc]
  rw [htext]
  cases base with
  | binary => rfl
  | hexadecimal => rfl
  | decimal => exact Constant.radixAndBody_of_integer fun c hc => h.isInteger_body hc

/-- No integer literal is taken for a real one. -/
theorem isReal_eq (h : HasParts text base mark digits suffix) :
    (base.base == 10 &&
      Constant.isReal (normalized digits ++ suffix.map Char.toLower)) = false := by
  cases base with
  | binary => rfl
  | hexadecimal => rfl
  | decimal =>
    rw [Constant.isReal_of_integer fun c hc => h.isInteger_body hc]
    rfl

/-- The letters of the suffix stand nowhere else in the literal. -/
theorem contains_suffix (h : HasParts text base mark digits suffix) {letter : Char}
    (hletter : Constant.isIntegerSuffix letter = true) :
    (suffix.map Char.toLower).contains letter = hasLetter letter text := by
  have hmark : hasLetter letter mark = false := by
    rw [hasLetter, h.mark_lower]
    simp only [Constant.isIntegerSuffix, Bool.or_eq_true, beq_iff_eq] at hletter
    rcases hletter with rfl | rfl <;> cases base <;> decide
  have hdigits : hasLetter letter digits = false := by
    rw [hasLetter, List.contains_eq_mem, decide_eq_false_iff_not]
    intro hmem
    obtain ⟨c, hc, rfl⟩ := List.mem_map.mp hmem
    by_cases hne : c = '_'
    · subst hne
      exact absurd hletter (by decide)
    · rw [isIntegerSuffix_eq_false_of_isDigit (h.run.isDigit_of_mem hc hne)] at hletter
      exact absurd hletter (by simp)
  rw [h.text_eq, hasLetter_append, hasLetter_append, hmark, hdigits, Bool.false_or, Bool.false_or]
  rfl

end HasParts

end Numeral

/-! ## Finding the type -/

/-- A type as the language has it. -/
def IntegerType.literalType : IntegerType → LiteralType
  | .int => ⟨"int", false, 32⟩
  | .uint => ⟨"uint", true, 32⟩
  | .long => ⟨"long", false, 64⟩
  | .ulong => ⟨"ulong", true, 64⟩

namespace IntegerType

/-- A magnitude lies in the range of a type exactly if it is not greater than the greatest one. -/
theorem holds_range (type : IntegerType) (n : Nat) :
    type.literalType.range.holds n = decide (n ≤ type.greatest) := by
  have hiff : type.literalType.range.holds n = true ↔ n ≤ type.greatest := by
    rw [IntRange.holds_iff]
    cases type
    case int =>
      change -(2 ^ 31 : Int) ≤ n ∧ (n : Int) ≤ 2 ^ 31 - 1 ↔ n ≤ 2 ^ 31 - 1
      omega
    case uint =>
      change (0 : Int) ≤ n ∧ (n : Int) ≤ 2 ^ 32 - 1 ↔ n ≤ 2 ^ 32 - 1
      omega
    case long =>
      change -(2 ^ 63 : Int) ≤ n ∧ (n : Int) ≤ 2 ^ 63 - 1 ↔ n ≤ 2 ^ 63 - 1
      omega
    case ulong =>
      change (0 : Int) ≤ n ∧ (n : Int) ≤ 2 ^ 64 - 1 ↔ n ≤ 2 ^ 64 - 1
      omega
  rw [Bool.eq_iff_iff, hiff, decide_eq_true_iff]

/-- Both descriptions of a type call it by the same word. -/
@[simp] theorem word_literalType (type : IntegerType) : type.literalType.word = type.word := by
  cases type <;> rfl

/-- Both descriptions of a type make the same value of a magnitude. -/
@[simp] theorem value_literalType (type : IntegerType) (n : Nat) :
    type.literalType.value n = type.value n := by
  cases type <;> rfl

/-- The lists of types that a suffix admits are those that the two letters leave of all types. -/
theorem map_literalType_admitted (unsigned long : Bool) :
    (admitted unsigned long).map literalType =
      LiteralType.all.filter fun type =>
        (type.isUnsigned || !unsigned) && (type.bits == 64 || !long) := by
  cases unsigned <;> cases long <;> rfl

end IntegerType

namespace Constant

/-- The type of a magnitude is the first one whose range holds it. -/
theorem ofMagnitude?_eq (types : List IntegerType) (n : Nat) :
    ofMagnitude? types n =
      ((types.map IntegerType.literalType).find? fun type => type.range.holds n).map
        fun type => .mk .primitive (some type.word) (type.value n) := by
  rw [ofMagnitude?, List.find?_map, Option.map_map]
  simp only [Function.comp_def, IntegerType.holds_range, IntegerType.word_literalType,
    IntegerType.value_literalType]
  rfl

variable {token : String}

/-- An integer literal is the value of its digits in the first type that holds it. -/
theorem ofNumeral_eq (h : IsNumeral token.toList)
    (hinteger : Numeral.isInteger token.toList = true) :
    ofNumeral token =
      (((Numeral.types token.toList).find? fun type =>
          type.range.holds (Numeral.value token.toList)).map
        fun type => .mk .primitive (some type.word)
          (type.value (Numeral.value token.toList))).getD (opaqueText token) := by
  obtain ⟨base, mark, digits, suffix, hparts⟩ := Numeral.exists_hasParts h hinteger
  have htypes : (IntegerType.admitted ((suffix.map Char.toLower).contains 'u')
      ((suffix.map Char.toLower).contains 'l')).map IntegerType.literalType =
      Numeral.types token.toList := by
    rw [hparts.contains_suffix rfl, hparts.contains_suffix rfl,
      IntegerType.map_literalType_admitted]
    rfl
  have hbody : radixAndBody ((token.toList.filter (· != '_')).map Char.toLower) =
      (base.base, Numeral.normalized digits ++ suffix.map Char.toLower) := hparts.radixAndBody_eq
  simp only [ofNumeral, hbody, hparts.isReal_eq, Bool.false_eq_true, if_false, hparts.trimEnd_eq,
    List.drop_left, hparts.value?_normalized, ofMagnitude?_eq, htypes]

/-- Below `2^64` there is a type for the value, at the latest `ulong`. -/
theorem exists_isPrimitive_ofNumeral (h : IsNumeral token.toList)
    (hinteger : Numeral.isInteger token.toList = true)
    (hvalue : Numeral.value token.toList < 2 ^ 64) :
    ∃ type, (Numeral.types token.toList).find? (fun type =>
        type.range.holds (Numeral.value token.toList)) = some type ∧
      (ofNumeral token).IsPrimitive (some type.word)
        (type.value (Numeral.value token.toList)) := by
  have hulong : LiteralType.range ⟨"ulong", true, 64⟩ = ⟨0, 2 ^ 64 - 1⟩ := by decide
  have hfound : ((Numeral.types token.toList).find? fun type =>
      type.range.holds (Numeral.value token.toList)).isSome = true := by
    rw [List.find?_isSome]
    refine ⟨⟨"ulong", true, 64⟩, by simp [Numeral.types, LiteralType.all], ?_⟩
    rw [hulong, IntRange.holds_iff]
    simp only
    omega
  obtain ⟨type, htype⟩ := Option.isSome_iff_exists.mp hfound
  refine ⟨type, htype, ?_⟩
  rw [ofNumeral_eq h hinteger, htype, Option.map_some, Option.getD_some]
  exact ⟨rfl, rfl, rfl⟩

/-- From `2^64` on no type holds the value. -/
theorem isPrimitive_ofNumeral_text (h : IsNumeral token.toList)
    (hinteger : Numeral.isInteger token.toList = true)
    (hvalue : 2 ^ 64 ≤ Numeral.value token.toList) :
    (ofNumeral token).IsPrimitive (some "object") (.string token) := by
  have hgreatest : ∀ type ∈ LiteralType.all, type.range.greatest < 2 ^ 64 := by decide
  have hnone : (Numeral.types token.toList).find? (fun type =>
      type.range.holds (Numeral.value token.toList)) = none := by
    rw [List.find?_eq_none]
    intro type htype
    have hsmall := hgreatest type (List.mem_of_mem_filter htype)
    rw [IntRange.holds_iff]
    omega
  rw [ofNumeral_eq h hinteger, hnone, Option.map_none, Option.getD_none]
  exact ⟨rfl, rfl, rfl⟩

/-- Integer literals are read exactly. One below `2^64` has the first type whose range holds it
among those its suffix leaves, and the value of its digits; a greater one is kept as its text. -/
theorem integer_literals_are_exact {text : String} {stream : TokenStream}
    (h : tokenize text = .ok stream) {t : Token} (ht : t ∈ stream.tokens) (hkind : t.kind = .number)
    (hinteger : Numeral.isInteger t.lexeme.toList = true) :
    (Numeral.value t.lexeme.toList < 2 ^ 64 →
      ∃ type, (Numeral.types t.lexeme.toList).find? (fun type =>
          type.range.holds (Numeral.value t.lexeme.toList)) = some type ∧
        (ofNumeral t.lexeme).IsPrimitive (some type.word)
          (type.value (Numeral.value t.lexeme.toList))) ∧
      (2 ^ 64 ≤ Numeral.value t.lexeme.toList →
        (ofNumeral t.lexeme).IsPrimitive (some "object") (.string t.lexeme)) := by
  have hlexeme := Lexer.isLexeme_of_tokensFrom h t ht
  rw [hkind] at hlexeme
  have hnumeral := hlexeme.isNumeral
  exact ⟨exists_isPrimitive_ofNumeral hnumeral hinteger,
    isPrimitive_ofNumeral_text hnumeral hinteger⟩

/-- The digits `d`, `e` and `f` of a hexadecimal number do not make it a real one, and two letters
in any order and case leave only `ulong`. -/
theorem integer_literals_are_exact_sample :
    (ofNumeral "0xDEAD_BEEFLu").IsPrimitive (some "ulong") (.uint 3735928559) ∧
      (ofNumeral "18446744073709551616").IsPrimitive (some "object")
        (.string "18446744073709551616") := by
  have hsmall : tokenize "0xDEAD_BEEFLu" =
      .ok ⟨[⟨.number, "0xDEAD_BEEFLu", .start⟩], ⟨13, 1, 14⟩⟩ := by decide +kernel
  have hgreat : tokenize "18446744073709551616" =
      .ok ⟨[⟨.number, "18446744073709551616", .start⟩], ⟨20, 1, 21⟩⟩ := by decide +kernel
  have hvalue : Numeral.value "0xDEAD_BEEFLu".toList = 3735928559 := by decide +kernel
  refine ⟨?_, ?_⟩
  · obtain ⟨type, htype, hconstant⟩ := (integer_literals_are_exact hsmall
      (List.mem_singleton_self _) rfl (by decide +kernel)).1 (by decide +kernel)
    have hulong : (Numeral.types "0xDEAD_BEEFLu".toList).find? (fun type =>
        type.range.holds (Numeral.value "0xDEAD_BEEFLu".toList)) = some ⟨"ulong", true, 64⟩ := by
      decide +kernel
    obtain rfl := Option.some.inj (hulong.symm.trans htype)
    rw [hvalue] at hconstant
    exact hconstant
  · exact (integer_literals_are_exact hgreat (List.mem_singleton_self _) rfl
      (by decide +kernel)).2 (by decide +kernel)

end Constant

end DeclScribe
