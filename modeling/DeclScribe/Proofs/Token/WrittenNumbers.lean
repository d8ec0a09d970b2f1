import DeclScribe.Proofs.Token.Lexemes
import Mathlib.Data.List.Basic

/-!
# The documented grammar of numbers

The grammar of numbers as it is documented speaks of characters: `0x` and `0b`, digits, underscores,
a point, the mark of an exponent, the letters of suffixes. It is written down here without any of
the functions that read numbers, part by part; each part is then the one that the reader takes, and
the texts of the grammar are exactly those that are a single number token.
-/

set_option autoImplicit false

namespace DeclScribe

open Lexer (startsWith)

namespace Numeral

/-! ## The grammar -/

/-- The digits of a base. -/
def IsDigitOf : Radix → Char → Prop
  | .binary, c => c = '0' ∨ c = '1'
  | .decimal, c => '0' ≤ c ∧ c ≤ '9'
  | .hexadecimal, c => ('0' ≤ c ∧ c ≤ '9') ∨ ('a' ≤ c ∧ c ≤ 'f') ∨ ('A' ≤ c ∧ c ≤ 'F')

/-- Digits of a base and underscores, in any order and number. -/
def AreDigits (radix : Radix) (text : List Char) : Prop :=
  ∀ c ∈ text, IsDigitOf radix c ∨ c = '_'

/-- Digits and underscores, at least one digit among them. -/
def HasDigits (radix : Radix) (text : List Char) : Prop :=
  AreDigits radix text ∧ ∃ c ∈ text, IsDigitOf radix c

/-- Decimal digits and underscores of which the first one is a digit. -/
inductive IsDigitRun : List Char → Prop
  | cons (digit : Char) (digits : List Char) : IsDigitOf .decimal digit →
      AreDigits .decimal digits → IsDigitRun (digit :: digits)

/-- A point directly followed by a digit. -/
inductive IsPointPart : List Char → Prop
  | point (digits : List Char) : IsDigitRun digits → IsPointPart ('.' :: digits)

/-- The mark of an exponent, a sign if there is one, and digits. -/
inductive IsPowerPart : List Char → Prop
  | marked (mark : Char) (sign digits : List Char) : mark = 'e' ∨ mark = 'E' →
      sign = [] ∨ sign = ['+'] ∨ sign = ['-'] → HasDigits .decimal digits →
      IsPowerPart (mark :: (sign ++ digits))

/-- The suffixes of integers, in any letter case. -/
def IsIntegerSuffix (text : List Char) : Prop :=
  text.map Char.toLower ∈ [['u'], ['l'], ['u', 'l'], ['l', 'u']]

/-- The suffixes of real numbers, in any letter case. -/
def IsRealSuffix (text : List Char) : Prop :=
  text.map Char.toLower ∈ [['f'], ['d'], ['m']]

/-- A part that need not be there. -/
def Optionally (part : List Char → Prop) (text : List Char) : Prop :=
  text = [] ∨ part text

/-- The texts that are documented as numbers. An integer suffix needs a number without a point and
an exponent, a real one a decimal number. -/
inductive IsWritten : List Char → Prop
  | hexadecimal (mark : Char) (digits suffix : List Char) : mark = 'x' ∨ mark = 'X' →
      HasDigits .hexadecimal digits → Optionally IsIntegerSuffix suffix →
      IsWritten ('0' :: mark :: (digits ++ suffix))
  | binary (mark : Char) (digits suffix : List Char) : mark = 'b' ∨ mark = 'B' →
      HasDigits .binary digits → Optionally IsIntegerSuffix suffix →
      IsWritten ('0' :: mark :: (digits ++ suffix))
  | decimal (whole point power suffix : List Char) : Optionally IsDigitRun whole →
      Optionally IsPointPart point → Optionally IsPowerPart power → whole ≠ [] ∨ point ≠ [] →
      Optionally IsRealSuffix suffix ∨ point = [] ∧ power = [] ∧ IsIntegerSuffix suffix →
      IsWritten (whole ++ point ++ power ++ suffix)

/-! ## Each part is the one that is read -/

/-- A digit of a base is a character with a value below the base. -/
theorem isDigit_iff_exists_value {radix : Radix} {c : Char} :
    radix.isDigit c = true ↔ ∃ value, Radix.digitValue? c = some value ∧ value < radix.base := by
  unfold Radix.isDigit
  cases Radix.digitValue? c <;> simp

/-- The digits of a base are the characters that the grammar names. -/
theorem isDigit_iff (radix : Radix) (c : Char) :
    radix.isDigit c = true ↔ IsDigitOf radix c := by
  have hdigit : ('0' ≤ c ∧ c ≤ '9') ↔ 48 ≤ c.toNat ∧ c.toNat ≤ 57 := Iff.rfl
  have hlower : ('a' ≤ c ∧ c ≤ 'f') ↔ 97 ≤ c.toNat ∧ c.toNat ≤ 102 := Iff.rfl
  have hupper : ('A' ≤ c ∧ c ≤ 'F') ↔ 65 ≤ c.toNat ∧ c.toNat ≤ 70 := Iff.rfl
  have hzero : c = '0' ↔ c.toNat = 48 := Char.toNat_inj.symm
  have hone : c = '1' ↔ c.toNat = 49 := Char.toNat_inj.symm
  rw [isDigit_iff_exists_value]
  cases radix <;>
    simp only [Radix.digitValue?, Radix.base, IsDigitOf, hdigit, hlower, hupper, hzero, hone] <;>
    split_ifs <;>
    simp only [Option.some.injEq, exists_eq_left', false_and, exists_false, false_iff] <;>
    omega

variable {text : List Char} {radix : Radix}

/-- A run is read where the grammar has digits and underscores. -/
theorem isRun_iff : IsRun radix text ↔ AreDigits radix text := by
  simp only [IsRun, AreDigits, Bool.or_eq_true, isDigit_iff, beq_iff_eq]

/-- Digits are there if the run that is read has one. -/
theorem hasDigits_iff :
    HasDigits radix text ↔ IsRun radix text ∧ radix.hasDigit text = true := by
  simp only [HasDigits, isRun_iff, Radix.hasDigit, List.any_eq_true, isDigit_iff]

/-- A run of the grammar is a run that starts with a digit. -/
theorem isDigitRun_iff :
    IsDigitRun text ↔ startsWith Radix.decimal.isDigit text = true ∧ IsRun .decimal text := by
  constructor
  · rintro ⟨digit, digits, hdigit, hdigits⟩
    refine ⟨(isDigit_iff .decimal digit).mpr hdigit, isRun_iff.mpr ?_⟩
    exact List.forall_mem_cons.mpr ⟨Or.inl hdigit, hdigits⟩
  · rintro ⟨hstart, hrun⟩
    cases text with
    | nil => exact absurd hstart (by simp)
    | cons digit digits =>
      refine .cons digit digits ((isDigit_iff .decimal digit).mp hstart) ?_
      exact (List.forall_mem_cons.mp (isRun_iff.mp hrun)).2

/-- A fraction is read where the grammar has a point with digits or nothing. -/
theorem isFraction_iff : IsFraction text ↔ Optionally IsPointPart text := by
  constructor
  · rintro (_ | ⟨digit, digits, hdigit, hdigits⟩)
    · exact Or.inl rfl
    · refine Or.inr (.point _ (.cons digit digits ?_ (isRun_iff.mp hdigits)))
      exact (isDigit_iff .decimal digit).mp hdigit
  · rintro (rfl | ⟨_, ⟨digit, digits, hdigit, hdigits⟩⟩)
    · exact .absent
    · exact .point digit digits ((isDigit_iff .decimal digit).mpr hdigit) (isRun_iff.mpr hdigits)

/-- An exponent is read where the grammar has one or nothing. -/
theorem isExponent_iff : IsExponent text ↔ Optionally IsPowerPart text := by
  constructor
  · rintro (_ | ⟨mark, sign, digits, hmark, hsign, hrun, hhas⟩)
    · exact Or.inl rfl
    · refine Or.inr (.marked mark sign digits ?_ ?_ (hasDigits_iff.mpr ⟨hrun, hhas⟩))
      · simpa using hmark
      · simpa using hsign
  · rintro (rfl | ⟨mark, sign, digits, hmark, hsign, hdigits⟩)
    · exact .absent
    · obtain ⟨hrun, hhas⟩ := hasDigits_iff.mp hdigits
      exact .marked mark sign digits (by simpa using hmark) (by simpa using hsign) hrun hhas

/-- The suffixes that are read: real ones behind decimals, integer ones behind anything but a point
and an exponent. -/
theorem isSuffix_iff {isDecimal isReal : Bool} :
    IsSuffix isDecimal isReal text ↔
      text = [] ∨ isDecimal = true ∧ IsRealSuffix text ∨ isReal = false ∧ IsIntegerSuffix text := by
  constructor
  · rintro (_ | ⟨c, hdecimal, hc⟩ | ⟨c, hreal, hc⟩ | ⟨c, d, hreal, hcd⟩)
    · exact Or.inl rfl
    · exact Or.inr (Or.inl ⟨hdecimal, by simpa [IsRealSuffix] using hc⟩)
    · refine Or.inr (Or.inr ⟨hreal, ?_⟩)
      rcases List.mem_pair.mp hc with hu | hl
      · simp [IsIntegerSuffix, hu]
      · simp [IsIntegerSuffix, hl]
    · exact Or.inr (Or.inr ⟨hreal, by simpa [IsIntegerSuffix] using hcd⟩)
  · rintro (rfl | ⟨rfl, hletters⟩ | ⟨rfl, hletters⟩)
    · exact .absent
    · match text with
      | [c] => exact .real c rfl (by simpa [IsRealSuffix] using hletters)
      | [] | _ :: _ :: _ => exact absurd hletters (by simp [IsRealSuffix])
    · match text with
      | [c] => exact .integer c rfl (by simpa [IsIntegerSuffix] using hletters)
      | [c, d] => exact .pair c d rfl (by simpa [IsIntegerSuffix] using hletters)
      | [] | _ :: _ :: _ :: _ => exact absurd hletters (by simp [IsIntegerSuffix])

/-- Behind a base mark only the suffixes of integers are read. -/
theorem optionally_isIntegerSuffix_iff :
    Optionally IsIntegerSuffix text ↔ IsSuffix false false text := by
  simp [isSuffix_iff, Optionally]

/-! ## The grammar is the one that is read -/

/-- What announces a base is a zero and a letter that the grammar names. -/
theorem isWritten_announced {mark digits suffix : List Char} (hlength : mark.length = 2)
    (hmark : Radix.announced? mark = some radix) (hdigits : HasDigits radix digits)
    (hsuffix : Optionally IsIntegerSuffix suffix) : IsWritten (mark ++ digits ++ suffix) := by
  obtain ⟨zero, letter, rfl⟩ := List.length_eq_two.mp hlength
  unfold Radix.announced? at hmark
  split at hmark
  case h_5 => exact absurd hmark (by simp)
  all_goals
    rename_i heq
    obtain ⟨rfl, hrest⟩ := List.cons.inj heq
    obtain ⟨rfl, -⟩ := List.cons.inj hrest
    obtain rfl := Option.some.inj hmark
  · exact .hexadecimal 'x' digits suffix (Or.inl rfl) hdigits hsuffix
  · exact .hexadecimal 'X' digits suffix (Or.inr rfl) hdigits hsuffix
  · exact .binary 'b' digits suffix (Or.inl rfl) hdigits hsuffix
  · exact .binary 'B' digits suffix (Or.inr rfl) hdigits hsuffix

/-- A zero and such a letter, with digits and a suffix, are a number. -/
theorem isNumeral_announced {letter : Char} {digits suffix : List Char}
    (hmark : Radix.announced? ['0', letter] = some radix) (hdigits : HasDigits radix digits)
    (hsuffix : Optionally IsIntegerSuffix suffix) :
    IsNumeral ('0' :: letter :: (digits ++ suffix)) := by
  obtain ⟨hrun, hhas⟩ := hasDigits_iff.mp hdigits
  exact .announced ['0', letter] digits suffix radix rfl hmark hrun hhas
    (optionally_isIntegerSuffix_iff.mp hsuffix)

/-- The numbers that are read are those of the grammar. -/
theorem isNumeral_iff : IsNumeral text ↔ IsWritten text := by
  constructor
  · rintro (⟨mark, digits, suffix, radix, hlength, hmark, hrun, hhas, hsuffix⟩ |
      ⟨whole, fraction, exponent, suffix, hwhole, hfraction, hexponent, hstart, hsuffix⟩)
    · exact isWritten_announced hlength hmark (hasDigits_iff.mpr ⟨hrun, hhas⟩)
        (optionally_isIntegerSuffix_iff.mpr hsuffix)
    · refine .decimal whole fraction exponent suffix ?_ (isFraction_iff.mp hfraction)
        (isExponent_iff.mp hexponent) ?_ ?_
      · rcases hstart with hdigit | ⟨rfl, -⟩
        · exact Or.inr (isDigitRun_iff.mpr ⟨hdigit, hwhole⟩)
        · exact Or.inl rfl
      · rcases hstart with hdigit | ⟨-, hpoint⟩
        · refine Or.inl ?_
          rintro rfl
          exact absurd hdigit (by simp)
        · exact Or.inr hpoint
      · rcases isSuffix_iff.mp hsuffix with rfl | ⟨-, hreal⟩ | ⟨hneither, hinteger⟩
        · exact Or.inl (Or.inl rfl)
        · exact Or.inl (Or.inr hreal)
        · simp only [Bool.or_eq_false_iff, Bool.not_eq_false', List.isEmpty_iff] at hneither
          exact Or.inr ⟨hneither.1, hneither.2, hinteger⟩
  · rintro (⟨mark, digits, suffix, hmark, hdigits, hsuffix⟩ |
      ⟨mark, digits, suffix, hmark, hdigits, hsuffix⟩ |
      ⟨whole, point, power, suffix, hwhole, hpoint, hpower, hpart, hsuffix⟩)
    · refine isNumeral_announced ?_ hdigits hsuffix
      rcases hmark with rfl | rfl <;> rfl
    · refine isNumeral_announced ?_ hdigits hsuffix
      rcases hmark with rfl | rfl <;> rfl
    · refine .decimal whole point power suffix ?_ (isFraction_iff.mpr hpoint)
        (isExponent_iff.mpr hpower) ?_ (isSuffix_iff.mpr ?_)
      · rcases hwhole with rfl | hrun
        · exact fun c hc => absurd hc (by simp)
        · exact (isDigitRun_iff.mp hrun).2
      · rcases hwhole with rfl | hrun
        · exact Or.inr ⟨rfl, hpart.resolve_left (by simp)⟩
        · exact Or.inl (isDigitRun_iff.mp hrun).1
      · rcases hsuffix with (rfl | hreal) | ⟨rfl, rfl, hinteger⟩
        · exact Or.inl rfl
        · exact Or.inr (Or.inl ⟨rfl, hreal⟩)
        · exact Or.inr (Or.inr ⟨rfl, hinteger⟩)

end Numeral

/-- The texts that are a single number token, and nothing but it, are the documented numbers. -/
theorem tokenize_eq_number_iff (text : String) :
    (∃ token stop, tokenize text = .ok ⟨[token], stop⟩ ∧ token.kind = .number ∧
      token.lexeme = text) ↔ Numeral.IsWritten text.toList := by
  rw [← Numeral.isNumeral_iff]
  constructor
  · rintro ⟨token, stop, htoken, hkind, hlexeme⟩
    have h := Lexer.isLexeme_of_tokensFrom htoken token (by simp)
    rw [hkind, hlexeme] at h
    exact h.isNumeral
  · intro h
    obtain ⟨stop, htoken⟩ := isSoleToken_iff.mpr (IsLexeme.number _ h)
    exact ⟨_, stop, htoken, rfl, rfl⟩

end DeclScribe
