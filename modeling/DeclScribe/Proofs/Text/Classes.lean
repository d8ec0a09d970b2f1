import DeclScribe.Token.Lexer
import Mathlib.Tactic.Common

/-!
# How the classes of characters lie to each other

Tokens can be told apart by their first character because the classes that start them have no
character in common: blanks, digits, identifier characters and the single-character tokens. The
classes of all scripts are tables of ranges, so that two of them have nothing in common is a fact
about their ranges, checked once and never range by range again.
-/

set_option autoImplicit false

namespace DeclScribe

namespace Text.Ranges

/-- No range of one table meets a range of the other. -/
def Apart (r s : Ranges) : Prop :=
  ∀ a ∈ r, ∀ b ∈ s, a.2 < b.1 ∨ b.2 < a.1

/-- It is decided by comparing each range of one table with each of the other. -/
instance (r s : Ranges) : Decidable (Apart r s) :=
  inferInstanceAs (Decidable (∀ a ∈ r, ∀ b ∈ s, a.2 < b.1 ∨ b.2 < a.1))

/-- A code point that a table holds is in one of its ranges. Since the ranges are sorted, the search
stops early, but never too early for this. -/
theorem exists_of_holds {r : Ranges} {n : Nat} (h : r.holds n = true) :
    ∃ a ∈ r, a.1 ≤ n ∧ n ≤ a.2 := by
  induction r with
  | nil => simp [holds] at h
  | cons a rest ih =>
    obtain ⟨low, high⟩ := a
    simp only [holds] at h
    split_ifs at h with hlow hhigh
    · exact ⟨(low, high), by simp, by omega, by omega⟩
    · obtain ⟨b, hb, hbounds⟩ := ih h
      exact ⟨b, by simp [hb], hbounds⟩

/-- Tables that are apart hold no code point together. -/
theorem Apart.holds_eq_false {r s : Ranges} {n : Nat} (hrs : Apart r s)
    (h : r.holds n = true) : s.holds n = false := by
  cases hs : Ranges.holds s n with
  | false => rfl
  | true =>
    obtain ⟨a, ha, halow, hahigh⟩ := exists_of_holds h
    obtain ⟨b, hb, hblow, hbhigh⟩ := exists_of_holds hs
    have := hrs a ha b hb
    omega

end Text.Ranges

/-! ## Identifier characters -/

/-- What can start an identifier can go on with one. -/
theorem isIdentifierPart_of_start {c : Char} (h : isIdentifierStart c = true) :
    isIdentifierPart c = true := by
  simp only [isIdentifierStart, Bool.or_eq_true] at h
  rcases h with h | h <;> simp [isIdentifierPart, h]

/-- The letters of the alphabet can start an identifier. They are the first two ranges of the table.
-/
theorem isIdentifierStart_of_letter {c : Char}
    (h : ('a' ≤ c ∧ c ≤ 'z') ∨ ('A' ≤ c ∧ c ≤ 'Z')) : isIdentifierStart c = true := by
  have hbounds : (97 ≤ c.toNat ∧ c.toNat ≤ 122) ∨ (65 ≤ c.toNat ∧ c.toNat ≤ 90) := h
  have htable : Text.alphabeticRanges =
      (0x41, 0x5a) :: (0x61, 0x7a) :: Text.alphabeticRanges.drop 2 := rfl
  have hletter : Text.alphabeticRanges.holds c.toNat = true := by
    rw [htable]
    simp only [Text.Ranges.holds]
    split_ifs with h1 h2 h3 h4
    · omega
    · rfl
    · omega
    · rfl
    · omega
  simp [isIdentifierStart, Text.isAlphabetic, hletter]

/-- A blank is never part of an identifier, as the tables have no range in common. -/
theorem isIdentifierPart_eq_false_of_isBlank {c : Char} (h : Text.isBlank c = true) :
    isIdentifierPart c = false := by
  have halpha : Text.Ranges.Apart Text.blankRanges Text.alphabeticRanges := by decide +kernel
  have hnumeric : Text.Ranges.Apart Text.blankRanges Text.numericRanges := by decide +kernel
  have hunderscore : c ≠ '_' := by
    rintro rfl
    exact absurd h (by decide)
  simp only [isIdentifierPart, Text.isAlphabetic, Text.isNumeric, Bool.or_eq_false_iff,
    beq_eq_false_iff_ne]
  exact ⟨⟨halpha.holds_eq_false h, hnumeric.holds_eq_false h⟩, hunderscore⟩

/-- A part of an identifier is never blank. -/
theorem isBlank_eq_false_of_part {c : Char} (h : isIdentifierPart c = true) :
    Text.isBlank c = false := by
  cases hb : Text.isBlank c with
  | false => rfl
  | true => rw [isIdentifierPart_eq_false_of_isBlank hb] at h; exact absurd h (by simp)

/-! ## Digits -/

/-- The digits of a base are decimal digits or the first six letters. -/
theorem Radix.bounds_of_isDigit {radix : Radix} {c : Char} (h : radix.isDigit c = true) :
    ('0' ≤ c ∧ c ≤ '9') ∨ ('a' ≤ c ∧ c ≤ 'f') ∨ ('A' ≤ c ∧ c ≤ 'F') := by
  simp only [Radix.isDigit, Radix.digitValue?] at h
  split_ifs at h with h1 h2 h3
  · exact Or.inl h1
  · exact Or.inr (Or.inl h2)
  · exact Or.inr (Or.inr h3)

/-- Decimal digits are the ten code points from the zero. -/
theorem Radix.isDigit_decimal_iff {c : Char} :
    Radix.decimal.isDigit c = true ↔ 48 ≤ c.toNat ∧ c.toNat ≤ 57 := by
  have hdigit : ('0' ≤ c ∧ c ≤ '9') ↔ 48 ≤ c.toNat ∧ c.toNat ≤ 57 := Iff.rfl
  have hlower : ('a' ≤ c ∧ c ≤ 'f') ↔ 97 ≤ c.toNat ∧ c.toNat ≤ 102 := Iff.rfl
  have hupper : ('A' ≤ c ∧ c ≤ 'F') ↔ 65 ≤ c.toNat ∧ c.toNat ≤ 70 := Iff.rfl
  simp only [Radix.isDigit, Radix.digitValue?, hdigit, hlower, hupper]
  split_ifs with h1 h2 h3
  · change decide (c.toNat - 48 < 10) = true ↔ _
    rw [decide_eq_true_iff]
    omega
  · change decide (c.toNat - 87 < 10) = true ↔ _
    rw [decide_eq_true_iff]
    omega
  · change decide (c.toNat - 55 < 10) = true ↔ _
    rw [decide_eq_true_iff]
    omega
  · exact iff_of_false id h1

/-- A decimal digit can be part of an identifier. -/
theorem isIdentifierPart_of_decimal {c : Char} (h : Radix.decimal.isDigit c = true) :
    isIdentifierPart c = true := by
  have hbounds := Radix.isDigit_decimal_iff.mp h
  have htable : Text.numericRanges = (0x30, 0x39) :: Text.numericRanges.drop 1 := rfl
  have hnumeric : Text.numericRanges.holds c.toNat = true := by
    rw [htable]
    simp only [Text.Ranges.holds]
    split_ifs with h1 h2
    · omega
    · rfl
    · omega
  simp [isIdentifierPart, Text.isNumeric, hnumeric]

/-- A decimal digit starts no identifier. -/
theorem isIdentifierStart_eq_false_of_decimal {c : Char}
    (h : Radix.decimal.isDigit c = true) : isIdentifierStart c = false := by
  have hbounds := Radix.isDigit_decimal_iff.mp h
  have htable : Text.alphabeticRanges = (0x41, 0x5a) :: Text.alphabeticRanges.drop 1 := rfl
  have halpha : Text.alphabeticRanges.holds c.toNat = false := by
    rw [htable]
    simp only [Text.Ranges.holds]
    exact if_pos (by omega)
  have hunderscore : c ≠ '_' := by
    rintro rfl
    exact absurd h (by decide)
  simp [isIdentifierStart, Text.isAlphabetic, halpha, hunderscore]

/-- A digit of any base can be part of an identifier. -/
theorem isIdentifierPart_of_isDigit {radix : Radix} {c : Char} (h : radix.isDigit c = true) :
    isIdentifierPart c = true := by
  rcases Radix.bounds_of_isDigit h with hdigit | hlower | hupper
  · exact isIdentifierPart_of_decimal (Radix.isDigit_decimal_iff.mpr hdigit)
  · refine isIdentifierPart_of_start (isIdentifierStart_of_letter (Or.inl ⟨hlower.1, ?_⟩))
    exact Char.le_trans hlower.2 (by decide)
  · refine isIdentifierPart_of_start (isIdentifierStart_of_letter (Or.inr ⟨hupper.1, ?_⟩))
    exact Char.le_trans hupper.2 (by decide)

/-! ## Single-character tokens -/

/-- A character that is a token by itself is blank and part of an identifier neither. -/
theorem TokenKind.classes_of_ofChar? {c : Char} {kind : TokenKind}
    (h : TokenKind.ofChar? c = some kind) :
    Text.isBlank c = false ∧ isIdentifierPart c = false ∧ c ≠ '"' := by
  unfold TokenKind.ofChar? at h
  split at h
  case h_15 => exact absurd h (by simp)
  all_goals exact ⟨by decide, by decide, by decide⟩

/-- A part of an identifier is no token by itself. -/
theorem TokenKind.ofChar?_eq_none_of_part {c : Char} (h : isIdentifierPart c = true) :
    TokenKind.ofChar? c = none := by
  cases hk : TokenKind.ofChar? c with
  | none => rfl
  | some kind =>
    rw [(TokenKind.classes_of_ofChar? hk).2.1] at h
    exact absurd h (by simp)

end DeclScribe
