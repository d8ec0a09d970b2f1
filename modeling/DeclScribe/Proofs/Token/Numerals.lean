import DeclScribe.Proofs.Text.Classes
import Mathlib.Data.List.TakeWhile

/-!
# The texts that are numbers

A number is put together from parts, each of which is a property of its text alone: digits behind a
base mark, or whole digits, a fraction and an exponent, and in both cases a suffix. The reader of
numbers takes such a text exactly, whatever stands behind it, as long as that neither continues an
identifier nor is a point with a digit; and whatever it takes from a text that starts like a number
is such a text.
-/

set_option autoImplicit false

namespace DeclScribe

open Lexer (startsWith)

/-! ## How a text starts -/

/-- An empty text starts with no character. -/
@[simp] theorem startsWith_nil (p : Char → Bool) : startsWith p [] = false := rfl

/-- A text starts with its first character. -/
@[simp] theorem startsWith_cons (p : Char → Bool) (c : Char) (rest : List Char) :
    startsWith p (c :: rest) = p c := rfl

/-- Two texts put together start as the first one does, or as the second one behind nothing. -/
theorem startsWith_append_eq_false {p : Char → Bool} {text more : List Char}
    (htext : startsWith p text = false) (hmore : startsWith p more = false) :
    startsWith p (text ++ more) = false := by
  cases text with
  | nil => exact hmore
  | cons c rest => exact htext

/-- A text that starts with no character of a class starts with none of a smaller class. -/
theorem startsWith_eq_false_of_imp {p q : Char → Bool} (hpq : ∀ c, q c = true → p c = true)
    {text : List Char} (h : startsWith p text = false) : startsWith q text = false := by
  cases text with
  | nil => rfl
  | cons c rest =>
    rw [startsWith_cons] at h ⊢
    cases hq : q c with
    | false => rfl
    | true => rw [hpq c hq] at h; exact absurd h (by simp)

/-- Characters of a class are taken up to where the class ends. -/
theorem takeWhile_append_of_startsWith {p : Char → Bool} {text more : List Char}
    (htext : ∀ c ∈ text, p c = true) (hmore : startsWith p more = false) :
    (text ++ more).takeWhile p = text := by
  rw [List.takeWhile_append_of_pos htext]
  cases more with
  | nil => simp
  | cons c rest => simp [(startsWith_cons p c rest).symm.trans hmore]

namespace Numeral

/-! ## The parts of a number -/

/-- Digits of a base and underscores. -/
def IsRun (radix : Radix) (text : List Char) : Prop :=
  ∀ c ∈ text, (radix.isDigit c || c == '_') = true

/-- A point with the digits behind it, or nothing. -/
inductive IsFraction : List Char → Prop
  | absent : IsFraction []
  | point (digit : Char) (digits : List Char) : Radix.decimal.isDigit digit = true →
      IsRun .decimal digits → IsFraction ('.' :: digit :: digits)

/-- The mark of an exponent, a sign if there is one, and a run with a digit in it; or nothing. -/
inductive IsExponent : List Char → Prop
  | absent : IsExponent []
  | marked (mark : Char) (signs digits : List Char) : (mark == 'e' || mark == 'E') = true →
      signs ∈ [[], ['+'], ['-']] → IsRun .decimal digits → Radix.decimal.hasDigit digits = true →
      IsExponent (mark :: (signs ++ digits))

/-- A letter that stands for a type of real numbers, one or two letters that stand for a type of
integers, or nothing. -/
inductive IsSuffix (isDecimal isReal : Bool) : List Char → Prop
  | absent : IsSuffix isDecimal isReal []
  | real (c : Char) : isDecimal = true → c.toLower ∈ ['f', 'd', 'm'] →
      IsSuffix isDecimal isReal [c]
  | integer (c : Char) : isReal = false → c.toLower ∈ ['u', 'l'] → IsSuffix isDecimal isReal [c]
  | pair (c d : Char) : isReal = false → (c.toLower, d.toLower) ∈ [('u', 'l'), ('l', 'u')] →
      IsSuffix isDecimal isReal [c, d]

end Numeral

/-- The texts that are numbers. -/
inductive IsNumeral : List Char → Prop
  | announced (mark digits suffix : List Char) (radix : Radix) : mark.length = 2 →
      Radix.announced? mark = some radix → Numeral.IsRun radix digits →
      radix.hasDigit digits = true → Numeral.IsSuffix false false suffix →
      IsNumeral (mark ++ digits ++ suffix)
  | decimal (whole fraction exponent suffix : List Char) : Numeral.IsRun .decimal whole →
      Numeral.IsFraction fraction → Numeral.IsExponent exponent →
      startsWith Radix.decimal.isDigit whole = true ∨ whole = [] ∧ fraction ≠ [] →
      Numeral.IsSuffix true (!fraction.isEmpty || !exponent.isEmpty) suffix →
      IsNumeral (whole ++ fraction ++ exponent ++ suffix)

/-! ## Reading back the parts -/

/-- Behind a number nothing stands that continues an identifier, and no point with a digit. -/
structure EndsNumber (tail : List Char) : Prop where
  part : startsWith isIdentifierPart tail = false
  point : Numeral.fraction tail = []

namespace Numeral

/-- What continues no identifier continues no run of digits. -/
theorem startsWith_run {radix : Radix} {tail : List Char}
    (h : startsWith isIdentifierPart tail = false) :
    startsWith (fun c => radix.isDigit c || c == '_') tail = false := by
  refine startsWith_eq_false_of_imp ?_ h
  intro c hc
  simp only [Bool.or_eq_true, beq_iff_eq] at hc
  rcases hc with hdigit | rfl
  · exact isIdentifierPart_of_isDigit hdigit
  · decide +kernel

/-- A character whose lower case is a letter is that letter, in one case or the other. -/
theorem letter_of_toLower {c letter : Char} (h : c.toLower = letter)
    (hletter : 'a' ≤ letter ∧ letter ≤ 'z') :
    ('a' ≤ c ∧ c ≤ 'z') ∨ ('A' ≤ c ∧ c ≤ 'Z') := by
  unfold Char.toLower at h
  split at h
  · rename_i hupper
    exact Or.inr hupper
  · subst h
    exact Or.inl hletter

/-- So it can be part of an identifier. -/
theorem isIdentifierPart_of_toLower {c letter : Char} (h : c.toLower = letter)
    (hletter : 'a' ≤ letter ∧ letter ≤ 'z') : isIdentifierPart c = true :=
  isIdentifierPart_of_start (isIdentifierStart_of_letter (letter_of_toLower h hletter))

/-- A run is read as it is when no run character follows. -/
theorem run_append {radix : Radix} {text more : List Char} (htext : IsRun radix text)
    (hmore : startsWith (fun c => radix.isDigit c || c == '_') more = false) :
    radix.run (text ++ more) = text :=
  takeWhile_append_of_startsWith htext hmore

/-- A fraction is read as it is when it is not continued. -/
theorem fraction_append {text more : List Char} (htext : IsFraction text)
    (hrun : startsWith (fun c => Radix.decimal.isDigit c || c == '_') more = false)
    (hmore : fraction more = []) : fraction (text ++ more) = text := by
  cases htext with
  | absent => exact hmore
  | point digit digits hdigit hdigits =>
    have hread : Radix.decimal.run (digit :: digits ++ more) = digit :: digits := by
      apply run_append _ hrun
      intro c hc
      rcases List.mem_cons.mp hc with rfl | hc
      · simp [hdigit]
      · exact hdigits c hc
    simp only [List.cons_append, fraction, hdigit, if_true]
    rw [← List.cons_append, hread]

/-- An exponent is read as it is when it is not continued. -/
theorem exponent_append {text more : List Char} (htext : IsExponent text)
    (hrun : startsWith (fun c => Radix.decimal.isDigit c || c == '_') more = false)
    (hmore : exponent more = []) : exponent (text ++ more) = text := by
  cases htext with
  | absent => exact hmore
  | marked mark signs digits hmark hsigns hdigits hhas =>
    have hread : Radix.decimal.run (digits ++ more) = digits := run_append hdigits hrun
    have hsign : sign (signs ++ (digits ++ more)) = signs := by
      simp only [List.mem_cons, List.not_mem_nil, or_false] at hsigns
      rcases hsigns with rfl | rfl | rfl
      · -- the digits that must be there stand where a sign would
        cases digits with
        | nil => simp [Radix.hasDigit] at hhas
        | cons d rest =>
          have hd := hdigits d (by simp)
          simp only [List.nil_append, List.cons_append]
          unfold sign
          split
          · rename_i heq
            obtain ⟨rfl, -⟩ := List.cons.inj heq
            exact absurd hd (by decide)
          · rename_i heq
            obtain ⟨rfl, -⟩ := List.cons.inj heq
            exact absurd hd (by decide)
          · rfl
      · rfl
      · rfl
    simp only [List.cons_append, List.append_assoc, exponent, hmark, if_true, hsign,
      List.drop_left, hread]

/-- No letter of a pair follows where no identifier is continued. -/
theorem pair_eq_nil (letter : Char) {tail : List Char}
    (hletter : 'a' ≤ letter ∧ letter ≤ 'z') (h : startsWith isIdentifierPart tail = false) :
    pair letter tail = [] := by
  cases tail with
  | nil => rfl
  | cons c rest =>
    have hc : (c.toLower == letter) = false := by
      rw [beq_eq_false_iff_ne]
      intro hlower
      rw [startsWith_cons, isIdentifierPart_of_toLower hlower hletter] at h
      exact absurd h (by simp)
    simp [pair, hc]

/-- No suffix follows where no identifier is continued. -/
theorem suffix_eq_nil {isDecimal isReal : Bool} {tail : List Char}
    (h : startsWith isIdentifierPart tail = false) : suffix isDecimal isReal tail = [] := by
  cases tail with
  | nil => rfl
  | cons c rest =>
    have hne : ∀ letter : Char, 'a' ≤ letter ∧ letter ≤ 'z' → (c.toLower == letter) = false := by
      intro letter hletter
      rw [beq_eq_false_iff_ne]
      intro hlower
      rw [startsWith_cons, isIdentifierPart_of_toLower hlower hletter] at h
      exact absurd h (by simp)
    simp [suffix, hne 'f' (by decide), hne 'd' (by decide), hne 'm' (by decide),
      hne 'u' (by decide), hne 'l' (by decide)]

/-- A suffix is read as it is when no identifier is continued behind it. -/
theorem suffix_append {isDecimal isReal : Bool} {text tail : List Char}
    (htext : IsSuffix isDecimal isReal text) (h : startsWith isIdentifierPart tail = false) :
    suffix isDecimal isReal (text ++ tail) = text := by
  cases htext with
  | absent => exact suffix_eq_nil h
  | real c hdecimal hc =>
    simp only [List.mem_cons, List.not_mem_nil, or_false] at hc
    rcases hc with hc | hc | hc <;> simp [suffix, hc, hdecimal]
  | integer c hreal hc =>
    have hu := pair_eq_nil 'u' (by decide) h
    have hl := pair_eq_nil 'l' (by decide) h
    simp only [List.mem_cons, List.not_mem_nil, or_false] at hc
    rcases hc with hc | hc <;> simp [suffix, hc, hreal, hu, hl]
  | pair c d hreal hcd =>
    simp only [List.mem_cons, List.not_mem_nil, or_false, Prod.mk.injEq] at hcd
    rcases hcd with ⟨hc, hd⟩ | ⟨hc, hd⟩ <;> simp [suffix, pair, hc, hd, hreal]

end Numeral

/-! ## Reading a number with anything behind it -/

/-- The letters that announce a base behind a zero. -/
def isRadixMark (c : Char) : Bool :=
  c == 'x' || c == 'X' || c == 'b' || c == 'B'

/-- Without a mark in the second place no base is announced. -/
theorem Radix.announced?_cons_eq_none {c : Char} {rest : List Char}
    (h : startsWith isRadixMark rest = false) : Radix.announced? (c :: rest) = none := by
  unfold Radix.announced?
  split
  case h_5 => rfl
  all_goals
    rename_i heq
    obtain ⟨-, rfl⟩ := List.cons.inj heq
    exact absurd h (by simp [isRadixMark])

/-- The first two characters say whether a base is announced, whatever follows. -/
theorem Radix.announced?_append {mark : List Char} (rest : List Char) (hlength : mark.length = 2) :
    Radix.announced? (mark ++ rest) = Radix.announced? mark := by
  match mark, hlength with
  | [c, d], _ =>
    simp only [List.cons_append, List.nil_append]
    unfold Radix.announced?
    split <;> simp_all

namespace Numeral

/-- What continues no identifier starts with no mark of a base. -/
theorem startsWith_radixMark {tail : List Char} (h : startsWith isIdentifierPart tail = false) :
    startsWith isRadixMark tail = false := by
  refine startsWith_eq_false_of_imp ?_ h
  intro c hc
  simp only [isRadixMark, Bool.or_eq_true, beq_iff_eq] at hc
  rcases hc with ((rfl | rfl) | rfl) | rfl <;> decide +kernel

/-- Decimal digits start with no mark of a base. -/
theorem IsRun.startsWith_radixMark {text : List Char} (h : IsRun .decimal text) :
    startsWith isRadixMark text = false := by
  cases text with
  | nil => rfl
  | cons c rest =>
    have hc := h c (by simp)
    rw [startsWith_cons]
    cases hmark : isRadixMark c with
    | false => rfl
    | true =>
      simp only [isRadixMark, Bool.or_eq_true, beq_iff_eq] at hmark
      rcases hmark with ((rfl | rfl) | rfl) | rfl <;> exact absurd hc (by decide)

/-- A fraction starts with its point or not at all. -/
theorem IsFraction.startsWith_eq_false {p : Char → Bool} {text : List Char}
    (h : IsFraction text) (hp : p '.' = false) : startsWith p text = false := by
  cases h with
  | absent => rfl
  | point digit digits _ _ => exact hp

/-- An exponent starts with its mark or not at all. -/
theorem IsExponent.startsWith_eq_false {p : Char → Bool} {text : List Char}
    (h : IsExponent text) (hlower : p 'e' = false) (hupper : p 'E' = false) :
    startsWith p text = false := by
  cases h with
  | absent => rfl
  | marked mark signs digits hmark _ _ _ =>
    simp only [Bool.or_eq_true, beq_iff_eq] at hmark
    rcases hmark with rfl | rfl
    · exact hlower
    · exact hupper

/-- The lower case of the letters that suffixes start with. -/
def suffixLetters : Bool → List Char
  | true => ['f', 'd', 'm', 'u', 'l']
  | false => ['u', 'l']

/-- A suffix starts with one of its letters. -/
theorem IsSuffix.startsWith_eq_false {isDecimal isReal : Bool} {p : Char → Bool}
    {text : List Char} (h : IsSuffix isDecimal isReal text)
    (hp : ∀ c, p c = true → c.toLower ∉ suffixLetters isDecimal) :
    startsWith p text = false := by
  have hhead : ∀ c, c.toLower ∈ suffixLetters isDecimal → p c = false := by
    intro c hc
    cases hpc : p c with
    | false => rfl
    | true => exact absurd hc (hp c hpc)
  cases h with
  | absent => rfl
  | real c hdecimal hc =>
    apply hhead c
    subst hdecimal
    simp only [List.mem_cons, List.not_mem_nil, or_false] at hc
    rcases hc with hc | hc | hc <;> simp [hc, suffixLetters]
  | integer c _ hc =>
    apply hhead c
    simp only [List.mem_cons, List.not_mem_nil, or_false] at hc
    cases isDecimal <;> rcases hc with hc | hc <;> simp [hc, suffixLetters]
  | pair c d _ hcd =>
    apply hhead c
    simp only [List.mem_cons, List.not_mem_nil, or_false, Prod.mk.injEq] at hcd
    cases isDecimal <;> rcases hcd with ⟨hc, -⟩ | ⟨hc, -⟩ <;> simp [hc, suffixLetters]

/-- The lower case of a character is the character, or 32 code points behind a capital letter. -/
theorem toNat_toLower (c : Char) : c.toLower.toNat = c.toNat ∨
    65 ≤ c.toNat ∧ c.toNat ≤ 90 ∧ c.toLower.toNat = c.toNat + 32 := by
  unfold Char.toLower
  split
  · rename_i hupper
    right
    have hbounds : 65 ≤ c.toNat ∧ c.toNat ≤ 90 := hupper
    refine ⟨hbounds.1, hbounds.2, ?_⟩
    change (c.val + ('a'.val - 'A'.val)).toNat = c.val.toNat + 32
    have hval : c.val.toNat ≤ 90 := hbounds.2
    rw [UInt32.toNat_add]
    have hshift : ('a'.val - 'A'.val).toNat = 32 := by decide
    omega
  · exact Or.inl rfl

/-- The digits `f` and `d` are no suffix letters where they are digits. -/
theorem toLower_not_mem_of_run {radix : Radix} {isDecimal : Bool}
    (hradix : isDecimal = true → radix = .decimal) {c : Char}
    (h : (radix.isDigit c || c == '_') = true) : c.toLower ∉ suffixLetters isDecimal := by
  intro hc
  have hlower := toNat_toLower c
  simp only [Bool.or_eq_true, beq_iff_eq] at h
  rcases h with hdigit | rfl
  · cases isDecimal with
    | true =>
      rw [hradix rfl, Radix.isDigit_decimal_iff] at hdigit
      simp only [suffixLetters, List.mem_cons, List.not_mem_nil, or_false] at hc
      rcases hc with hc | hc | hc | hc | hc <;> rw [hc] at hlower <;> simp at hlower <;> omega
    | false =>
      have hbounds : (48 ≤ c.toNat ∧ c.toNat ≤ 57) ∨ (97 ≤ c.toNat ∧ c.toNat ≤ 102) ∨
        (65 ≤ c.toNat ∧ c.toNat ≤ 70) := Radix.bounds_of_isDigit hdigit
      simp only [suffixLetters, List.mem_cons, List.not_mem_nil, or_false] at hc
      rcases hc with hc | hc <;> rw [hc] at hlower <;> simp at hlower <;> omega
  · cases isDecimal <;> exact absurd hc (by decide)

/-- The mark of an exponent is no suffix letter. -/
theorem toLower_not_mem_of_exponentMark {c : Char} (h : (c == 'e' || c == 'E') = true) :
    c.toLower ∉ suffixLetters true := by
  simp only [Bool.or_eq_true, beq_iff_eq] at h
  rcases h with rfl | rfl <;> decide

/-- The mark of a base is no suffix letter. -/
theorem toLower_not_mem_of_radixMark {c : Char} (h : isRadixMark c = true) :
    c.toLower ∉ suffixLetters true := by
  simp only [isRadixMark, Bool.or_eq_true, beq_iff_eq] at h
  rcases h with ((rfl | rfl) | rfl) | rfl <;> decide

/-- Where no point stands there is no fraction. -/
theorem fraction_append_eq_nil {text more : List Char} (htext : startsWith (· == '.') text = false)
    (hmore : fraction more = []) : fraction (text ++ more) = [] := by
  cases text with
  | nil => exact hmore
  | cons c rest =>
    rw [startsWith_cons, beq_eq_false_iff_ne] at htext
    simp only [List.cons_append]
    unfold fraction
    split
    · rename_i heq
      exact absurd (List.cons.inj heq).1 htext
    · rfl

/-- Where no mark stands there is no exponent. -/
theorem exponent_eq_nil {text : List Char}
    (h : startsWith (fun c => c == 'e' || c == 'E') text = false) : exponent text = [] := by
  cases text with
  | nil => rfl
  | cons c rest =>
    rw [startsWith_cons] at h
    simp [exponent, h]

/-- What continues no identifier starts with no mark of an exponent. -/
theorem startsWith_exponentMark {tail : List Char} (h : startsWith isIdentifierPart tail = false) :
    startsWith (fun c => c == 'e' || c == 'E') tail = false := by
  refine startsWith_eq_false_of_imp ?_ h
  intro c hc
  simp only [Bool.or_eq_true, beq_iff_eq] at hc
  rcases hc with rfl | rfl <;> decide +kernel

/-- A decimal number announces no base. -/
theorem announced?_decimal {whole fraction exponent suffix tail : List Char} {isReal : Bool}
    (hwhole : IsRun .decimal whole) (hfraction : IsFraction fraction)
    (hexponent : IsExponent exponent)
    (hstart : startsWith Radix.decimal.isDigit whole = true ∨ whole = [] ∧ fraction ≠ [])
    (hsuffix : IsSuffix true isReal suffix) (htail : startsWith isIdentifierPart tail = false) :
    Radix.announced? (whole ++ (fraction ++ (exponent ++ (suffix ++ tail)))) = none := by
  have hmark : startsWith isRadixMark (fraction ++ (exponent ++ (suffix ++ tail))) = false := by
    refine startsWith_append_eq_false (hfraction.startsWith_eq_false (by decide)) ?_
    refine startsWith_append_eq_false (hexponent.startsWith_eq_false (by decide) (by decide)) ?_
    exact startsWith_append_eq_false
      (hsuffix.startsWith_eq_false fun c hc => toLower_not_mem_of_radixMark hc)
      (startsWith_radixMark htail)
  rcases hstart with hdigit | ⟨rfl, hpoint⟩
  · cases whole with
    | nil => exact absurd hdigit (by simp)
    | cons c rest =>
      have hrest : IsRun .decimal rest := fun d hd => hwhole d (by simp [hd])
      exact Radix.announced?_cons_eq_none
        (startsWith_append_eq_false hrest.startsWith_radixMark hmark)
  · cases hfraction with
    | absent => exact absurd rfl hpoint
    | point digit digits hdigit hdigits => rfl

/-- An exponent that is there has a digit. -/
theorem IsExponent.hasDigit {text : List Char} (h : IsExponent text) (hne : text ≠ []) :
    Radix.decimal.hasDigit text = true := by
  cases h with
  | absent => exact absurd rfl hne
  | marked mark signs digits _ _ _ hhas =>
    simp only [Radix.hasDigit, List.any_cons, List.any_append, Bool.or_eq_true] at hhas ⊢
    exact Or.inr (Or.inr hhas)

end Numeral

namespace Lexer

open Numeral

/-- The body of a number that announces its base. -/
theorem numberBody_announced {mark digits more : List Char} {radix : Radix}
    (hlength : mark.length = 2) (hmark : Radix.announced? mark = some radix)
    (hdigits : IsRun radix digits) (hhas : radix.hasDigit digits = true)
    (hmore : startsWith (fun c => radix.isDigit c || c == '_') more = false) :
    numberBody (mark ++ (digits ++ more)) = .ok (mark ++ digits, false) := by
  have hread : radix.run (digits ++ more) = digits := run_append hdigits hmore
  have htake : (mark ++ (digits ++ more)).take 2 = mark := by
    rw [← hlength, List.take_left]
  have hdrop : (mark ++ (digits ++ more)).drop 2 = digits ++ more := by
    rw [← hlength, List.drop_left]
  unfold numberBody
  rw [Radix.announced?_append _ hlength, hmark]
  simp only [htake, hdrop, hread, hhas, if_true]

/-- The body of a decimal number: its parts in order, as far as they are there. -/
theorem numberBody_decimal {whole fraction exponent : List Char} (more : List Char)
    (hannounced : Radix.announced? (whole ++ (fraction ++ (exponent ++ more))) = none)
    (hwhole : IsRun .decimal whole) (hfraction : IsFraction fraction)
    (hexponent : IsExponent exponent)
    (hrun : startsWith (fun c => Radix.decimal.isDigit c || c == '_') more = false)
    (hpoint : Numeral.fraction more = [])
    (hmark : startsWith (fun c => c == 'e' || c == 'E') more = false) :
    numberBody (whole ++ (fraction ++ (exponent ++ more))) =
      .ok (whole ++ fraction ++ exponent, !fraction.isEmpty || !exponent.isEmpty) := by
  -- from the back: each part ends where the next one starts
  have hrun' : startsWith (fun c => Radix.decimal.isDigit c || c == '_') (exponent ++ more)
      = false :=
    startsWith_append_eq_false (hexponent.startsWith_eq_false (by decide) (by decide)) hrun
  have hpoint' : Numeral.fraction (exponent ++ more) = [] :=
    fraction_append_eq_nil (hexponent.startsWith_eq_false (by decide) (by decide)) hpoint
  have hreadWhole : Radix.decimal.run (whole ++ (fraction ++ (exponent ++ more))) = whole :=
    run_append hwhole
      (startsWith_append_eq_false (hfraction.startsWith_eq_false (by decide)) hrun')
  have hreadFraction : Numeral.fraction (fraction ++ (exponent ++ more)) = fraction :=
    fraction_append hfraction hrun' hpoint'
  have hreadExponent : Numeral.exponent (exponent ++ more) = exponent :=
    exponent_append hexponent hrun (exponent_eq_nil hmark)
  have hdropFraction : (whole ++ (fraction ++ (exponent ++ more))).drop (whole ++ fraction).length
      = exponent ++ more := by
    rw [← List.append_assoc, List.drop_left]
  unfold numberBody
  rw [hannounced]
  simp only [hreadWhole, List.drop_left, hreadFraction, hdropFraction, hreadExponent]
  cases hcase : exponent.isEmpty with
  | true => simp
  | false =>
    have hne : exponent ≠ [] := by
      rintro rfl
      exact absurd hcase (by simp)
    simp [hexponent.hasDigit hne]

/-- A number is its body and its suffix, if both are read where they stand and nothing continues
them. -/
theorem number_of_numberBody (isDecimal : Bool) {body suffix tail : List Char} {isReal : Bool}
    (hannounced : (Radix.announced? (body ++ (suffix ++ tail))).isNone = isDecimal)
    (hbody : numberBody (body ++ (suffix ++ tail)) = .ok (body, isReal))
    (hsuffix : IsSuffix isDecimal isReal suffix)
    (hpart : startsWith isIdentifierPart tail = false) :
    number (body ++ (suffix ++ tail)) = .ok (body ++ suffix) := by
  have hread : Numeral.suffix isDecimal isReal (suffix ++ tail) = suffix :=
    suffix_append hsuffix hpart
  have hdrop : (body ++ (suffix ++ tail)).drop (body ++ suffix).length = tail := by
    rw [← List.append_assoc, List.drop_left]
  unfold number
  rw [hbody]
  simp only [hannounced, List.drop_left, hread, hdrop]
  cases tail with
  | nil => rfl
  | cons c rest =>
    rw [startsWith_cons] at hpart
    simp [hpart]

/-- A number is read as it is when nothing follows that continues it. -/
theorem number_append {text tail : List Char} (h : IsNumeral text) (htail : EndsNumber tail) :
    number (text ++ tail) = .ok text := by
  cases h with
  | announced mark digits suffix radix hlength hmark hdigits hhas hsuffix =>
    -- a suffix letter such as `f` is a digit only of the base that has no such suffix
    have hmore : startsWith (fun c => radix.isDigit c || c == '_') (suffix ++ tail) = false :=
      startsWith_append_eq_false
        (hsuffix.startsWith_eq_false fun c hc => toLower_not_mem_of_run (by simp) hc)
        (startsWith_run htail.part)
    have hbody := numberBody_announced hlength hmark hdigits hhas hmore
    rw [List.append_assoc]
    refine number_of_numberBody false ?_ ?_ hsuffix htail.part
    · rw [List.append_assoc, Radix.announced?_append _ hlength, hmark]
      rfl
    · rw [List.append_assoc]
      exact hbody
  | decimal whole fraction exponent suffix hwhole hfraction hexponent hstart hsuffix =>
    have hannounced := announced?_decimal hwhole hfraction hexponent hstart hsuffix htail.part
    have hbody := numberBody_decimal (suffix ++ tail) hannounced hwhole hfraction hexponent
      (startsWith_append_eq_false
        (hsuffix.startsWith_eq_false fun c hc => toLower_not_mem_of_run (by simp) hc)
        (startsWith_run htail.part))
      (fraction_append_eq_nil
        (hsuffix.startsWith_eq_false fun c hc => by
          rw [beq_iff_eq] at hc
          subst hc
          decide)
        htail.point)
      (startsWith_append_eq_false
        (hsuffix.startsWith_eq_false fun c hc => toLower_not_mem_of_exponentMark hc)
        (startsWith_exponentMark htail.part))
    have htext : whole ++ fraction ++ exponent ++ suffix ++ tail
        = (whole ++ fraction ++ exponent) ++ (suffix ++ tail) := by simp
    rw [htext]
    refine number_of_numberBody true ?_ ?_ hsuffix htail.part
    · rw [List.append_assoc, List.append_assoc, hannounced]
      rfl
    · rw [List.append_assoc, List.append_assoc]
      exact hbody

end Lexer

/-! ## What the reader takes is a number -/

namespace Numeral

/-- What is taken as a run is one. -/
theorem isRun_run (radix : Radix) (text : List Char) : IsRun radix (radix.run text) := by
  intro c hc
  have h := List.mem_takeWhile_imp hc
  exact h

/-- What is taken as a run stands at the front of the text. -/
theorem run_isPrefix (radix : Radix) (text : List Char) : radix.run text <+: text :=
  List.takeWhile_prefix _

/-- What is taken as a fraction is one. -/
theorem isFraction_fraction (text : List Char) : IsFraction (fraction text) := by
  unfold fraction
  split
  · rename_i c rest
    split
    · rename_i hdigit
      have hrun : Radix.decimal.run (c :: rest) = c :: Radix.decimal.run rest := by
        simp [Radix.run, hdigit]
      rw [hrun]
      exact .point c _ hdigit (isRun_run _ _)
    · exact .absent
  · exact .absent

/-- What is taken as a fraction stands at the front of the text. -/
theorem fraction_isPrefix (text : List Char) : fraction text <+: text := by
  unfold fraction
  split
  · split
    · exact (List.prefix_cons_inj _).mpr (run_isPrefix _ _)
    · exact List.nil_prefix
  · exact List.nil_prefix

/-- A sign is a plus, a minus or missing. -/
theorem sign_mem (text : List Char) : sign text ∈ [[], ['+'], ['-']] := by
  unfold sign
  split <;> simp

/-- A sign stands at the front of the text. -/
theorem sign_isPrefix (text : List Char) : sign text <+: text := by
  unfold sign
  split <;> simp

/-- What is taken as an exponent is one if it is missing or has a digit. Otherwise the number is
refused. -/
theorem isExponent_exponent {text : List Char}
    (h : (exponent text).isEmpty = true ∨ Radix.decimal.hasDigit (exponent text) = true) :
    IsExponent (exponent text) := by
  cases text with
  | nil => exact .absent
  | cons c rest =>
    simp only [exponent] at h ⊢
    split at h
    · rename_i hmark
      rw [if_pos hmark]
      refine .marked c _ _ hmark (sign_mem rest) (isRun_run _ _) ?_
      rcases h with h | h
      · exact absurd h (by simp)
      · -- neither the mark nor the sign is a digit
        have hc : Radix.decimal.isDigit c = false := by
          simp only [Bool.or_eq_true, beq_iff_eq] at hmark
          rcases hmark with rfl | rfl <;> decide
        have hs : (sign rest).any Radix.decimal.isDigit = false := by
          have hmem := sign_mem rest
          simp only [List.mem_cons, List.not_mem_nil, or_false] at hmem
          rcases hmem with hs | hs | hs <;> rw [hs] <;> decide
        simpa [Radix.hasDigit, hc, hs] using h
    · rename_i hmark
      rw [if_neg hmark]
      exact .absent

/-- What is taken as an exponent stands at the front of the text. -/
theorem exponent_isPrefix (text : List Char) : exponent text <+: text := by
  cases text with
  | nil => exact List.nil_prefix
  | cons c rest =>
    simp only [exponent]
    split
    · have hsign := List.prefix_iff_eq_append.mp (sign_isPrefix rest)
      refine (List.prefix_cons_inj c).mpr ?_
      conv_rhs => rw [← hsign]
      exact (List.prefix_append_right_inj _).mpr (run_isPrefix _ _)
    · exact List.nil_prefix

/-- The second letter of a suffix stands at the front of the text behind the first. -/
theorem pair_isPrefix (letter : Char) (text : List Char) : pair letter text <+: text := by
  cases text with
  | nil => exact List.nil_prefix
  | cons c rest =>
    simp only [pair]
    split
    · simp
    · exact List.nil_prefix

/-- The second letter of a suffix is missing or is the letter that is looked for, in either case. -/
theorem pair_eq (letter : Char) (text : List Char) :
    pair letter text = [] ∨ ∃ c, c.toLower = letter ∧ pair letter text = [c] := by
  cases text with
  | nil => exact Or.inl rfl
  | cons c rest =>
    simp only [pair]
    split
    · rename_i hc
      exact Or.inr ⟨c, beq_iff_eq.mp hc, rfl⟩
    · exact Or.inl rfl

/-- What is taken as a suffix is one. -/
theorem isSuffix_suffix (isDecimal isReal : Bool) (text : List Char) :
    IsSuffix isDecimal isReal (suffix isDecimal isReal text) := by
  cases text with
  | nil => exact .absent
  | cons c rest =>
    simp only [suffix]
    split_ifs with hreal hu hl
    · simp only [Bool.and_eq_true, Bool.or_eq_true, beq_iff_eq] at hreal
      refine .real c hreal.1 ?_
      rcases hreal.2 with (hc | hc) | hc <;> simp [hc]
    · simp only [Bool.and_eq_true, Bool.not_eq_true', beq_iff_eq] at hu
      rcases pair_eq 'l' rest with hpair | ⟨d, hd, hpair⟩
      · rw [hpair]
        exact .integer c hu.1 (by simp [hu.2])
      · rw [hpair]
        exact .pair c d hu.1 (by simp [hu.2, hd])
    · simp only [Bool.and_eq_true, Bool.not_eq_true', beq_iff_eq] at hl
      rcases pair_eq 'u' rest with hpair | ⟨d, hd, hpair⟩
      · rw [hpair]
        exact .integer c hl.1 (by simp [hl.2])
      · rw [hpair]
        exact .pair c d hl.1 (by simp [hl.2, hd])
    · exact .absent

/-- What is taken as a suffix stands at the front of the text. -/
theorem suffix_isPrefix (isDecimal isReal : Bool) (text : List Char) :
    suffix isDecimal isReal text <+: text := by
  cases text with
  | nil => exact List.nil_prefix
  | cons c rest =>
    simp only [suffix]
    split_ifs with hreal hu hl
    · simp
    · exact (List.prefix_cons_inj c).mpr (pair_isPrefix _ _)
    · exact (List.prefix_cons_inj c).mpr (pair_isPrefix _ _)
    · exact List.nil_prefix

/-- A base is announced by two characters. -/
theorem announced?_take {text : List Char} {radix : Radix}
    (h : Radix.announced? text = some radix) :
    (text.take 2).length = 2 ∧ Radix.announced? (text.take 2) = some radix := by
  unfold Radix.announced? at h
  split at h
  case h_5 => exact absurd h (by simp)
  all_goals exact ⟨rfl, h⟩

end Numeral

namespace Lexer

open Numeral

/-- What is taken behind a front of the text makes a longer front. -/
theorem append_prefix_of_drop {front more text : List Char} (hfront : front <+: text)
    (hmore : more <+: text.drop front.length) : front ++ more <+: text := by
  conv_rhs => rw [← List.prefix_iff_eq_append.mp hfront]
  exact (List.prefix_append_right_inj _).mpr hmore

/-- Where a number starts, its whole digits start with a digit, or are missing in front of a
fraction. -/
theorem decimal_start {text : List Char}
    (hstart : startsWith Radix.decimal.isDigit text = true ∨ fraction text ≠ []) :
    startsWith Radix.decimal.isDigit (Radix.decimal.run text) = true ∨
      Radix.decimal.run text = [] ∧
        fraction (text.drop (Radix.decimal.run text).length) ≠ [] := by
  rcases hstart with hdigit | hfraction
  · left
    cases text with
    | nil => exact absurd hdigit (by simp)
    | cons c rest =>
      rw [startsWith_cons] at hdigit
      simp [Radix.run, hdigit]
  · right
    have hrun : Radix.decimal.run text = [] := by
      unfold fraction at hfraction
      split at hfraction
      · rfl
      · exact absurd rfl hfraction
    rw [hrun]
    exact ⟨rfl, hfraction⟩

/-- The body that is taken is the front of a number: what makes it a number with a suffix is that
the suffix fits to it. -/
theorem numberBody_sound {text body : List Char} {isReal : Bool}
    (hstart : startsWith Radix.decimal.isDigit text = true ∨ fraction text ≠ [])
    (h : numberBody text = .ok (body, isReal)) :
    body <+: text ∧ ∀ suffix,
      IsSuffix (Radix.announced? text).isNone isReal suffix → IsNumeral (body ++ suffix) := by
  unfold numberBody at h
  cases hannounced : Radix.announced? text with
  | some radix =>
    rw [hannounced] at h
    simp only at h
    split at h
    · rename_i hhas
      injection h with h
      obtain ⟨rfl, rfl⟩ := Prod.mk.inj h
      obtain ⟨hlength, hmark⟩ := announced?_take hannounced
      refine ⟨?_, ?_⟩
      · conv_rhs => rw [← List.take_append_drop 2 text]
        exact (List.prefix_append_right_inj _).mpr (run_isPrefix _ _)
      · intro suffix hsuffix
        exact .announced _ _ suffix radix hlength hmark (isRun_run _ _) hhas hsuffix
    · exact absurd h (by simp)
  | none =>
    rw [hannounced] at h
    simp only at h
    set whole := Radix.decimal.run text with hwhole
    set fractional := fraction (text.drop whole.length) with hfractional
    set exponential := exponent (text.drop (whole ++ fractional).length) with hexponential
    have hfront : whole ++ fractional <+: text :=
      append_prefix_of_drop (run_isPrefix _ _) (fraction_isPrefix _)
    have hfront : whole ++ fractional ++ exponential <+: text :=
      append_prefix_of_drop hfront (exponent_isPrefix _)
    -- every part is right as it is read, except for an exponent without digits
    have hnumeral : ∀ suffix, IsExponent exponential →
        IsSuffix true (!fractional.isEmpty || !exponential.isEmpty) suffix →
        IsNumeral (whole ++ fractional ++ exponential ++ suffix) := fun suffix hexp hsuffix =>
      .decimal whole fractional exponential suffix (isRun_run _ _) (isFraction_fraction _) hexp
        (decimal_start hstart) hsuffix
    split_ifs at h with hempty hhas
    · injection h with h
      obtain ⟨rfl, rfl⟩ := Prod.mk.inj h
      refine ⟨hfront, fun suffix hsuffix => hnumeral suffix ?_ ?_⟩
      · exact isExponent_exponent (Or.inl hempty)
      · simpa [hempty] using hsuffix
    · injection h with h
      obtain ⟨rfl, rfl⟩ := Prod.mk.inj h
      refine ⟨hfront, fun suffix hsuffix => hnumeral suffix ?_ ?_⟩
      · exact isExponent_exponent (Or.inr hhas)
      · simpa [hempty] using hsuffix

/-- What is taken as a number from a text that starts like one is a number, and nothing that could
continue an identifier follows. -/
theorem number_sound {text lexeme : List Char}
    (hstart : startsWith Radix.decimal.isDigit text = true ∨ fraction text ≠ [])
    (h : number text = .ok lexeme) :
    IsNumeral lexeme ∧ lexeme <+: text ∧
      startsWith isIdentifierPart (text.drop lexeme.length) = false := by
  unfold number at h
  split at h
  · exact absurd h (by simp)
  · rename_i body isReal hbody
    obtain ⟨hfront, hnumeral⟩ := numberBody_sound hstart hbody
    have htaken := append_prefix_of_drop hfront
      (suffix_isPrefix (Radix.announced? text).isNone isReal _)
    have hlexeme := hnumeral _ (isSuffix_suffix _ _ (text.drop body.length))
    simp only at h
    split at h
    · rename_i c rest hdrop
      split at h
      · exact absurd h (by simp)
      · rename_i hc
        injection h with h
        subst h
        refine ⟨hlexeme, htaken, ?_⟩
        rw [hdrop, startsWith_cons]
        simpa using hc
    · rename_i hdrop
      injection h with h
      subst h
      refine ⟨hlexeme, htaken, ?_⟩
      rw [hdrop, startsWith_nil]

end Lexer

end DeclScribe
