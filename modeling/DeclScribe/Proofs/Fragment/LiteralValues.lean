import DeclScribe.Proofs.Fragment.LiteralText
import DeclScribe.Proofs.Fragment.RoundTrip

/-!
# Values as well-formed expressions

Every value becomes an expression that a text can be read as, so that what is printed for a value
is read back as the same expression. For text and characters this is in the text of their literals;
for numbers it is that decimal digits, with a point or an exponent between them, are a number token.
-/

set_option autoImplicit false

namespace DeclScribe

/-! ## Decimal digits -/

/-- Decimal digits and nothing else. -/
def AreDigits (text : List Char) : Prop :=
  ∀ c ∈ text, c.isDigit = true

/-- The digits of base ten are the decimal digits. -/
theorem Radix.isDigit_decimal (c : Char) : Radix.decimal.isDigit c = c.isDigit := by
  have hdigit : c.isDigit = true ↔ 48 ≤ c.toNat ∧ c.toNat ≤ 57 := by
    rw [Char.isDigit, Bool.and_eq_true, decide_eq_true_iff, decide_eq_true_iff]
    exact Iff.rfl
  rw [Bool.eq_iff_iff, Radix.isDigit_decimal_iff, hdigit]

namespace AreDigits

variable {text more : List Char}

/-- A number is written with digits. -/
theorem toDigits (n : Nat) : AreDigits (Nat.toDigits 10 n) :=
  fun _ hc => Nat.isDigit_of_mem_toDigits (by omega) (by omega) hc

/-- The zeros that fill up a number are digits. -/
theorem zeros (n : Nat) : AreDigits (List.replicate n '0') := by
  intro c hc
  rw [List.eq_of_mem_replicate hc]
  decide

/-- Digits behind digits are digits. -/
theorem append (h : AreDigits text) (hmore : AreDigits more) : AreDigits (text ++ more) :=
  List.forall_mem_append.mpr ⟨h, hmore⟩

/-- The first digits are digits. -/
theorem take (h : AreDigits text) (n : Nat) : AreDigits (text.take n) :=
  fun c hc => h c (List.mem_of_mem_take hc)

/-- The last digits are digits. -/
theorem drop (h : AreDigits text) (n : Nat) : AreDigits (text.drop n) :=
  fun c hc => h c (List.mem_of_mem_drop hc)

/-- Digits are a run of digits without separators. -/
theorem isRun (h : AreDigits text) : Numeral.IsRun .decimal text := by
  intro c hc
  rw [Radix.isDigit_decimal, h c hc, Bool.true_or]

/-- Some digits start with a digit. -/
theorem startsWith (h : AreDigits text) (hne : text ≠ []) :
    Lexer.startsWith Radix.decimal.isDigit text = true := by
  cases text with
  | nil => exact absurd rfl hne
  | cons c rest => rw [startsWith_cons, Radix.isDigit_decimal, h c (by simp)]

/-- Some digits have a digit among them. -/
theorem hasDigit (h : AreDigits text) (hne : text ≠ []) :
    Radix.decimal.hasDigit text = true := by
  cases text with
  | nil => exact absurd rfl hne
  | cons c rest => simp [Radix.hasDigit, Radix.isDigit_decimal, h c (by simp)]

/-- Some digits behind a point are a fraction. -/
theorem isFraction (h : AreDigits text) (hne : text ≠ []) : Numeral.IsFraction ('.' :: text) := by
  cases text with
  | nil => exact absurd rfl hne
  | cons c rest =>
    obtain ⟨hdigit, hrest⟩ := List.forall_mem_cons.mp h
    exact .point c rest (by rw [Radix.isDigit_decimal, hdigit]) (isRun hrest)

end AreDigits

/-! ## Numbers -/

open Numeral (IsFraction IsExponent)

/-- Digits with a fraction and an exponent, each of which may be absent, are a number. -/
theorem IsNumeral.of_digits {whole fraction exponent : List Char} (h : AreDigits whole)
    (hne : whole ≠ []) (hfraction : IsFraction fraction) (hexponent : IsExponent exponent) :
    IsNumeral (whole ++ fraction ++ exponent) := by
  have hnumeral := IsNumeral.decimal whole fraction exponent [] h.isRun hfraction hexponent
    (.inl (h.startsWith hne)) .absent
  rw [List.append_nil] at hnumeral
  exact hnumeral

/-- A number in decimal digits is a numeral. -/
theorem isNumeral_toDigits (n : Nat) : IsNumeral (Nat.toDigits 10 n) := by
  have hnumeral := IsNumeral.of_digits (.toDigits n) Nat.toDigits_ne_nil .absent .absent
  rw [List.append_nil, List.append_nil] at hnumeral
  exact hnumeral

namespace FloatFormat

/-- A number with its point in place has digits on both sides of the point. -/
theorem isNumeral_writePositional (d : Decimal) : IsNumeral (writePositional true d) := by
  have hdigits : AreDigits d.digits := .toDigits _
  unfold writePositional
  dsimp only
  split
  · have hwhole := hdigits.append (.zeros d.exponent.natAbs)
    have hne : d.digits ++ List.replicate d.exponent.natAbs '0' ≠ [] := by
      simp [Decimal.digits, Nat.toDigits_ne_nil]
    have hfraction : IsFraction ['.', '0'] := .point '0' [] (by decide) (by simp [Numeral.IsRun])
    have hnumeral := IsNumeral.of_digits hwhole hne hfraction .absent
    rw [List.append_nil] at hnumeral
    exact hnumeral
  · rename_i hexponent
    generalize hpadded : List.replicate (d.exponent.natAbs + 1 - d.digits.length) '0' ++ d.digits
      = padded
    have hall : AreDigits padded := hpadded ▸ (AreDigits.zeros _).append hdigits
    have hlength : d.exponent.natAbs < padded.length := by
      rw [← hpadded, List.length_append, List.length_replicate]
      omega
    -- there are more digits than places behind the point, and there are such places
    have hwhole : padded.take (padded.length - d.exponent.natAbs) ≠ [] := by
      rw [Ne, ← List.length_eq_zero_iff, List.length_take]
      omega
    have hplaces : padded.drop (padded.length - d.exponent.natAbs) ≠ [] := by
      rw [Ne, ← List.length_eq_zero_iff, List.length_drop]
      omega
    have hnumeral := IsNumeral.of_digits (hall.take _) hwhole
      ((hall.drop _).isFraction hplaces) .absent
    rw [List.append_nil] at hnumeral
    exact hnumeral

/-- A number with an exponent is a numeral, whether its exponent is negative or not. -/
theorem isNumeral_writeExponent (d : Decimal) : IsNumeral (writeExponent false d) := by
  have hexponent : IsExponent ('e' :: ((if d.leading < 0 then ['-'] else []) ++
      Nat.toDigits 10 d.leading.natAbs)) := by
    refine .marked 'e' _ _ rfl ?_ (AreDigits.toDigits _).isRun
      ((AreDigits.toDigits _).hasDigit Nat.toDigits_ne_nil)
    split <;> simp
  have hdigits : AreDigits d.digits := .toDigits _
  have hne : d.digits ≠ [] := Nat.toDigits_ne_nil
  unfold writeExponent
  simp only [Bool.false_eq_true, if_false]
  split
  · rename_i first second rest hsplit
    rw [hsplit] at hdigits
    obtain ⟨hfirst, hrest⟩ := List.forall_mem_cons.mp hdigits
    have hone : AreDigits [first] := by simpa [AreDigits] using hfirst
    exact .of_digits hone (by simp) (AreDigits.isFraction hrest (by simp)) hexponent
  · have hnumeral := IsNumeral.of_digits hdigits hne .absent hexponent
    rw [List.append_nil] at hnumeral
    exact hnumeral

end FloatFormat

namespace Binary64

/-- The absolute value has the magnitude of the number. -/
theorem magnitude_abs (x : Binary64) : x.abs.magnitude = x.magnitude := by
  simp [abs, ofWord, magnitude, Number.twoPow]

/-- The absolute value has no sign. -/
theorem isNegative_abs (x : Binary64) : x.abs.isNegative = false := by
  have hword : x.magnitude < 2 ^ 63 := Nat.mod_lt _ (by decide)
  have hsmall : x.magnitude % 2 ^ 64 < 2 ^ 63 := by omega
  simpa [abs, ofWord, isNegative, Number.twoPow] using hsmall

end Binary64

/-- The decimal literal of an integer, behind a minus sign if the integer is negative. -/
inductive IsIntegerLiteral : Int → Expr → Prop
  | natural (n : Nat) : IsIntegerLiteral n (.literal ⟨.numeric, toString n⟩)
  | negative (n : Nat) : 0 < n →
      IsIntegerLiteral (-n) (.unary .minus (.literal ⟨.numeric, toString n⟩))

/-- The literal of a floating-point number, behind a minus sign if it is below zero. What has no
literal is a member of `double`. -/
inductive IsFloatLiteral (x : Binary64) : Expr → Prop
  | nan : x.isNaN = true → IsFloatLiteral x (.member (.predefined .double) "NaN")
  | infinity : x.isNaN = false → x.isInfinite = true → x.isNegative = false →
      IsFloatLiteral x (.member (.predefined .double) "PositiveInfinity")
  | negativeInfinity : x.isNaN = false → x.isInfinite = true → x.isNegative = true →
      IsFloatLiteral x (.member (.predefined .double) "NegativeInfinity")
  | plain : x.isNaN = false → x.isInfinite = false → x.isNegative = false ∨ x.isZero = true →
      IsFloatLiteral x (.literal ⟨.numeric, LiteralValue.floatFormat.write x.abs⟩)
  | negative : x.isNaN = false → x.isInfinite = false → x.isNegative = true → x.isZero = false →
      IsFloatLiteral x
        (.unary .minus (.literal ⟨.numeric, LiteralValue.floatFormat.write x.abs⟩))

namespace LiteralValue

/-- The magnitude of a finite number is written as a number token. -/
theorem isNumeral_writeFloat {x : Binary64} (hnan : x.isNaN = false)
    (hinfinite : x.isInfinite = false) : IsNumeral (floatFormat.write x.abs).toList := by
  have hnan : x.abs.isNaN = false := by
    rw [Binary64.isNaN, Binary64.magnitude_abs]
    exact hnan
  have hinfinite : x.abs.isInfinite = false := by
    rw [Binary64.isInfinite, Binary64.magnitude_abs]
    exact hinfinite
  simp only [FloatFormat.write, hnan, hinfinite, Binary64.isNegative_abs, Bool.false_eq_true,
    if_false, String.toList_ofList]
  split
  · exact FloatFormat.isNumeral_writePositional _
  · exact FloatFormat.isNumeral_writeExponent _

/-! ## Expressions -/

/-- A numeral is a well-formed literal. -/
theorem wellFormed_numeric {text : String} (h : IsNumeral text.toList) :
    (Expr.literal (.numeric text)).WellFormed :=
  isSoleToken_iff.mpr (.number _ h)

/-- The literal of a natural number is well-formed. -/
theorem wellFormed_natLiteral (n : Nat) : (natLiteral n).WellFormed := by
  refine wellFormed_numeric ?_
  rw [Nat.toString_eq_repr, Nat.toList_repr]
  exact isNumeral_toDigits n

/-- An expression is the literal of an integer exactly if it is the one that the integer becomes. -/
theorem isIntegerLiteral_iff {n : Int} {e : Expr} :
    IsIntegerLiteral n e ↔ (int n).toExpr = .ok e := by
  constructor
  · rintro (⟨n⟩ | ⟨n, hpos⟩)
    · rw [toExpr, if_neg (by omega), Int.natAbs_natCast]
      rfl
    · rw [toExpr, if_pos (by omega), Int.natAbs_neg, Int.natAbs_natCast]
      rfl
  · intro h
    obtain rfl := Except.ok.inj h
    split
    · have hmagnitude : n = -(n.natAbs : Int) := by omega
      have hliteral := IsIntegerLiteral.negative n.natAbs (by omega)
      rwa [← hmagnitude] at hliteral
    · have hmagnitude : n = (n.natAbs : Int) := by omega
      have hliteral := IsIntegerLiteral.natural n.natAbs
      rwa [← hmagnitude] at hliteral

/-- A floating-point number becomes its literal. -/
theorem isFloatLiteral_floatExpr (x : Binary64) : IsFloatLiteral x (floatExpr x) := by
  unfold floatExpr
  simp only [Bool.and_eq_true, Bool.not_eq_true']
  split_ifs with hnan hinfinite hnegative hsign
  · exact .nan hnan
  · exact .negativeInfinity (Bool.eq_false_iff.mpr hnan) hinfinite hnegative
  · exact .infinity (Bool.eq_false_iff.mpr hnan) hinfinite (Bool.eq_false_iff.mpr hnegative)
  · exact .negative (Bool.eq_false_iff.mpr hnan) (Bool.eq_false_iff.mpr hinfinite) hsign.1 hsign.2
  · refine .plain (Bool.eq_false_iff.mpr hnan) (Bool.eq_false_iff.mpr hinfinite) ?_
    rw [Decidable.not_and_iff_or_not, Bool.not_eq_true, Bool.not_eq_false] at hsign
    exact hsign

/-- The literal of a floating-point number is well-formed: a member of `double`, or a numeral with a
minus sign before it if need be. -/
theorem wellFormed_of_isFloatLiteral {x : Binary64} {e : Expr} (h : IsFloatLiteral x e) :
    e.WellFormed := by
  -- The three members of `double` are named by words that nothing reserves.
  have hmember : ∀ word ∈ ["NaN", "NegativeInfinity", "PositiveInfinity"],
      (Expr.member (.predefined .double) word).WellFormed := by
    intro word hword
    have hlexeme : IsLexeme .identifier word.toList := by
      simp only [List.mem_cons, List.not_mem_nil, or_false] at hword
      obtain rfl | rfl | rfl := hword
      all_goals exact .identifier_of_all (by decide) (by decide)
    have hfree : isReserved word = false := by
      have hall : ∀ free ∈ ["NaN", "NegativeInfinity", "PositiveInfinity"],
        isReserved free = false := by decide
      exact hall word hword
    exact ⟨trivial, trivial, isSoleToken_iff.mpr hlexeme, .inr hfree⟩
  cases h with
  | nan => exact hmember _ (by simp)
  | infinity => exact hmember _ (by simp)
  | negativeInfinity => exact hmember _ (by simp)
  | plain hnan hinfinite => exact wellFormed_numeric (isNumeral_writeFloat hnan hinfinite)
  | negative hnan hinfinite =>
    exact ⟨trivial, wellFormed_numeric (isNumeral_writeFloat hnan hinfinite)⟩

/-- Whatever value becomes an expression, the expression is well-formed. -/
theorem wellFormed_of_toExpr {value : LiteralValue} {e : Expr} (h : value.toExpr = .ok e) :
    e.WellFormed := by
  cases value with
  | raw text => exact (Expr.parse_sound h).1
  | string text =>
    obtain rfl := Except.ok.inj h
    exact Literal.wellFormed_ofString text
  | char c =>
    obtain rfl := Except.ok.inj h
    exact Literal.wellFormed_ofChar c
  | int value =>
    obtain rfl := Except.ok.inj h
    split
    · exact ⟨trivial, wellFormed_natLiteral _⟩
    · exact wellFormed_natLiteral _
  | uint value =>
    obtain rfl := Except.ok.inj h
    exact wellFormed_natLiteral _
  | float x =>
    obtain rfl := Except.ok.inj h
    exact wellFormed_of_isFloatLiteral (isFloatLiteral_floatExpr x)
  | bool value =>
    obtain rfl := Except.ok.inj h
    exact Literal.wellFormed_ofBool value
  | null =>
    obtain rfl := Except.ok.inj h
    exact Literal.wellFormed_null

end LiteralValue

end DeclScribe
