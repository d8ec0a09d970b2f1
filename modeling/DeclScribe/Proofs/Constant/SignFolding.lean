import DeclScribe.Proofs.Constant.IntegerLiterals

/-!
# Folding signs

A minus sign takes a constant from one type to another: an `int` may become a `long`, a `uint`
always does, and most of `ulong` has no opposite at all. Whatever way it takes through the types, an
expression of integer literals, parentheses and minus signs denotes its exact value, in a type that
holds it, as long as every literal and the result of every minus sign fit 64 bits. Otherwise it
denotes a text.
-/

set_option autoImplicit false

namespace DeclScribe

namespace Expr

/-- The expressions that are made of integer literals, parentheses and minus signs. -/
inductive IsSignedInteger : Expr → Prop
  | literal (token : String) : IsSoleToken .number token → Numeral.isInteger token.toList = true →
      IsSignedInteger (.literal ⟨.numeric, token⟩)
  | paren (inner : Expr) : IsSignedInteger inner → IsSignedInteger (.paren inner)
  | minus (operand : Expr) : IsSignedInteger operand → IsSignedInteger (.unary .minus operand)

/-- The value of such an expression, of any size. -/
def integerValue : Expr → Int
  | .literal value => Numeral.value value.token.toList
  | .paren inner => inner.integerValue
  | .unary .minus operand => -operand.integerValue
  | _ => 0

/-- Every literal is a number of 64 bits, and every minus sign gives a signed one. -/
def StaysInRange : Expr → Prop
  | .literal value => Numeral.value value.token.toList < 2 ^ 64
  | .paren inner => inner.StaysInRange
  | .unary .minus operand => operand.StaysInRange ∧
      -2 ^ 63 ≤ -operand.integerValue ∧ -operand.integerValue < 2 ^ 63
  | _ => True

/-- An expression without the parentheses around the whole of it. -/
def unwrapped : Expr → Expr
  | .paren inner => inner.unwrapped
  | e => e

end Expr

namespace Constant

/-- A constant that is an integer in a type that holds it. -/
def IsTyped (c : Constant) (value : Int) : Prop :=
  ∃ type ∈ LiteralType.all, type.range.holds value = true ∧
    c.IsPrimitive (some type.word) (type.value value)

/-! ## One minus sign -/

/-- A `long` is typed if 64 bits hold its value. -/
theorem isTyped_long {value : Int} (h : (IntRange.signed 64).holds value = true) :
    (long value).IsTyped value :=
  ⟨⟨"long", false, 64⟩, by simp [LiteralType.all], h, rfl, rfl, rfl⟩

/-- An integer of a document is typed if 64 bits hold its value. -/
theorem isTyped_ofInteger {value : Int} (h : (IntRange.signed 64).holds value = true) :
    (ofInteger value).IsTyped value := by
  unfold ofInteger
  split_ifs with hsmall
  · exact ⟨⟨"int", false, 32⟩, by simp [LiteralType.all], hsmall, rfl, rfl, rfl⟩
  · exact isTyped_long h

namespace IsTyped

variable {c : Constant} {value : Int}

/-- A typed integer is an integer: that its type holds it means that no unsigned type loses its
sign. -/
theorem isInteger (h : c.IsTyped value) : c.IsInteger value := by
  obtain ⟨⟨word, isUnsigned, bits⟩, -, hholds, hprimitive⟩ := h
  refine ⟨hprimitive.kind_eq, ?_⟩
  rw [hprimitive.value_eq]
  cases isUnsigned with
  | false => rfl
  | true =>
    have hnonneg : 0 ≤ value := (IntRange.holds_iff.mp hholds).1
    exact congrArg some (Int.toNat_of_nonneg hnonneg)

/-- A typed integer whose opposite fits 64 bits has an opposite, which is typed again. -/
theorem negate (h : c.IsTyped value) (hrange : -2 ^ 63 ≤ -value ∧ -value < 2 ^ 63) :
    ∃ opposite, c.negate? = some opposite ∧ opposite.IsTyped (-value) := by
  have hholds := holds_signed64_iff.mpr hrange
  obtain ⟨opposite, htyped, hnegate⟩ := h.isInteger.negate?_eq
  rw [if_pos hholds] at hnegate
  refine ⟨opposite, hnegate, ?_⟩
  rcases htyped with rfl | rfl
  · exact isTyped_ofInteger hholds
  · exact isTyped_long hholds

/-- A typed integer whose opposite does not fit 64 bits has no opposite. -/
theorem negate_eq_none (h : c.IsTyped value) (hrange : ¬ (-2 ^ 63 ≤ -value ∧ -value < 2 ^ 63)) :
    c.negate? = none := by
  obtain ⟨opposite, -, hnegate⟩ := h.isInteger.negate?_eq
  rwa [if_neg (mt holds_signed64_iff.mp hrange)] at hnegate

end IsTyped

/-! ## All signs -/

/-- An integer literal below `2^64` is typed. -/
theorem isTyped_literal {token : String} (h : IsSoleToken .number token)
    (hinteger : Numeral.isInteger token.toList = true)
    (hvalue : Numeral.value token.toList < 2 ^ 64) :
    (ofNumeral token).IsTyped (Numeral.value token.toList) := by
  obtain ⟨type, htype, hconstant⟩ :=
    exists_isPrimitive_ofNumeral (isSoleToken_iff.mp h).isNumeral hinteger hvalue
  have hholds := List.find?_some htype
  have hmem := List.mem_of_find?_eq_some htype
  exact ⟨type, List.mem_of_mem_filter hmem, hholds, hconstant⟩

/-- An expression of integer literals and minus signs denotes its exact value in a type that holds
it if it stays in range, and otherwise its text. -/
theorem sign_folding_is_exact {e : Expr} (h : e.IsSignedInteger) :
    (e.StaysInRange → ∃ type ∈ LiteralType.all, type.range.holds e.integerValue = true ∧
      (ofExpr e).IsPrimitive (some type.word) (type.value e.integerValue)) ∧
      (¬ e.StaysInRange →
        (ofExpr e).IsPrimitive (some "object") (.string e.unwrapped.print)) := by
  -- One minus sign more keeps an integer typed, and leaves a text a text.
  induction h with
  | literal token hsole hinteger =>
    refine ⟨isTyped_literal hsole hinteger, ?_⟩
    intro hgreat
    exact isPrimitive_ofNumeral_text (isSoleToken_iff.mp hsole).isNumeral hinteger
      (Nat.le_of_not_lt hgreat)
  | paren inner _ ih => exact ih
  | minus operand _ ih =>
    obtain ⟨hinside, houtside⟩ := ih
    refine ⟨?_, ?_⟩
    · rintro ⟨hoperand, hrange⟩
      obtain ⟨opposite, hopposite, htyped⟩ := IsTyped.negate (hinside hoperand) hrange
      rw [ofExpr, hopposite]
      exact htyped
    · intro hout
      have hnone : (ofExpr operand).negate? = none := by
        by_cases hoperand : operand.StaysInRange
        · exact IsTyped.negate_eq_none (hinside hoperand) fun hrange => hout ⟨hoperand, hrange⟩
        · rw [isPrimitive_iff.mp (houtside hoperand)]
          rfl
      rw [ofExpr, hnone]
      exact ⟨rfl, rfl, rfl⟩

/-- The magnitude of the least `long` is a `ulong` and has an opposite, which has none itself. -/
theorem sign_folding_is_exact_sample :
    (∃ type ∈ LiteralType.all, type.range.holds (-9223372036854775808) = true ∧
      (ofExpr (.unary .minus (.literal ⟨.numeric, "9223372036854775808"⟩))).IsPrimitive
        (some type.word) (type.value (-9223372036854775808))) ∧
      (ofExpr (.unary .minus (.paren (.unary .minus
        (.literal ⟨.numeric, "9223372036854775808"⟩))))).IsPrimitive
        (some "object") (.string "-(-9223372036854775808)") := by
  have hsole : IsSoleToken .number "9223372036854775808" := ⟨⟨19, 1, 20⟩, by decide +kernel⟩
  have hinteger : Numeral.isInteger "9223372036854775808".toList = true := by
    decide +kernel
  have hvalue : Numeral.value "9223372036854775808".toList = 9223372036854775808 := by
    decide +kernel
  have hliteral := Expr.IsSignedInteger.literal _ hsole hinteger
  have hexact : Expr.integerValue (.unary .minus (.literal ⟨.numeric, "9223372036854775808"⟩)) =
      -9223372036854775808 := by
    simp only [Expr.integerValue, hvalue]
    rfl
  refine ⟨?_, ?_⟩
  · have hrange : Expr.StaysInRange
        (.unary .minus (.literal ⟨.numeric, "9223372036854775808"⟩)) := by
      simp only [Expr.StaysInRange, Expr.integerValue, hvalue]
      omega
    have hfolded := (sign_folding_is_exact (.minus _ hliteral)).1 hrange
    rwa [hexact] at hfolded
  · refine (sign_folding_is_exact (.minus _ (.paren _ (.minus _ hliteral)))).2 ?_
    rintro ⟨-, -, hbelow⟩
    rw [Expr.integerValue, hexact] at hbelow
    omega

end Constant

end DeclScribe
