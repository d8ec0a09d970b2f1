import DeclScribe.Proofs.Constant.IntegerArguments
import DeclScribe.Proofs.Constant.SignFolding

/-!
# A minus sign before a `long`

Whatever an expression is, an integer that it denotes stands in a type that holds it. So every
`long` but the least one has an opposite, and a minus sign gives exactly that. The type of the
opposite is not the one of the operand: it is found anew from the value, as for an integer of a
document, and is `long` only where no `int` holds the value. A small `long`, which the suffix `L`
makes, is thus an `int` behind a minus sign.
-/

set_option autoImplicit false

namespace DeclScribe

namespace Constant

/-! ## Integers stand in a type that holds them -/

/-- The type that is found for a magnitude holds it. -/
theorem isTyped_of_ofMagnitude? {types : List IntegerType} {n : Nat} {c : Constant}
    (h : ofMagnitude? types n = some c) : c.IsTyped n := by
  obtain ⟨type, hfind, rfl⟩ := Option.map_eq_some_iff.mp h
  have hfits : n ≤ type.greatest := by simpa using List.find?_some hfind
  refine ⟨type.literalType, ?_, ?_, ?_⟩
  · cases type <;> decide
  · rw [type.holds_range]
    exact decide_eq_true hfits
  · rw [type.word_literalType, type.value_literalType]
    exact ⟨rfl, rfl, rfl⟩

/-- A numeral denotes a real number, a text or a magnitude for which a type was found. -/
theorem ofNumeral_cases (token : String) :
    (∃ word value, ofNumeral token = primitive word (.float value)) ∨
      ofNumeral token = opaqueText token ∨
      ∃ types n, ofMagnitude? types n = some (ofNumeral token) := by
  unfold ofNumeral
  dsimp only
  split
  · split
    · exact .inl ⟨_, _, rfl⟩
    · exact .inr (.inl rfl)
  · split
    · exact .inr (.inl rfl)
    · rename_i n _
      generalize IntegerType.admitted _ _ = types
      cases hfound : ofMagnitude? types n with
      | none => exact .inr (.inl rfl)
      | some c => exact .inr (.inr ⟨types, n, hfound⟩)

/-- An integer that a numeral denotes stands in a type that holds it. -/
theorem isTyped_ofNumeral {token : String} {n : Int}
    (h : (ofNumeral token).value.integer? = some n) : (ofNumeral token).IsTyped n := by
  rcases ofNumeral_cases token with ⟨word, value, hreal⟩ | htext | ⟨types, m, hfound⟩
  · rw [hreal] at h
    cases h
  · rw [htext] at h
    cases h
  · have htyped := isTyped_of_ofMagnitude? hfound
    have hsame : (m : Int) = n := Option.some.inj (htyped.isInteger.2.symm.trans h)
    exact hsame ▸ htyped

/-- Of all literals only numerals denote integers, so these stand in types that hold them. -/
theorem isTyped_ofLiteral {literal : Literal} {n : Int}
    (h : (ofLiteral literal).value.integer? = some n) : (ofLiteral literal).IsTyped n := by
  obtain ⟨kind, token⟩ := literal
  cases kind with
  | numeric => exact isTyped_ofNumeral h
  | char =>
    unfold ofLiteral at h
    dsimp only at h
    split at h <;> cases h
  | _ => cases h

/-- What a minus sign gives is typed by its value alone. -/
theorem isTyped_of_negate? {c opposite : Constant} {n : Int} (h : c.negate? = some opposite)
    (hvalue : opposite.value.integer? = some n) : opposite.IsTyped n := by
  unfold negate? at h
  split at h
  · split at h
    · rename_i m _ hholds
      obtain rfl := Option.some.inj h
      have hsame : -m = n := Option.some.inj ((isInteger_ofInteger (-m)).2.symm.trans hvalue)
      exact hsame ▸ isTyped_ofInteger hholds
    · exact absurd h (by simp)
  · split at h
    · rename_i m _ hholds
      obtain rfl := Option.some.inj h
      have hsame : -(m : Int) = n := Option.some.inj hvalue
      exact hsame ▸ isTyped_long hholds
    · exact absurd h (by simp)
  · obtain rfl := Option.some.inj h
    cases hvalue
  · exact absurd h (by simp)

/-- Every integer that an expression denotes stands in a type that holds it. -/
theorem isTyped_ofExpr {e : Expr} {n : Int} (h : (ofExpr e).value.integer? = some n) :
    (ofExpr e).IsTyped n := by
  induction e with
  | literal value => exact isTyped_ofLiteral h
  | paren inner ih => exact ih h
  | unary op operand _ =>
    cases op with
    | minus =>
      rw [ofExpr] at h ⊢
      cases hnegate : (ofExpr operand).negate? with
      | none =>
        rw [hnegate] at h
        cases h
      | some opposite =>
        rw [hnegate] at h
        exact isTyped_of_negate? hnegate h
    | _ => cases h
  | _ =>
    -- a text, a type or an enum member
    cases h

/-! ## The opposite of a `long` -/

/-- A typed integer of type `long` is a signed value of 64 bits. -/
theorem IsTyped.long_of_typeName {c : Constant} {n : Int} (h : c.IsTyped n)
    (htype : c.typeName = some "long") :
    c.value = .int n ∧ -2 ^ 63 ≤ n ∧ n < 2 ^ 63 := by
  obtain ⟨type, hmem, hholds, hprimitive⟩ := h
  have hword : type.word = "long" := Option.some.inj (hprimitive.typeName_eq.symm.trans htype)
  have honly : ∀ other ∈ LiteralType.all, other.word = "long" → other = ⟨"long", false, 64⟩ := by
    decide
  obtain rfl := honly type hmem hword
  exact ⟨hprimitive.value_eq, holds_signed64_iff.mp hholds⟩

/-- A minus sign before a `long` that is not the least one gives the opposite. That is a `long`
again exactly if no `int` holds it, and else an `int`. -/
theorem minus_keeps_long_iff {e : Expr} {n : Int} (htype : (ofExpr e).typeName = some "long")
    (hvalue : (ofExpr e).value.integer? = some n) (hleast : n ≠ -2 ^ 63) :
    (ofExpr (.unary .minus e)).IsInteger (-n) ∧
      ((ofExpr (.unary .minus e)).IsPrimitive (some "long") (.int (-n)) ↔
        ¬ (-2 ^ 31 ≤ -n ∧ -n < 2 ^ 31)) ∧
      (-2 ^ 31 ≤ -n ∧ -n < 2 ^ 31 →
        (ofExpr (.unary .minus e)).IsPrimitive (some "int") (.int (-n))) := by
  obtain ⟨hlong, hlow, hhigh⟩ := (isTyped_ofExpr hvalue).long_of_typeName htype
  have hholds : (IntRange.signed 64).holds (-n) = true := by
    apply holds_signed64_iff.mpr
    omega
  have hopposite : ofExpr (.unary .minus e) = ofInteger (-n) := by
    rw [ofExpr, negate?_int hlong hholds, Option.getD_some]
  rw [hopposite]
  refine ⟨isInteger_ofInteger (-n), ?_, ?_⟩
  · rw [isPrimitive_iff, ofInteger_eq]
    by_cases hsmall : -2 ^ 31 ≤ -n ∧ -n < 2 ^ 31
    · rw [if_pos hsmall]
      exact iff_of_false (int_ne_long _ _) (not_not_intro hsmall)
    · rw [if_neg hsmall]
      exact iff_of_true rfl hsmall
  · intro hsmall
    rw [ofInteger_eq, if_pos hsmall]
    exact ⟨rfl, rfl, rfl⟩

/-- The least magnitude whose opposite no `int` holds stays a `long`, with its suffix and in
parentheses. -/
theorem minus_keeps_long_iff_sample :
    (ofExpr (.paren (.literal ⟨.numeric, "0x8000_0001l"⟩))).typeName = some "long" ∧
      (ofExpr (.paren (.literal ⟨.numeric, "0x8000_0001l"⟩))).value.integer? = some 2147483649 ∧
      (2147483649 : Int) ≠ -2 ^ 63 ∧
      (ofExpr (.unary .minus (.paren (.literal ⟨.numeric, "0x8000_0001l"⟩)))).IsPrimitive
        (some "long") (.int (-2147483649)) := by
  have htype : (ofExpr (.paren (.literal ⟨.numeric, "0x8000_0001l"⟩))).typeName = some "long" := by
    decide +kernel
  have hvalue : (ofExpr (.paren (.literal ⟨.numeric, "0x8000_0001l"⟩))).value.integer? =
      some 2147483649 := by
    decide +kernel
  have hleast : (2147483649 : Int) ≠ -2 ^ 63 := by decide
  refine ⟨htype, hvalue, hleast, ?_⟩
  exact (minus_keeps_long_iff htype hvalue hleast).2.1.mpr (by omega)

/-- The literal `5L` is a `long`, and `-5L` is an `int`. -/
theorem long_literal_negates_to_int :
    Expr.parse "-5L" = .ok (.unary .minus (.literal ⟨.numeric, "5L"⟩)) ∧
      (ofExpr (.literal ⟨.numeric, "5L"⟩)).typeName = some "long" ∧
      (ofExpr (.literal ⟨.numeric, "5L"⟩)).value.integer? = some 5 ∧ (5 : Int) ≠ -2 ^ 63 ∧
      (ofExpr (.unary .minus (.literal ⟨.numeric, "5L"⟩))).typeName = some "int" ∧
      ¬ (ofExpr (.unary .minus (.literal ⟨.numeric, "5L"⟩))).IsPrimitive (some "long")
        (.int (-5)) := by
  have hint : (ofExpr (.unary .minus (.literal ⟨.numeric, "5L"⟩))).typeName = some "int" := by
    decide +kernel
  refine ⟨by decide +kernel, by decide +kernel, by decide +kernel, by decide, hint, ?_⟩
  intro hlong
  exact absurd (hlong.typeName_eq.symm.trans hint) (by decide)

end Constant

end DeclScribe
