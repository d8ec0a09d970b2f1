import DeclScribe.Manifest.Symbols
import DeclScribe.Proofs.Constant.Literals
import DeclScribe.Proofs.Manifest.Arguments

/-!
# How an integer argument is typed

An integer of a document is typed `int`, or `long` if no `int` holds it. The literal that stands for
it in the file is typed by the rule of literals, which tries `uint` before `long`, and a minus sign
comes to the magnitude behind it only after that has a type. Both are the same integer. They have
the same type with two exceptions: the integers from `2^31` up to `2^32` are `long` in one place and
`uint` in the other, and the least `int`, whose magnitude is one of these, is an `int` and a `long`.
-/

set_option autoImplicit false

namespace DeclScribe

namespace Constant

/-! ## Types of integers -/

/-- The type of an integer of a document, with the ends of `int` written out. -/
theorem ofInteger_eq (value : Int) :
    ofInteger value = if -2 ^ 31 ≤ value ∧ value < 2 ^ 31 then int value else long value := by
  have hends : IntRange.signed 32 = ⟨-2 ^ 31, 2 ^ 31 - 1⟩ := by decide
  have hiff : (IntRange.signed 32).holds value = true ↔ -2 ^ 31 ≤ value ∧ value < 2 ^ 31 := by
    rw [hends, IntRange.holds_iff]
    simp only
    omega
  simp only [ofInteger, hiff]

/-- The types are tried one after the other. -/
theorem ofMagnitude?_cons (type : IntegerType) (types : List IntegerType) (n : Nat) :
    ofMagnitude? (type :: types) n =
      if n ≤ type.greatest then some (primitive type.word (type.value n))
      else ofMagnitude? types n := by
  unfold ofMagnitude?
  split_ifs with hfits
  · rw [List.find?_cons_of_pos (by simpa using hfits)]
    rfl
  · rw [List.find?_cons_of_neg (by simpa using hfits)]

/-- A decimal without a suffix, by the ranges of the four types. -/
theorem ofExpr_natLiteral {n : Nat} (h : n < 2 ^ 64) :
    ofExpr (LiteralValue.natLiteral n) =
      if n < 2 ^ 31 then int n
      else if n < 2 ^ 32 then primitive "uint" (.uint n)
      else if n < 2 ^ 63 then long n
      else primitive "ulong" (.uint n) := by
  have hint : n ≤ IntegerType.int.greatest ↔ n < 2 ^ 31 := Nat.le_sub_one_iff_lt (by decide)
  have huint : n ≤ IntegerType.uint.greatest ↔ n < 2 ^ 32 := Nat.le_sub_one_iff_lt (by decide)
  have hlong : n ≤ IntegerType.long.greatest ↔ n < 2 ^ 63 := Nat.le_sub_one_iff_lt (by decide)
  have hulong : n ≤ IntegerType.ulong.greatest := Nat.le_sub_one_of_lt h
  have hread : ofExpr (LiteralValue.natLiteral n) =
      (ofMagnitude? [.int, .uint, .long, .ulong] n).getD (opaqueText (toString n)) :=
    ofNumeral_toString n
  simp only [hread, ofMagnitude?_cons, hint, huint, hlong, if_pos hulong]
  split_ifs <;> rfl

/-- The opposite of a signed integer is typed anew by its value. -/
theorem negate?_int {c : Constant} {n : Int} (hvalue : c.value = .int n)
    (h : (IntRange.signed 64).holds (-n) = true) : c.negate? = some (ofInteger (-n)) := by
  unfold negate?
  rw [hvalue]
  exact if_pos h

/-- The opposite of an unsigned integer is a `long`, however small it is. -/
theorem negate?_uint {c : Constant} {n : Nat} (hvalue : c.value = .uint n)
    (h : (IntRange.signed 64).holds (-(n : Int)) = true) : c.negate? = some (long (-n)) := by
  unfold negate?
  rw [hvalue]
  exact if_pos h

/-- A minus sign before a decimal. A `uint` becomes a `long`, also if it is the least `int`. -/
theorem ofExpr_negative {n : Nat} (hpos : 0 < n) (h : n ≤ 2 ^ 63) :
    ofExpr (.unary .minus (LiteralValue.natLiteral n)) =
      if n < 2 ^ 31 then int (-n) else long (-n) := by
  have hholds : (IntRange.signed 64).holds (-(n : Int)) = true :=
    holds_signed64_iff.mpr (by omega)
  rw [ofExpr, ofExpr_natLiteral (by omega)]
  split_ifs with hint huint hlong
  · rw [negate?_int rfl hholds, Option.getD_some, ofInteger_eq, if_pos (by omega)]
  · rw [negate?_uint rfl hholds, Option.getD_some]
  · rw [negate?_int rfl hholds, Option.getD_some, ofInteger_eq, if_neg (by omega)]
  · rw [negate?_uint rfl hholds, Option.getD_some]

/-- The constant of the literal that an integer is printed as. -/
theorem ofExpr_int {n : Int} (hleast : -2 ^ 63 ≤ n) (hgreatest : n < 2 ^ 63) {e : Expr}
    (he : (LiteralValue.int n).toExpr = .ok e) :
    ofExpr e =
      if -2 ^ 31 < n ∧ n < 2 ^ 31 then int n
      else if 2 ^ 31 ≤ n ∧ n < 2 ^ 32 then primitive "uint" (.uint n.toNat)
      else long n := by
  rw [LiteralValue.toExpr] at he
  injection he with he
  subst he
  by_cases hsign : n < 0
  · have hmagnitude : -(n.natAbs : Int) = n := by omega
    rw [if_pos hsign, ofExpr_negative (by omega) (by omega), hmagnitude,
      if_neg (by omega : ¬ (2 ^ 31 ≤ n ∧ n < 2 ^ 32))]
    exact if_congr (by omega) rfl rfl
  · have hmagnitude : (n.natAbs : Int) = n := by omega
    have hsame : n.natAbs = n.toNat := by omega
    rw [if_neg hsign, ofExpr_natLiteral (by omega), if_pos (by omega : n.natAbs < 2 ^ 63),
      hmagnitude, hsame]
    split_ifs <;> first | rfl | omega

/-- The integers that are typed in two ways: those that a `uint` holds and no `int`, and the least
`int`. -/
def IsTypedApart (n : Int) : Prop :=
  n = -2 ^ 31 ∨ 2 ^ 31 ≤ n ∧ n < 2 ^ 32

/-- Constants of the types `int` and `long` differ, even if their values do not. -/
theorem int_ne_long (n m : Int) : int n ≠ long m := by
  simp [int, long, primitive]

/-- Constants of the types `long` and `uint` differ, even if their values do not. -/
theorem long_ne_uint (n : Int) (m : Nat) : long n ≠ primitive "uint" (.uint m) := by
  simp [long, primitive]

/-- An integer has the type of the literal that it is printed as, except where only the literal is
typed through `uint`. -/
theorem ofInteger_eq_ofExpr_iff {n : Int} (hleast : -2 ^ 63 ≤ n) (hgreatest : n < 2 ^ 63)
    {e : Expr} (he : (LiteralValue.int n).toExpr = .ok e) :
    ofInteger n = ofExpr e ↔ ¬ IsTypedApart n := by
  rw [ofInteger_eq, ofExpr_int hleast hgreatest he, IsTypedApart]
  split_ifs with hint hinner huint huint
  · exact iff_of_true rfl (by omega)
  · omega
  · -- the least `int`
    exact iff_of_false (int_ne_long n n) (by omega)
  · omega
  · exact iff_of_false (long_ne_uint n n.toNat) (by omega)
  · exact iff_of_true rfl (by omega)

end Constant

namespace Manifest.ArgumentEntry

variable {argument : ArgumentEntry}

/-- An integer that is not quoted is inspected as an integer of its own size. -/
theorem constant_of_integer {n : Int} (hvalue : argument.value = some (.integer n))
    (hquoted : argument.isQuoted = false) : argument.constant = .ok (.ofInteger n) := by
  unfold constant
  rw [hvalue]
  simp only [hquoted, Bool.false_eq_true, if_false]

/-- An integer that is not quoted is printed as its literal. -/
theorem addTo_of_integer (h : argument.WellFormed) {n : Int}
    (hvalue : argument.value = some (.integer n)) (hquoted : argument.isQuoted = false) {e : Expr}
    (he : (LiteralValue.int n).toExpr = .ok e) (a : Attribute) :
    argument.addTo a = .ok (a.add ⟨argument.name, e⟩) := by
  unfold addTo
  rw [hvalue]
  simp only [hquoted, Bool.false_eq_true, if_false]
  exact a.addLiteral_eq_ok h.name he

/-- An integer argument is inspected and printed as the same integer. The two have one type exactly
where the integer is not typed apart. -/
theorem constant_agrees_iff (h : argument.WellFormed) {v : Int64}
    (hvalue : argument.value = some (.integer v.toInt)) (hquoted : argument.isQuoted = false) :
    ∃ c e, argument.constant = .ok c ∧ (∀ a, argument.addTo a = .ok (a.add ⟨argument.name, e⟩)) ∧
      c.IsInteger v.toInt ∧ (Constant.ofExpr e).IsInteger v.toInt ∧
      (c = Constant.ofExpr e ↔ ¬ Constant.IsTypedApart v.toInt) := by
  obtain ⟨e, he, -, hread⟩ := LiteralValue.isReadBack_int v
  exact ⟨.ofInteger v.toInt, e, constant_of_integer hvalue hquoted,
    addTo_of_integer h hvalue hquoted he, Constant.isInteger_ofInteger v.toInt, hread,
    Constant.ofInteger_eq_ofExpr_iff v.le_toInt v.toInt_lt he⟩

/-- A small negative integer, which is an `int` both ways. -/
theorem constant_agrees_iff_sample :
    ∃ c e, ArgumentEntry.constant { value := some (.integer (-5)) } = .ok c ∧
      (∀ a, ArgumentEntry.addTo { value := some (.integer (-5)) } a = .ok (a.add ⟨none, e⟩)) ∧
      c.IsInteger (-5) ∧ (Constant.ofExpr e).IsInteger (-5) ∧
      (c = Constant.ofExpr e ↔ ¬ Constant.IsTypedApart (-5)) := by
  have hwf : ArgumentEntry.WellFormed { value := some (.integer (-5)) } := by
    refine ⟨by simp, by simp, ?_, by simp⟩
    rintro value hvalue
    injection hvalue with hvalue
    exact hvalue ▸ trivial
  exact constant_agrees_iff (v := -5) hwf rfl rfl

/-- The least integer that is printed as a `uint` is inspected as a `long`. -/
theorem constant_ne_ofExpr_sample :
    ∃ c e, ArgumentEntry.constant { value := some (.integer 2147483648) } = .ok c ∧
      (∀ a, ArgumentEntry.addTo { value := some (.integer 2147483648) } a =
        .ok (a.add ⟨none, e⟩)) ∧
      c.IsPrimitive (some "long") (.int 2147483648) ∧
      (Constant.ofExpr e).IsPrimitive (some "uint") (.uint 2147483648) ∧
      c ≠ Constant.ofExpr e := by
  have hread : Constant.ofExpr (LiteralValue.natLiteral 2147483648) =
      .primitive "uint" (.uint 2147483648) :=
    Constant.ofExpr_natLiteral (by decide)
  refine ⟨.long 2147483648, LiteralValue.natLiteral 2147483648, rfl, fun _ => rfl,
    ⟨rfl, rfl, rfl⟩, ?_, ?_⟩
  · rw [hread]
    exact ⟨rfl, rfl, rfl⟩
  · rw [hread]
    exact Constant.long_ne_uint _ _

end Manifest.ArgumentEntry

end DeclScribe
