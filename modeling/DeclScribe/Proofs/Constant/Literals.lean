import DeclScribe.Constant.OfExpr
import DeclScribe.Proofs.Fragment.LiteralValues
import Mathlib.Algebra.Order.Ring.Int

/-!
# Values read back from their literals

What a value is written as denotes the value. Each of the ways to write a character is undone by the
decoder, whatever is written behind it; decimal digits have the value of the number they were made
from, in the smallest type that holds it; and a minus sign before the magnitude of a signed number
gives the number, the least one included, whose magnitude no signed type holds.
-/

set_option autoImplicit false

namespace DeclScribe

/-! ## Text and characters -/

namespace Decode

/-- A character that opens no escape sequence stands for itself. -/
theorem unescape_cons {c : Char} (hslash : c ≠ '\\') (rest : List Char) :
    unescape (c :: rest) = c :: unescape rest := by
  cases rest with
  | nil => simp [unescape]
  | cons letter more => rw [unescape, if_neg hslash]

/-- An escape sequence without digits is its letter's meaning, and two characters long. -/
theorem unescape_letter {letter : Char} (h : hexEscape? letter = none) (rest : List Char) :
    unescape ('\\' :: letter :: rest) = escaped letter :: unescape rest := by
  rw [unescape, if_pos rfl, h]

end Decode

namespace Text

/-- The digits that are written are read as the numbers they were written for. -/
theorem digitValue?_hexDigit {n : Nat} (h : n < 16) :
    Number.digitValue? (hexDigit n) = some n := by
  have hall : ∀ m < 16, Number.digitValue? (hexDigit m) = some m := by decide
  exact hall n h

/-- Digits are read from the left, so what a front comes to is where its continuation starts from.
-/
theorem valueFrom?_append (base high : Nat) (digits more : List Char) :
    Number.valueFrom? base high (digits ++ more) =
      (Number.valueFrom? base high digits).bind fun value => Number.valueFrom? base value more := by
  induction digits generalizing high with
  | nil => rfl
  | cons c rest ih =>
    rw [List.cons_append, Number.valueFrom?, Number.valueFrom?]
    cases Number.digitValue? c with
    | none => rfl
    | some digit =>
      simp only
      split
      · exact ih _
      · rfl

/-- A number is read back from its last hexadecimal digits if there are no others. -/
theorem valueFrom?_hexFixed (width n : Nat) :
    Number.valueFrom? 16 0 (hexFixed width n) = some (n % 16 ^ width) := by
  induction width generalizing n with
  | zero => simp [hexFixed, Number.valueFrom?, Nat.mod_one]
  | succ width ih =>
    have hdigit : n % 16 < 16 := Nat.mod_lt _ (by omega)
    have hsplit : n % 16 ^ (width + 1) = n / 16 % 16 ^ width * 16 + n % 16 := by
      rw [Nat.pow_succ, Nat.mul_comm, Nat.mod_mul]
      omega
    rw [hexFixed, valueFrom?_append, ih, Option.bind_some, Number.valueFrom?,
      digitValue?_hexDigit hdigit]
    simp only [hdigit, if_true, Number.valueFrom?, hsplit]

/-- A written digit is one that the decoder takes as part of a code. -/
theorem isSome_value?_hexDigit {n : Nat} (h : n < 16) :
    (Number.value? 16 [hexDigit n]).isSome = true := by
  simp [Number.value?, Number.valueFrom?, digitValue?_hexDigit h, h]

end Text

namespace Decode

/-- A code point below the surrogates is read back from its four digits. -/
theorem unescape_code {c : Char} (h : c.toNat < 0xd800) (rest : List Char) :
    unescape ('\\' :: 'u' :: (Text.hexFixed 4 c.toNat ++ rest)) = c :: unescape rest := by
  have hdigits : hexRun 4 (Text.hexFixed 4 c.toNat ++ rest) = Text.hexFixed 4 c.toNat :=
    Text.takeWhile_hexFixed (fun _ hm => Text.isSome_value?_hexDigit hm) 4 c.toNat rest
  have hvalue : Number.valueFrom? 16 0 (Text.hexFixed 4 c.toNat) = some c.toNat := by
    rw [Text.valueFrom?_hexFixed, Nat.mod_eq_of_lt (by omega)]
  have hscalar : scalar? c.toNat = some c := by
    rw [scalar?, if_pos (.inl h), Char.ofNat_toNat]
  rw [unescape, if_pos rfl]
  simp only [hexEscape?, hdigits, hvalue, Option.getD_some, hscalar, List.drop_left]
  rfl

end Decode

namespace Literal

open Decode (unescape)

/-- A written character is read back, whatever is written behind it. -/
theorem IsWritten.unescape_append {delimiter c : Char} {text : List Char}
    (h : IsWritten delimiter c text) (rest : List Char) :
    unescape (text ++ rest) = c :: unescape rest := by
  cases h with
  | plain hslash _ _ => exact Decode.unescape_cons hslash rest
  | letter letter hletter =>
    have hall : ∀ pair ∈ writtenEscapes,
        Decode.hexEscape? pair.1 = none ∧ Decode.escaped pair.1 = pair.2 := by
      decide
    obtain ⟨hcount, hmeaning⟩ := hall (letter, c) hletter
    have hread := Decode.unescape_letter hcount rest
    rw [hmeaning] at hread
    exact hread
  | code hcode => exact Decode.unescape_code hcode rest

/-- A text is read back from its characters as they are written between the quotes of a string. -/
theorem unescape_written (text : List Char) :
    unescape (text.flatMap escapedInString) = text := by
  induction text with
  | nil => rw [List.flatMap_nil, unescape]
  | cons c rest ih =>
    rw [List.flatMap_cons, (isWritten_escapedInString c).unescape_append, ih]

/-- What stands between two delimiters is found again, whatever it is. -/
theorem inside_enclosed (delimiter : Char) (body : List Char) :
    Decode.inside delimiter (delimiter :: (body ++ [delimiter])) = body := by
  simp [Decode.inside]

end Literal

/-- A literal constant, by the name of its type and its value. Null is the one without a type. -/
structure Constant.IsPrimitive (c : Constant) (typeName : Option String) (value : ConstantValue) :
    Prop where
  kind_eq : c.kind = .primitive
  typeName_eq : c.typeName = typeName
  value_eq : c.value = value

namespace Constant

/-- A literal constant is determined by its type and its value. -/
theorem isPrimitive_iff {c : Constant} {typeName : Option String} {value : ConstantValue} :
    c.IsPrimitive typeName value ↔ c = .mk .primitive typeName value := by
  obtain ⟨kind, name, found⟩ := c
  rw [Constant.mk.injEq]
  exact ⟨fun h => ⟨h.kind_eq, h.typeName_eq, h.value_eq⟩, fun h => ⟨h.1, h.2.1, h.2.2⟩⟩

/-- A text is read back from its quotation. -/
theorem isPrimitive_ofLiteral_ofString (text : String) :
    (ofLiteral (.ofString text)).IsPrimitive (some "string") (.string text) := by
  have hread : Decode.string (Literal.quote text).toList = text.toList := by
    rw [Literal.quote, String.toList_ofList]
    calc Decode.string ('"' :: (text.toList.flatMap Literal.escapedInString ++ ['"']))
        = Decode.unescape (Decode.inside '"'
            ('"' :: (text.toList.flatMap Literal.escapedInString ++ ['"']))) := rfl
      _ = Decode.unescape (text.toList.flatMap Literal.escapedInString) := by
        rw [Literal.inside_enclosed]
      _ = text.toList := Literal.unescape_written text.toList
  rw [ofLiteral, Literal.ofString, hread, String.ofList_toList]
  exact ⟨rfl, rfl, rfl⟩

/-- A character is read back from between its quotes. -/
theorem isPrimitive_ofLiteral_ofChar (c : Char) :
    (ofLiteral (.ofChar c)).IsPrimitive (some "char") (.char c) := by
  have hbody : Decode.unescape (Literal.escapedInChar c) = [c] := by
    have hread := (Literal.isWritten_escapedInChar c).unescape_append []
    rw [List.append_nil, Decode.unescape] at hread
    exact hread
  have hread : Decode.char? (Literal.ofChar c).token.toList = some c := by
    rw [Literal.ofChar, String.toList_ofList, Decode.char?, Literal.inside_enclosed, hbody,
      List.head?_cons]
  rw [ofLiteral, hread]
  exact ⟨rfl, rfl, rfl⟩

/-- Both of the words for truth values are read back. -/
theorem isPrimitive_ofLiteral_ofBool (value : Bool) :
    (ofLiteral (.ofBool value)).IsPrimitive (some "bool") (.bool value) := by
  cases value <;> exact ⟨rfl, rfl, rfl⟩

end Constant

/-! ## Numbers -/

/-- The integer that a value is, of whatever type. -/
def ConstantValue.integer? : ConstantValue → Option Int
  | .int value => some value
  | .uint value => some value
  | _ => none

/-- A literal constant whose value is an integer. -/
def Constant.IsInteger (c : Constant) (value : Int) : Prop :=
  c.kind = .primitive ∧ c.value.integer? = some value

/-- Below base ten the value of a digit is its distance from zero. -/
theorem Number.digitValue?_of_isDigit {c : Char} (h : c.isDigit = true) :
    digitValue? c = some (c.toNat - '0'.toNat) ∧ c.toNat - '0'.toNat < 10 := by
  rw [← Radix.isDigit_decimal, Radix.isDigit_decimal_iff] at h
  have hdigit : '0' ≤ c ∧ c ≤ '9' := h
  have hzero : '0'.toNat = 48 := rfl
  rw [digitValue?, if_pos hdigit]
  exact ⟨rfl, by omega⟩

/-- Decimal digits are read the same way as the library reads them. -/
theorem AreDigits.valueFrom? {text : List Char} (h : AreDigits text) (high : Nat) :
    Number.valueFrom? 10 high text = some (Nat.ofDigitChars 10 text high) := by
  induction text generalizing high with
  | nil => rfl
  | cons c rest ih =>
    obtain ⟨hdigit, hrest⟩ := List.forall_mem_cons.mp h
    obtain ⟨hvalue, hsmall⟩ := Number.digitValue?_of_isDigit hdigit
    rw [Number.valueFrom?, hvalue, Nat.ofDigitChars_cons, Nat.mul_comm]
    simp only [hsmall, if_true]
    exact ih hrest _

/-- The decimal digits of a number are read as that number. -/
theorem Number.value?_toDigits (n : Nat) : value? 10 (Nat.toDigits 10 n) = some n := by
  have hread := (AreDigits.toDigits n).valueFrom? 0
  rw [Nat.ofDigitChars_toDigits (by omega) (by omega)] at hread
  cases hdigits : Nat.toDigits 10 n with
  | nil => exact absurd hdigits Nat.toDigits_ne_nil
  | cons c rest =>
    rw [hdigits] at hread
    exact hread

namespace Constant

/-- A digit is none of the other characters that a number is made of. -/
theorem ne_of_isDigit {c d : Char} (h : c.isDigit = true) (hd : d.isDigit = false := by decide) :
    c ≠ d := by
  rintro rfl
  exact absurd h (by simp [hd])

/-- Digits have no upper case, so lowering a literal keeps its digits. -/
theorem toLower_of_isDigit {c : Char} (h : c.isDigit = true) : c.toLower = c := by
  rw [← Radix.isDigit_decimal, Radix.isDigit_decimal_iff] at h
  have hupper : ¬ (c.val ≥ 'A'.val ∧ c.val ≤ 'Z'.val) := by
    rintro ⟨hlow, -⟩
    have hlow : 65 ≤ c.toNat := hlow
    omega
  exact dif_neg hupper

/-- The characters of an integer without separators and mark are none of a real number. -/
theorem notReal_of_integer {c : Char} (h : c.isDigit = true ∨ isIntegerSuffix c = true) :
    c ≠ '.' ∧ c ≠ 'e' ∧ isRealSuffix c = false := by
  rcases h with hdigit | hsuffix
  · have hf : c ≠ 'f' := ne_of_isDigit hdigit
    have hd : c ≠ 'd' := ne_of_isDigit hdigit
    have hm : c ≠ 'm' := ne_of_isDigit hdigit
    exact ⟨ne_of_isDigit hdigit, ne_of_isDigit hdigit, by simp [isRealSuffix, hf, hd, hm]⟩
  · simp only [isIntegerSuffix, Bool.or_eq_true, beq_iff_eq] at hsuffix
    rcases hsuffix with rfl | rfl <;> decide

/-- A digit is never cut off with the suffix. -/
theorem isIntegerSuffix_of_isDigit {c : Char} (h : c.isDigit = true) :
    isIntegerSuffix c = false := by
  have hu : c ≠ 'u' := ne_of_isDigit h
  have hl : c ≠ 'l' := ne_of_isDigit h
  simp [isIntegerSuffix, hu, hl]

variable {text : List Char}

/-- A literal of decimal digits goes into the reader unchanged: it has no separator and no case. -/
theorem normalized_digits (h : AreDigits text) :
    (text.filter (· != '_')).map Char.toLower = text := by
  have hfilter : text.filter (· != '_') = text := by
    rw [List.filter_eq_self]
    intro c hc
    have hne : c ≠ '_' := ne_of_isDigit (h c hc)
    simp [hne]
  calc (text.filter (· != '_')).map Char.toLower = text.map Char.toLower := by rw [hfilter]
    _ = text.map id := List.map_congr_left fun c hc => toLower_of_isDigit (h c hc)
    _ = text := List.map_id text

/-- Neither mark of a base is made of digits and integer suffixes only, so the base is ten. -/
theorem radixAndBody_of_integer (h : ∀ c ∈ text, c.isDigit = true ∨ isIntegerSuffix c = true) :
    radixAndBody text = (10, text) := by
  unfold radixAndBody
  split
  · exact absurd (h 'x' (by simp)) (by decide)
  · exact absurd (h 'b' (by simp)) (by decide)
  · rfl

/-- Digits and integer suffixes show no sign of a real number. -/
theorem isReal_of_integer (h : ∀ c ∈ text, c.isDigit = true ∨ isIntegerSuffix c = true) :
    isReal text = false := by
  have hpoint : text.any (fun c => c == '.' || c == 'e') = false := by
    rw [List.any_eq_false]
    intro c hc
    obtain ⟨hpoint, hmark, -⟩ := notReal_of_integer (h c hc)
    simp [hpoint, hmark]
  have hsuffix : text.getLast?.any isRealSuffix = false := by
    cases hlast : text.getLast? with
    | none => rfl
    | some c => exact (notReal_of_integer (h c (List.mem_of_getLast? hlast))).2.2
  rw [isReal, hpoint, hsuffix, Bool.or_false]

/-- What is cut off the end of a text goes back to the last character outside of the class. -/
theorem trimEnd_append {p : Char → Bool} {front behind : List Char}
    (hfront : ∀ c ∈ front, p c = false) (hbehind : ∀ c ∈ behind, p c = true) :
    trimEnd p (front ++ behind) = front := by
  have hdrop : behind.reverse.dropWhile p = [] := by
    rw [List.dropWhile_eq_nil_iff]
    intro c hc
    exact hbehind c (List.mem_reverse.mp hc)
  have hkeep : front.reverse.dropWhile p = front.reverse := by
    cases hlast : front.reverse with
    | nil => rfl
    | cons c rest =>
      have hc : c ∈ front := by
        rw [← List.mem_reverse, hlast]
        exact List.mem_cons_self
      rw [List.dropWhile_cons_of_neg (by simp [hfront c hc])]
  rw [trimEnd, List.reverse_append, List.dropWhile_append, hdrop, List.isEmpty_nil, if_pos rfl,
    hkeep, List.reverse_reverse]

/-- Digits have no suffix to cut off. -/
theorem trimEnd_digits (h : AreDigits text) : trimEnd isIntegerSuffix text = text := by
  have htrim : trimEnd isIntegerSuffix (text ++ []) = text :=
    trimEnd_append (fun c hc => isIntegerSuffix_of_isDigit (h c hc)) (by simp)
  rwa [List.append_nil] at htrim

/-- A decimal without a suffix has the first type that holds it. -/
theorem ofNumeral_toString (n : Nat) :
    ofNumeral (toString n) =
      (ofMagnitude? [.int, .uint, .long, .ulong] n).getD (opaqueText (toString n)) := by
  have hdigits : AreDigits (Nat.toDigits 10 n) := .toDigits n
  have htext : (toString n).toList = Nat.toDigits 10 n := by
    rw [Nat.toString_eq_repr, Nat.toList_repr]
  have hinteger : ∀ c ∈ Nat.toDigits 10 n, c.isDigit = true ∨ isIntegerSuffix c = true :=
    fun c hc => .inl (hdigits c hc)
  simp only [ofNumeral, htext, normalized_digits hdigits, radixAndBody_of_integer hinteger,
    isReal_of_integer hinteger, trimEnd_digits hdigits, Number.value?_toDigits, List.drop_length]
  rfl

/-- The type that is found for a magnitude does not change it. -/
theorem isInteger_of_ofMagnitude? {types : List IntegerType} {n : Nat} {c : Constant}
    (h : ofMagnitude? types n = some c) : c.IsInteger n := by
  obtain ⟨type, -, rfl⟩ := Option.map_eq_some_iff.mp h
  cases type <;> exact ⟨rfl, rfl⟩

/-- The literal of a number of 64 bits denotes the number. -/
theorem isInteger_natLiteral {n : Nat} (h : n < 2 ^ 64) :
    (ofExpr (LiteralValue.natLiteral n)).IsInteger n := by
  have hfits : (ofMagnitude? [.int, .uint, .long, .ulong] n).isSome = true := by
    have hgreatest : n ≤ IntegerType.ulong.greatest := by
      have hvalue : IntegerType.ulong.greatest = 2 ^ 64 - 1 := rfl
      omega
    rw [ofMagnitude?, Option.isSome_map, List.find?_isSome]
    exact ⟨.ulong, by simp, by simpa using hgreatest⟩
  obtain ⟨c, hc⟩ := Option.isSome_iff_exists.mp hfits
  have hvalue : ofExpr (LiteralValue.natLiteral n) = c := by
    calc ofExpr (LiteralValue.natLiteral n) = ofNumeral (toString n) := rfl
      _ = c := by rw [ofNumeral_toString, hc, Option.getD_some]
  rw [hvalue]
  exact isInteger_of_ofMagnitude? hc

/-- Choosing between `int` and `long` does not change the value. -/
theorem isInteger_ofInteger (n : Int) : (ofInteger n).IsInteger n := by
  unfold ofInteger
  split <;> exact ⟨rfl, rfl⟩

/-- The range of signed words of 64 bits, with its ends written out. -/
theorem holds_signed64_iff {value : Int} :
    (IntRange.signed 64).holds value = true ↔ -2 ^ 63 ≤ value ∧ value < 2 ^ 63 := by
  have hends : IntRange.signed 64 = ⟨-2 ^ 63, 2 ^ 63 - 1⟩ := by decide
  rw [hends, IntRange.holds_iff]
  simp only
  omega

/-- The opposite of an integer is there if 64 bits hold it, as an `int` or a `long`. -/
theorem IsInteger.negate?_eq {c : Constant} {value : Int} (h : c.IsInteger value) :
    ∃ opposite, (opposite = ofInteger (-value) ∨ opposite = long (-value)) ∧
      c.negate? = if (IntRange.signed 64).holds (-value) then some opposite else none := by
  obtain ⟨kind, typeName, found⟩ := c
  obtain ⟨-, hvalue⟩ := h
  cases found with
  | int n =>
    obtain rfl : n = value := Option.some.inj hvalue
    exact ⟨ofInteger (-n), .inl rfl, rfl⟩
  | uint n =>
    obtain rfl : (n : Int) = value := Option.some.inj hvalue
    exact ⟨long (-n), .inr rfl, rfl⟩
  | _ => exact absurd hvalue (by simp [Constant.value, ConstantValue.integer?])

/-- The opposite of an integer is an integer again as long as 64 bits hold it. -/
theorem IsInteger.negate {c : Constant} {value : Int} (h : c.IsInteger value)
    (hleast : -2 ^ 63 ≤ -value) (hgreatest : -value < 2 ^ 63) :
    ∃ opposite, c.negate? = some opposite ∧ opposite.IsInteger (-value) := by
  obtain ⟨opposite, htyped, hnegate⟩ := h.negate?_eq
  rw [if_pos (holds_signed64_iff.mpr ⟨hleast, hgreatest⟩)] at hnegate
  refine ⟨opposite, hnegate, ?_⟩
  rcases htyped with rfl | rfl
  · exact isInteger_ofInteger (-value)
  · exact ⟨rfl, rfl⟩

end Constant

/-! ## All values -/

/-- A value that becomes an expression which is read back from its print, and whose constant has a
property. -/
def LiteralValue.IsReadBack (value : LiteralValue) (Carries : Constant → Prop) : Prop :=
  ∃ e, value.toExpr = .ok e ∧ Expr.parse e.print = .ok e ∧ Carries (Constant.ofExpr e)

namespace LiteralValue

/-- An expression that a value becomes is well-formed, so that only its constant is to be compared.
-/
theorem isReadBack_of_toExpr {value : LiteralValue} {e : Expr} {Carries : Constant → Prop}
    (h : value.toExpr = .ok e) (hcarries : Carries (Constant.ofExpr e)) :
    value.IsReadBack Carries :=
  ⟨e, h, Expr.parse_print (wellFormed_of_toExpr h), hcarries⟩

/-- An unsigned number is read back from its digits. -/
theorem isReadBack_uint (value : UInt64) :
    (uint value.toNat).IsReadBack fun c => c.IsInteger value.toNat :=
  isReadBack_of_toExpr rfl (Constant.isInteger_natLiteral value.toNat_lt)

/-- A negative number goes through its magnitude, which is unsigned. -/
theorem isReadBack_int (value : Int64) :
    (int value.toInt).IsReadBack fun c => c.IsInteger value.toInt := by
  have hleast := value.le_toInt
  have hgreatest := value.toInt_lt
  refine isReadBack_of_toExpr rfl ?_
  have hmagnitude := Constant.isInteger_natLiteral (n := value.toInt.natAbs) (by omega)
  split
  · have hopposite : -(value.toInt.natAbs : Int) = value.toInt := by omega
    obtain ⟨c, hc, hinteger⟩ := hmagnitude.negate (by omega) (by omega)
    rw [hopposite] at hinteger
    rw [Constant.ofExpr, hc]
    exact hinteger
  · have hsame : (value.toInt.natAbs : Int) = value.toInt := by omega
    rw [hsame] at hmagnitude
    exact hmagnitude

end LiteralValue

/-- Typed values survive being written and read: the expression of a value is read back from its
print, and the constant it denotes is the value. A quoted text is a single line, and so it is one
token. -/
theorem literalValues_are_read_back :
    (∀ text : String,
        (LiteralValue.string text).IsReadBack (·.IsPrimitive (some "string") (.string text))) ∧
      (∀ c : Char, (LiteralValue.char c).IsReadBack (·.IsPrimitive (some "char") (.char c))) ∧
      (∀ value : Int64,
        (LiteralValue.int value.toInt).IsReadBack fun c => c.IsInteger value.toInt) ∧
      (∀ value : UInt64,
        (LiteralValue.uint value.toNat).IsReadBack fun c => c.IsInteger value.toNat) ∧
      (∀ value : Bool,
        (LiteralValue.bool value).IsReadBack (·.IsPrimitive (some "bool") (.bool value))) ∧
      LiteralValue.null.IsReadBack (·.IsPrimitive none .null) ∧
      ∀ text : String, Literal.IsSingleLine (Literal.quote text) := by
  refine ⟨?_, ?_, LiteralValue.isReadBack_int, LiteralValue.isReadBack_uint, ?_, ?_,
    Literal.isSingleLine_quote⟩
  · intro text
    exact LiteralValue.isReadBack_of_toExpr rfl (Constant.isPrimitive_ofLiteral_ofString text)
  · intro c
    exact LiteralValue.isReadBack_of_toExpr rfl (Constant.isPrimitive_ofLiteral_ofChar c)
  · intro value
    exact LiteralValue.isReadBack_of_toExpr rfl (Constant.isPrimitive_ofLiteral_ofBool value)
  · exact LiteralValue.isReadBack_of_toExpr rfl ⟨rfl, rfl, rfl⟩

end DeclScribe
