import DeclScribe.Proofs.Constant.Literals
import DeclScribe.Proofs.Manifest.Answers
import DeclScribe.Proofs.Manifest.WellFormed
import DeclScribe.Proofs.Token.Blanking

/-!
# The arguments of well-formed attributes

An argument is checked as it stands in the manifest and read again as it is written in C#: a quoted
value as a string literal, a missing one as the word `null`, both behind the name and an equal sign
if there is a name. What is written this way is the print of a well-formed expression, so it is read
without fail, and the attribute gets one more argument.
-/

set_option autoImplicit false

namespace DeclScribe

/-! ## Names -/

/-- A name that passes as an identifier is a single identifier token. -/
theorem IsDeclarable.isIdentifierText {name : String} (h : IsDeclarable name) :
    IsIdentifierText name := by
  obtain ⟨⟨mark, c, rest, hname, hmark, hstart, hparts⟩, hfree⟩ := h
  have hstart' : isIdentifierStart c = true := by simpa [isIdentifierStart] using hstart
  have hparts' : ∀ d ∈ rest, isIdentifierPart d = true := by
    intro d hd
    simpa [isIdentifierPart, or_assoc] using hparts d hd
  have hlexeme : IsLexeme .identifier name.toList := by
    rw [hname]
    obtain rfl | rfl := hmark
    · exact .identifier c rest hstart' hparts'
    · exact .marked c rest hstart' hparts'
  exact ⟨isSoleToken_iff.mpr hlexeme, Or.inr (by simpa [isReserved] using hfree)⟩

/-- A name that passes as an identifier is read as itself. -/
theorem Name.parse_of_isDeclarable {name : String} (h : IsDeclarable name) :
    Name.parse name = .ok (.identifier name) :=
  h.isIdentifierText.parse

/-- Where only an identifier will do, a name that passes as one is read as itself. -/
theorem Name.parseIdentifier_of_isDeclarable {name : String} (what : Expectation)
    (h : IsDeclarable name) : Name.parseIdentifier what name = .ok name := by
  unfold Name.parseIdentifier
  rw [Name.parse_of_isDeclarable h]

/-- A text that parses if it is there gives a value if it is there. -/
theorem exists_parseOption {α : Type} {parse : String → Except ParseError α}
    {text : Option String} (h : ParsesIfPresent parse text) :
    ∃ value, parseOption parse text = .ok value := by
  cases text with
  | none => exact ⟨none, rfl⟩
  | some present =>
    obtain ⟨value, hvalue⟩ := h present rfl
    exact ⟨some value, by rw [parseOption, hvalue]⟩

/-- Texts that all parse give all their values. -/
theorem exists_parseAll {α : Type} {parse : String → Except ParseError α} {texts : List String}
    (h : ∀ text ∈ texts, Parses parse text) : ∃ values, parseAll parse texts = .ok values := by
  obtain ⟨values, hvalues⟩ := exists_forall₂ h
  exact ⟨values, parseAll_eq_ok_iff.mpr hvalues⟩

/-! ## Quoted values -/

/-- Characters that stand for themselves in a string literal. -/
def IsPlainText (text : List Char) : Prop :=
  ∀ c ∈ text, c ≠ '\n' ∧ c ≠ '"' ∧ c ≠ '\\'

/-- It is decided by looking at each character. -/
instance (text : List Char) : Decidable (IsPlainText text) :=
  List.decidableBAll (fun c => c ≠ '\n' ∧ c ≠ '"' ∧ c ≠ '\\') text

/-- Up to the closing quote such a text is read as the rest of a string. -/
theorem IsPlainText.isStringTail {text : List Char} (h : IsPlainText text) :
    Lexer.IsStringTail (text ++ ['"']) := by
  induction text with
  | nil => exact .close
  | cons c rest ih =>
    obtain ⟨⟨hline, hquote, hslash⟩, hrest⟩ := List.forall_mem_cons.mp h
    exact .plain c _ hline hquote hslash (ih hrest)

/-- Plain texts are plain side by side. -/
theorem IsPlainText.append {text more : List Char} (h : IsPlainText text)
    (hmore : IsPlainText more) : IsPlainText (text ++ more) := by
  intro c hc
  rcases List.mem_append.mp hc with hc | hc
  · exact h c hc
  · exact hmore c hc

/-- A number is written with characters that stand for themselves. -/
theorem AreNumberChars.isPlainText {text : List Char} (h : AreNumberChars text) :
    IsPlainText text := by
  intro c hc
  refine ⟨?_, ?_, ?_⟩
  all_goals
    rintro rfl
    exact absurd (h _ hc) (by decide)

/-- The digits of a natural number stand for themselves. -/
theorem isPlainText_natRepr (n : Nat) : IsPlainText n.repr.toList := by
  rw [Nat.toList_repr]
  exact (isNumeral_toDigits n).areNumberChars.isPlainText

/-- The digits of an integer stand for themselves, and so does its sign. -/
theorem isPlainText_intToString (value : Int) : IsPlainText (toString value).toList := by
  rw [Int.toString_eq_repr, Int.repr_eq_if]
  split
  · exact isPlainText_natRepr _
  · rw [String.toList_append]
    exact IsPlainText.append (by decide) (isPlainText_natRepr _)

/-- So do the characters that a float is written with. -/
theorem Toml.isPlainText_writeFloat (x : Binary64) :
    IsPlainText (Toml.floatFormat.write x).toList := by
  unfold FloatFormat.write
  split
  · exact (by decide : IsPlainText "nan".toList)
  · split
    · split
      · exact (by decide : IsPlainText "-inf".toList)
      · exact (by decide : IsPlainText "inf".toList)
    · have hnumeral := FloatFormat.isNumeral_writePositional (x.shortest .up)
      have hbody := hnumeral.areNumberChars.isPlainText
      have hsign : IsPlainText ['-'] := by decide
      simp only [Toml.floatFormat, Bool.or_true, if_true, String.toList_ofList]
      split
      · exact hsign.append hbody
      · exact hbody

/-- The spelling of a plain value other than a string can be put between quotes. -/
theorem Toml.Value.isPlainText_print {value : Toml.Value} (hscalar : value.IsScalar)
    (hstring : ∀ text, value ≠ .string text) : IsPlainText value.print.toList := by
  cases value with
  | string text => exact absurd rfl (hstring text)
  | integer n => exact isPlainText_intToString n
  | float x => exact Toml.isPlainText_writeFloat x
  | boolean b => cases b <;> decide
  | datetime text => exact absurd hscalar id
  | array items => exact absurd hscalar id
  | table entries => exact absurd hscalar id

/-- A text between quotes is read as the string literal it looks like. -/
theorem Expr.wellFormed_quoted {text : String} (h : IsPlainText text.toList) :
    (Expr.literal ⟨.string, "\"" ++ text ++ "\""⟩).WellFormed := by
  have hlexeme : IsLexeme .string ("\"" ++ text ++ "\"").toList := by
    have htail := IsLexeme.string _ h.isStringTail
    simpa using htail
  exact isSoleToken_iff.mpr hlexeme

/-- A value with a name is an assignment to the name. -/
theorem Expr.wellFormed_named {name : String} (hname : IsDeclarable name) {e : Expr}
    (he : e.WellFormed) : (Expr.assign (.identifier name) e).WellFormed :=
  ⟨trivial, ⟨trivial, hname.isIdentifierText⟩, he⟩

/-! ## Arguments -/

namespace Attribute

/-- The print of an expression is added as the expression. -/
theorem addText_print (a : Attribute) {e : Expr} (he : e.WellFormed) :
    a.addText e.print = .ok (a.add ⟨none, e⟩) := by
  rw [addText, Expr.parse_print he]

/-- A name and a value with an equal sign between them are read as an assignment. -/
theorem addText_named (a : Attribute) {name : String} (hname : IsDeclarable name) {e : Expr}
    (he : e.WellFormed) :
    a.addText (name ++ " = " ++ e.print) =
      .ok (a.add ⟨none, .assign (.identifier name) e⟩) :=
  a.addText_print (Expr.wellFormed_named hname he)

/-- A name without a value is given `null`, whatever the format of the argument. -/
theorem addNamed_null (a : Attribute) (format : ArgumentFormat) {name : String}
    (hname : IsDeclarable name) :
    a.addNamed format name none =
      .ok (a.add ⟨none, .assign (.identifier name) (.literal .null)⟩) := by
  have hnull : (Expr.literal .null).WellFormed := rfl
  have htext : format.named name none = name ++ " = " ++ (Expr.literal .null).print := by
    rw [String.append_assoc]
    rfl
  rw [addNamed, htext, a.addText_named hname hnull]

/-- A value between quotes is assigned to its name as a string literal. -/
theorem addNamed_quoted (a : Attribute) {name text : String} (hname : IsDeclarable name)
    (htext : IsPlainText text.toList) :
    a.addNamed .quoted name (some text) =
      .ok (a.add ⟨none, .assign (.identifier name)
        (.literal ⟨.string, "\"" ++ text ++ "\""⟩)⟩) := by
  have hadd := a.addText_named hname (Expr.wellFormed_quoted htext)
  rw [Expr.print] at hadd
  rw [addNamed, ArgumentFormat.named, ArgumentFormat.apply]
  exact hadd

/-- A value between quotes is added as a string literal. -/
theorem addPositional_quoted (a : Attribute) {text : String} (htext : IsPlainText text.toList) :
    a.addPositional .quoted text =
      .ok (a.add ⟨none, .literal ⟨.string, "\"" ++ text ++ "\""⟩⟩) := by
  have hadd := a.addText_print (Expr.wellFormed_quoted htext)
  rw [Expr.print] at hadd
  rw [addPositional, ArgumentFormat.apply]
  exact hadd

/-- A literal value is added beside its name and not as an assignment to it. -/
theorem addLiteral_eq_ok (a : Attribute) {name : Option String} {value : LiteralValue} {e : Expr}
    (hname : ∀ text, name = some text → IsDeclarable text) (he : value.toExpr = .ok e) :
    a.addLiteral name value = .ok (a.add ⟨name, e⟩) := by
  unfold addLiteral
  rw [he]
  cases name with
  | none => rfl
  | some text =>
    have hlabel := Name.parseIdentifier_of_isDeclarable .argumentName (hname text rfl)
    simp only [hlabel]

end Attribute

/-- A number or a truth value is written as an expression. -/
inductive Toml.Value.IsWrittenAs : Toml.Value → Expr → Prop
  | integer {n : Int} {e : Expr} : IsIntegerLiteral n e → IsWrittenAs (.integer n) e
  | float {x : Binary64} {e : Expr} : IsFloatLiteral x e → IsWrittenAs (.float x) e
  | true : IsWrittenAs (.boolean Bool.true) (.literal ⟨.true, "true"⟩)
  | false : IsWrittenAs (.boolean Bool.false) (.literal ⟨.false, "false"⟩)

namespace Manifest

/-- The argument that an entry stands for. A string is the literal that denotes it, or read as an
expression if it is not to be quoted; other values are literals, or string literals of their
spelling if they are to be quoted. The text route writes a name as an assignment, the typed route as
a label. -/
inductive ArgumentEntry.KeptBy (argument : ArgumentEntry) : AttributeArgument → Prop
  | null {name : String} : argument.value = none → argument.name = some name →
      KeptBy argument ⟨none, .assign (.identifier name) (.literal ⟨.null, "null"⟩)⟩
  | string {text : String} {literal : Literal} : argument.value = some (.string text) →
      argument.quoted ≠ some false → literal = .ofString text →
      (Constant.ofLiteral literal).IsPrimitive (some "string") (.string text) →
      KeptBy argument ⟨argument.name, .literal literal⟩
  | expression {text : String} {e : Expr} : argument.value = some (.string text) →
      argument.quoted = some false → Expr.parse text = .ok e → KeptBy argument ⟨argument.name, e⟩
  | literal {value : Toml.Value} {e : Expr} : argument.value = some value →
      argument.quoted ≠ some true → value.IsWrittenAs e → KeptBy argument ⟨argument.name, e⟩
  | spelling {value : Toml.Value} : argument.value = some value → value.IsScalar →
      (∀ text, value ≠ .string text) → argument.quoted = some true → argument.name = none →
      KeptBy argument ⟨none, .literal ⟨.string, "\"" ++ value.print ++ "\""⟩⟩
  | namedSpelling {value : Toml.Value} {name : String} : argument.value = some value →
      value.IsScalar → (∀ text, value ≠ .string text) → argument.quoted = some true →
      argument.name = some name →
      KeptBy argument ⟨none, .assign (.identifier name)
        (.literal ⟨.string, "\"" ++ value.print ++ "\""⟩)⟩

/-- A plain value other than a string is written as the expression it becomes. -/
theorem exists_isWrittenAs {value : Toml.Value} (hscalar : value.IsScalar)
    (hstring : ∀ text, value ≠ .string text) :
    ∃ e, value.IsWrittenAs e ∧ LiteralValue.toExpr (literalValue value) = .ok e := by
  cases value with
  | string text => exact absurd rfl (hstring text)
  | integer n => exact ⟨_, .integer (LiteralValue.isIntegerLiteral_iff.mpr rfl), rfl⟩
  | float x => exact ⟨_, .float (LiteralValue.isFloatLiteral_floatExpr x), rfl⟩
  | boolean b =>
    cases b with
    | false => exact ⟨_, .false, rfl⟩
    | true => exact ⟨_, .true, rfl⟩
  | datetime text => exact absurd hscalar id
  | array items => exact absurd hscalar id
  | table entries => exact absurd hscalar id

/-- The expression that a string argument comes to. -/
theorem ArgumentEntry.exists_toExpr_string {argument : ArgumentEntry} (h : argument.WellFormed)
    {text : String} (hvalue : argument.value = some (.string text)) :
    ∃ e, LiteralValue.toExpr (if argument.isQuoted then .string text else .raw text) = .ok e ∧
      argument.KeptBy ⟨argument.name, e⟩ := by
  by_cases hquoted : argument.isQuoted = true
  · rw [if_pos hquoted]
    rw [ArgumentEntry.isQuoted_string_iff hvalue] at hquoted
    exact ⟨_, rfl, .string hvalue hquoted rfl (Constant.isPrimitive_ofLiteral_ofString text)⟩
  · rw [if_neg hquoted]
    rw [ArgumentEntry.isQuoted_string_iff hvalue, not_not] at hquoted
    obtain ⟨e, he⟩ := h.expression text hvalue hquoted
    exact ⟨e, he, .expression hvalue hquoted he⟩

/-- A well-formed argument is added as what it stands for, whichever of the two routes it takes. -/
theorem ArgumentEntry.exists_addTo {argument : ArgumentEntry} (h : argument.WellFormed)
    (a : Attribute) :
    ∃ added, argument.addTo a = .ok (a.add added) ∧ argument.KeptBy added := by
  unfold addTo
  split
  · rename_i hvalue
    obtain ⟨name, hname⟩ := Option.ne_none_iff_exists'.mp (h.named hvalue)
    rw [hname]
    exact ⟨_, a.addNamed_null .unquoted (h.name name hname), .null hvalue hname⟩
  · rename_i text hvalue
    obtain ⟨e, he, hkept⟩ := ArgumentEntry.exists_toExpr_string h hvalue
    exact ⟨_, a.addLiteral_eq_ok h.name he, hkept⟩
  · rename_i value hstring hvalue
    have hscalar := h.scalar value hvalue
    have hother : ∀ text, value ≠ .string text := by
      rintro text rfl
      exact hstring text rfl
    obtain ⟨e, hwritten, he⟩ := exists_isWrittenAs hscalar hother
    have hiff : argument.isQuoted = true ↔ argument.quoted = some true :=
      ArgumentEntry.isQuoted_iff (by simpa [hvalue] using hother)
    split
    · -- A quoted value that is no string is put between quotes without being escaped.
      rename_i hyes
      have hquoted := hiff.mp hyes
      have hplain := Toml.Value.isPlainText_print hscalar hother
      split
      · rename_i name hname
        exact ⟨_, a.addNamed_quoted (h.name name hname) hplain,
          .namedSpelling hvalue hscalar hother hquoted hname⟩
      · rename_i hname
        exact ⟨_, a.addPositional_quoted hplain, .spelling hvalue hscalar hother hquoted hname⟩
    · rename_i hno
      exact ⟨_, a.addLiteral_eq_ok h.name he, .literal hvalue (mt hiff.mpr hno) hwritten⟩

end Manifest

end DeclScribe
