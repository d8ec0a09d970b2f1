import DeclScribe.Attribute
import DeclScribe.Proofs.Fragment.Splicing

/-!
# The two routes to an argument

The text route splices a value into a text and reads the whole, the typed route reads the value
alone and keeps the name as a label. A quoted value comes out of the text route as a string literal
or not at all. A named value is an argument along one route if and only if it is one along the
other, and is then printed alike, although the one argument is an assignment and the other has a
label.
-/

set_option autoImplicit false

namespace DeclScribe

namespace Attribute

variable {a b : Attribute} {name id value : String}

/-! ## What the routes add -/

/-- A text is added as an argument exactly if it is an expression. -/
theorem addText_eq_ok_iff {text : String} :
    a.addText text = .ok b ↔ ∃ e, Expr.parse text = .ok e ∧ b = a.add ⟨none, e⟩ := by
  unfold addText
  cases Expr.parse text with
  | error fault => simp
  | ok e => simp [eq_comm]

/-- The text route adds the assignment of the value to the name. -/
theorem addNamed_eq_ok_iff (h : Name.parse name = .ok (.identifier id)) (format : ArgumentFormat) :
    a.addNamed format name (some value) = .ok b ↔
      ∃ e, Expr.parse (format.apply none value) = .ok e ∧
        b = a.add ⟨none, .assign (.identifier id) e⟩ := by
  have htext : format.named name (some value) = name ++ " = " ++ format.apply none value := by
    cases format <;> rfl
  rw [addNamed, htext, addText_eq_ok_iff]
  constructor
  · rintro ⟨whole, hwhole, rfl⟩
    obtain ⟨e, he, rfl⟩ := (Expr.parse_named_iff h).mp hwhole
    exact ⟨e, he, rfl⟩
  · rintro ⟨e, he, rfl⟩
    exact ⟨_, (Expr.parse_named_iff h).mpr ⟨e, he, rfl⟩, rfl⟩

/-- The typed route adds the value with the name as its label. -/
theorem addLiteral_raw_eq_ok_iff (h : Name.parse name = .ok (.identifier id)) :
    a.addLiteral (some name) (.raw value) = .ok b ↔
      ∃ e, Expr.parse value = .ok e ∧ b = a.add ⟨some id, e⟩ := by
  have hlabel : Name.parseIdentifier .argumentName name = .ok id := by
    rw [Name.parseIdentifier, h]
  unfold addLiteral
  rw [LiteralValue.toExpr]
  cases Expr.parse value with
  | error fault => simp
  | ok e => simp [hlabel, eq_comm]

/-! ## Quoted values -/

/-- A quoted value is an argument exactly if it is a string literal with the quotes around it, and
then it is that literal: as a positional argument, or assigned to the name if there is one. -/
theorem quoted_values_are_strings (a : Attribute) (value : String) :
    (∀ b, a.addPositional .quoted value = .ok b ↔
      IsSoleToken .string ("\"" ++ value ++ "\"") ∧
        b = ⟨a.name, some (a.arguments ++
          [⟨none, .literal ⟨.string, "\"" ++ value ++ "\""⟩⟩])⟩) ∧
      ∀ name, IsIdentifierText name → ∀ b, a.addNamed .quoted name (some value) = .ok b ↔
        IsSoleToken .string ("\"" ++ value ++ "\"") ∧
          b = ⟨a.name, some (a.arguments ++
            [⟨none, .assign (.identifier name)
              (.literal ⟨.string, "\"" ++ value ++ "\""⟩)⟩])⟩ := by
  refine ⟨?_, ?_⟩
  · intro b
    rw [addPositional, addText_eq_ok_iff]
    simp only [ArgumentFormat.apply, Expr.parse_quoted_iff, and_assoc, exists_and_left,
      exists_eq_left]
    rfl
  · intro name hname b
    rw [addNamed_eq_ok_iff hname.parse .quoted]
    simp only [ArgumentFormat.apply, Expr.parse_quoted_iff, and_assoc, exists_and_left,
      exists_eq_left]
    rfl

/-- Escaped quotes stay inside of the literal, a bare one would end it. -/
theorem quoted_values_are_strings_sample :
    IsIdentifierText "message" ∧
      addNamed ⟨.identifier "A", none⟩ .quoted "message" (some "say \\\"hi\\\"") =
        .ok ⟨.identifier "A", some [⟨none, .assign (.identifier "message")
          (.literal ⟨.string, "\"say \\\"hi\\\"\""⟩)⟩]⟩ ∧
      ∀ b, addNamed ⟨.identifier "A", none⟩ .quoted "message" (some "a\" = \"b") ≠ .ok b := by
  have hname : IsIdentifierText "message" :=
    ⟨⟨⟨7, 1, 8⟩, by decide +kernel⟩, .inr (by decide +kernel)⟩
  have hescaped : IsSoleToken .string ("\"" ++ "say \\\"hi\\\"" ++ "\"") :=
    ⟨⟨12, 1, 13⟩, by decide +kernel⟩
  have hbare : tokenize ("\"" ++ "a\" = \"b" ++ "\"") = .ok ⟨[⟨.string, "\"a\"", ⟨0, 1, 1⟩⟩,
      ⟨.equals, "=", ⟨4, 1, 5⟩⟩, ⟨.string, "\"b\"", ⟨6, 1, 7⟩⟩], ⟨9, 1, 10⟩⟩ := by
    decide +kernel
  refine ⟨hname, ?_, ?_⟩
  · exact ((quoted_values_are_strings ⟨.identifier "A", none⟩ _).2 _ hname _).mpr ⟨hescaped, rfl⟩
  · intro b hb
    obtain ⟨⟨stop, hsole⟩, -⟩ := ((quoted_values_are_strings _ _).2 _ hname b).mp hb
    rw [hbare] at hsole
    simp at hsole

/-! ## Named values -/

/-- Arguments that are printed alike make attributes that are printed alike. -/
theorem print_add_congr {x y : AttributeArgument} (a : Attribute) (h : x.print = y.print) :
    (a.add x).print = (a.add y).print := by
  simp only [add, print, List.map_append, List.map_cons, h]

/-- A value with a name is an argument along both routes or along neither. The two attributes print
the same text, and their last arguments have the name. -/
theorem routes_agree (a : Attribute) (value : String)
    (h : Name.parse name = .ok (.identifier id)) :
    ((∃ b, a.addNamed .unquoted name (some value) = .ok b) ↔
      ∃ c, a.addLiteral (some name) (.raw value) = .ok c) ∧
      ∀ b c, a.addNamed .unquoted name (some value) = .ok b →
        a.addLiteral (some name) (.raw value) = .ok c →
        b.print = c.print ∧ b.arguments.length = c.arguments.length ∧
          (∃ last ∈ b.arguments.getLast?, last.name? = some id) ∧
          ∃ last ∈ c.arguments.getLast?, last.name? = some id := by
  simp only [addNamed_eq_ok_iff h, addLiteral_raw_eq_ok_iff h, ArgumentFormat.apply]
  refine ⟨?_, ?_⟩
  · constructor
    · rintro ⟨b, e, he, -⟩
      exact ⟨_, e, he, rfl⟩
    · rintro ⟨c, e, he, -⟩
      exact ⟨_, e, he, rfl⟩
  · rintro b c ⟨e, he, rfl⟩ ⟨e', he', rfl⟩
    obtain rfl : e = e' := Except.ok.inj (he.symm.trans he')
    refine ⟨a.print_add_congr rfl, by simp [add, arguments],
      ⟨⟨none, .assign (.identifier id) e⟩, ?_, rfl⟩, ⟨some id, e⟩, ?_, rfl⟩
    · exact List.getLast?_concat
    · exact List.getLast?_concat

/-- The name is read apart from the blanks around it, also where it begins an expression of its own
kind, and the value may be an assignment itself. -/
theorem routes_agree_sample :
    Name.parse " nameof\n" = .ok (.identifier "nameof") ∧
      ∃ b c, addNamed ⟨.identifier "A", none⟩ .unquoted " nameof\n" (some "y = 5") = .ok b ∧
        addLiteral ⟨.identifier "A", none⟩ (some " nameof\n") (.raw "y = 5") = .ok c ∧
        b ≠ c ∧ b.print = c.print := by
  have hname : Name.parse " nameof\n" = .ok (.identifier "nameof") := by decide +kernel
  let inner : Expr := .assign (.identifier "y") (.literal ⟨.numeric, "5"⟩)
  let b : Attribute := ⟨.identifier "A", some [⟨none, .assign (.identifier "nameof") inner⟩]⟩
  let c : Attribute := ⟨.identifier "A", some [⟨some "nameof", inner⟩]⟩
  have hb : addNamed ⟨.identifier "A", none⟩ .unquoted " nameof\n" (some "y = 5") = .ok b := by
    decide +kernel
  have hc : addLiteral ⟨.identifier "A", none⟩ (some " nameof\n") (.raw "y = 5") = .ok c := by
    decide +kernel
  exact ⟨hname, b, c, hb, hc, by decide, ((routes_agree _ _ hname).2 b c hb hc).1⟩

end Attribute

end DeclScribe
