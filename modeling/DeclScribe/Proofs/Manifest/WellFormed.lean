import DeclScribe.Manifest.Validation

/-!
# Well-formed manifests

The rules of a manifest, entry by entry and in no order: which texts parse, which names are
identifiers, which names differ and which values are in range. Nothing is said of the order in which
a check meets them or of the place where a text stands.
-/

set_option autoImplicit false

namespace DeclScribe

/-- A text is a fragment of the kind that the parser reads. -/
def Parses {α : Type} (parse : String → Except ParseError α) (text : String) : Prop :=
  ∃ value, parse text = .ok value

/-- A missing text, or one that is a fragment. -/
def ParsesIfPresent {α : Type} (parse : String → Except ParseError α) (text : Option String) :
    Prop :=
  ∀ present, text = some present → Parses parse present

/-- An identifier: one `@` at most, then a letter or an underscore, then letters, digits and
underscores. -/
def IsIdentifier (name : String) : Prop :=
  ∃ mark c rest, name.toList = mark ++ c :: rest ∧ (mark = [] ∨ mark = ['@']) ∧
    (Text.isAlphabetic c = true ∨ c = '_') ∧
    ∀ d ∈ rest, Text.isAlphabetic d = true ∨ Text.isNumeric d = true ∨ d = '_'

/-- A name that something can be declared with. -/
def IsDeclarable (name : String) : Prop :=
  IsIdentifier name ∧ name ∉ reservedWords

/-- A word that is a modifier. -/
def IsModifier (word : String) : Prop :=
  ∃ modifier : Modifier, modifier.word = word

/-- A value that an attribute argument can have. -/
def Toml.Value.IsScalar : Toml.Value → Prop
  | .string _ => True
  | .integer _ => True
  | .float _ => True
  | .boolean _ => True
  | _ => False

/-- The least and the greatest value of the types that an enum can have. -/
def Predefined.integralBounds? : Predefined → Option (Int × Int)
  | .byte => some (0, 255)
  | .sbyte => some (-128, 127)
  | .short => some (-32768, 32767)
  | .ushort => some (0, 65535)
  | .int => some (-2147483648, 2147483647)
  | .uint => some (0, 4294967295)
  | .long => some (-9223372036854775808, 9223372036854775807)
  | .ulong => some (0, 18446744073709551615)
  | _ => none

namespace Manifest

/-- A valid name when there is one, a name when there is no value, and else a plain value, which is
an expression if it is a string that is not quoted. -/
structure ArgumentEntry.WellFormed (argument : ArgumentEntry) : Prop where
  name : ∀ name, argument.name = some name → IsDeclarable name
  named : argument.value = none → argument.name ≠ none
  scalar : ∀ value, argument.value = some value → value.IsScalar
  expression : ∀ text, argument.value = some (.string text) → argument.quoted = some false →
    Parses Expr.parse text

/-- Strings are quoted unless told otherwise. -/
theorem ArgumentEntry.isQuoted_string_iff {argument : ArgumentEntry} {text : String}
    (hvalue : argument.value = some (.string text)) :
    argument.isQuoted = true ↔ argument.quoted ≠ some false := by
  unfold isQuoted
  rw [hvalue]
  cases argument.quoted with
  | none => simp
  | some quoted => simp

/-- Numbers and truth values are not quoted unless told otherwise. -/
theorem ArgumentEntry.isQuoted_iff {argument : ArgumentEntry}
    (hvalue : ∀ text, argument.value ≠ some (.string text)) :
    argument.isQuoted = true ↔ argument.quoted = some true := by
  unfold isQuoted
  split
  · rename_i quoted hquoted
    rw [hquoted, Option.some_inj]
  · rename_i text _ hstring
    exact absurd hstring (hvalue text)
  · rename_i hquoted _
    simp [hquoted]

/-- The rules of an attribute: its name and its arguments are right. -/
structure AttributeEntry.WellFormed (entry : AttributeEntry) : Prop where
  name : Parses Name.parse entry.name
  arguments : ∀ argument ∈ entry.arguments, argument.WellFormed

/-- The rules of a field: its name is declarable, its modifiers are known and its texts parse. -/
structure FieldEntry.WellFormed (field : FieldEntry) : Prop where
  name : IsDeclarable field.name
  type : Parses TypeRef.parse field.type
  modifiers : ∀ word ∈ field.modifiers, IsModifier word
  attributes : ∀ entry ∈ field.attributes, entry.WellFormed
  initializer : ParsesIfPresent Expr.parse field.initializer

/-- Accessors of a property that go together. -/
structure AreAccessors (words : List String) : Prop where
  known : ∀ word ∈ words, word = "get" ∨ word = "set" ∨ word = "init"
  get : "get" ∈ words
  setOrInit : ¬ ("set" ∈ words ∧ "init" ∈ words)
  distinct : words.Nodup

/-- The rules of a property. Only a list of accessors that is there has to be one. -/
structure PropertyEntry.WellFormed (property : PropertyEntry) : Prop where
  name : IsDeclarable property.name
  type : Parses TypeRef.parse property.type
  modifiers : ∀ word ∈ property.modifiers, IsModifier word
  attributes : ∀ entry ∈ property.attributes, entry.WellFormed
  initializer : ParsesIfPresent Expr.parse property.initializer
  accessors : ∀ words, property.accessors = some words → AreAccessors words

/-- The rules of a parameter, which has neither modifiers nor attributes. -/
structure ParameterEntry.WellFormed (parameter : ParameterEntry) : Prop where
  name : IsDeclarable parameter.name
  type : Parses TypeRef.parse parameter.type
  default : ParsesIfPresent Expr.parse parameter.default

/-- The rules of a method, whose parameters have distinct names. -/
structure MethodEntry.WellFormed (method : MethodEntry) : Prop where
  name : IsDeclarable method.name
  returns : Parses TypeRef.parse method.returns
  modifiers : ∀ word ∈ method.modifiers, IsModifier word
  attributes : ∀ entry ∈ method.attributes, entry.WellFormed
  parameters : ∀ parameter ∈ method.parameters, parameter.WellFormed
  distinct : (method.parameters.map (·.name)).Nodup
  body : ParsesIfPresent Expr.parse method.body

/-- What classes and interfaces declare alike. `dataNames` are the names of the fields and of the
properties. -/
structure IsTypeBody (words : List String) (bases : Option (List String))
    (applied : List AttributeEntry) (declared : List PropertyEntry) (callable : List MethodEntry)
    (dataNames : List String) : Prop where
  modifiers : ∀ word ∈ words, IsModifier word
  baseTypes : ∀ texts, bases = some texts → ∀ text ∈ texts, Parses TypeRef.parse text
  attributes : ∀ entry ∈ applied, entry.WellFormed
  properties : ∀ property ∈ declared, property.WellFormed
  methods : ∀ method ∈ callable, method.WellFormed
  distinct : dataNames.Nodup
  apart : ∀ method ∈ callable, method.name ∉ dataNames

/-- The rules of a class, its members included. -/
structure ClassEntry.WellFormed (entry : ClassEntry) : Prop where
  name : IsDeclarable entry.name
  fields : ∀ field ∈ entry.fields, field.WellFormed
  body : IsTypeBody entry.modifiers entry.baseTypes entry.attributes entry.properties entry.methods
    (entry.fields.map (·.name) ++ entry.properties.map (·.name))

/-- The rules of an interface, which has no fields. -/
structure InterfaceEntry.WellFormed (entry : InterfaceEntry) : Prop where
  name : IsDeclarable entry.name
  noFields : entry.strayFields = none
  body : IsTypeBody entry.modifiers entry.baseTypes entry.attributes entry.properties entry.methods
    (entry.properties.map (·.name))

/-- The least and the greatest value of the members of an enum. An enum without a type of its own
has `int`. -/
def EnumEntry.HasBounds (entry : EnumEntry) (least greatest : Int) : Prop :=
  match entry.underlying with
  | none => Predefined.int.integralBounds? = some (least, greatest)
  | some text => ∃ type : Predefined, TypeRef.parse text = .ok (.predefined type) ∧
      type.integralBounds? = some (least, greatest)

/-- The rules of a member of an enum, whose value is between the bounds of the enum. -/
structure EnumMemberEntry.WellFormed (least greatest : Int) (member : EnumMemberEntry) :
    Prop where
  name : IsDeclarable member.name
  noModifiers : member.strayModifiers = none
  noBaseTypes : member.strayBaseTypes = none
  inRange : ∀ value, member.value = some value → least ≤ value ∧ value ≤ greatest
  attributes : ∀ entry ∈ member.attributes, entry.WellFormed

/-- The rules of an enum: its underlying type gives bounds that all its members keep. -/
structure EnumEntry.WellFormed (entry : EnumEntry) : Prop where
  name : IsDeclarable entry.name
  noBaseTypes : entry.strayBaseTypes = none
  modifiers : ∀ word ∈ entry.modifiers, IsModifier word
  attributes : ∀ applied ∈ entry.attributes, applied.WellFormed
  members : ∃ least greatest, entry.HasBounds least greatest ∧
    ∀ member ∈ entry.members, member.WellFormed least greatest
  distinct : (entry.members.map (·.name)).Nodup

/-- The rules of a namespace: its name and its directives parse. -/
structure NamespaceEntry.WellFormed (entry : NamespaceEntry) : Prop where
  name : Parses Name.parse entry.name
  usings : ∀ text ∈ entry.usings, Parses Name.parse text

/-- The names of the types of a manifest: classes, interfaces and enums. -/
def typeNames (manifest : Manifest) : List String :=
  manifest.classes.map (·.name) ++ manifest.interfaces.map (·.name) ++ manifest.enums.map (·.name)

/-- A manifest that keeps the rules. -/
structure WellFormed (manifest : Manifest) : Prop where
  usings : ∀ text ∈ manifest.usings, Parses Name.parse text
  enclosing : ∀ entry, manifest.enclosing = some entry → entry.WellFormed
  classes : ∀ entry ∈ manifest.classes, entry.WellFormed
  interfaces : ∀ entry ∈ manifest.interfaces, entry.WellFormed
  enums : ∀ entry ∈ manifest.enums, entry.WellFormed
  distinct : manifest.typeNames.Nodup

end Manifest

end DeclScribe
