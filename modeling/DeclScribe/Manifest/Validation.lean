import DeclScribe.Manifest.Basic
import DeclScribe.Manifest.Scope
import DeclScribe.Number.IntRange

/-!
# Valid manifests

A manifest is valid when all its fragments parse, all its names are identifiers and distinct where
they must be, all its modifiers are known, its attribute arguments are plain values, its properties
have accessors that fit together and its enum members lie in the range of their type. Checks run in
the order of the document's kinds of entry and the first failure is the answer.
-/

set_option autoImplicit false

namespace DeclScribe.Manifest

/-- The range of a type that an enum can have. -/
def integralRange? : TypeRef → Option IntRange
  | .predefined .byte => some (.unsigned 8)
  | .predefined .sbyte => some (.signed 8)
  | .predefined .short => some (.signed 16)
  | .predefined .ushort => some (.unsigned 16)
  | .predefined .int => some (.signed 32)
  | .predefined .uint => some (.unsigned 32)
  | .predefined .long => some (.signed 64)
  | .predefined .ulong => some (.unsigned 64)
  | _ => none

def ArgumentEntry.validateValue (scope : Scope) (attributeName : String)
    (argument : ArgumentEntry) : Except Diagnostic Unit :=
  match argument.value with
  | none =>
    if argument.name.isNone then
      .error ⟨.violation (.namelessNull attributeName), scope.valueSpan? attributeName⟩
    else .ok ()
  | some (.string text) =>
    if argument.isQuoted then .ok ()
    else scope.checkFragment Expr.parse "argument expression" text
  | some (.integer _) => .ok ()
  | some (.float _) => .ok ()
  | some (.boolean _) => .ok ()
  | some other =>
    .error ⟨.violation (.unsuitableValue attributeName other.kindWord),
      scope.valueSpan? attributeName⟩

def ArgumentEntry.validate (scope : Scope) (attributeName : String)
    (argument : ArgumentEntry) : Except Diagnostic Unit := do
  match argument.name with
  | some name => scope.checkName name "argument name"
  | none => pure ()
  argument.validateValue scope attributeName

def AttributeEntry.validate (scope : Scope) (entry : AttributeEntry) :
    Except Diagnostic Unit := do
  scope.checkFragment Name.parse "attribute name" entry.name
  checkAll (fun argument => argument.validate scope entry.name) entry.arguments

def AttributeEntry.validateAll (scope : Scope) (entries : List AttributeEntry) :
    Except Diagnostic Unit :=
  checkAll (fun entry => entry.validate scope) entries

def FieldEntry.validate (outer : Scope) (field : FieldEntry) : Except Diagnostic Unit := do
  outer.checkName field.name "field name"
  let scope := outer.push field.name
  scope.checkFragment TypeRef.parse "field type" field.type
  scope.checkModifiers "field" field.modifiers
  AttributeEntry.validateAll scope field.attributes
  scope.checkOptional Expr.parse "initializer" field.initializer

/-- Whether a list names something twice. -/
def hasDuplicate : List String → Bool
  | [] => false
  | word :: rest => rest.contains word || hasDuplicate rest

/-- What is wrong with the accessors of a property. -/
def PropertyEntry.accessorFault? (property : PropertyEntry) : Option AccessorFault :=
  let words := property.accessorWords
  match words.find? fun word => (AccessorKind.ofWord? word).isNone with
  | some word => some (.unknown word)
  | none =>
    if !words.contains "get" then some .noGet
    else if words.contains "set" && words.contains "init" then some .setAndInit
    else if hasDuplicate words then some .duplicate
    else none

def PropertyEntry.validate (outer : Scope) (property : PropertyEntry) :
    Except Diagnostic Unit := do
  outer.checkName property.name "property name"
  let scope := outer.push property.name
  scope.checkFragment TypeRef.parse "property type" property.type
  scope.checkModifiers "property" property.modifiers
  AttributeEntry.validateAll scope property.attributes
  scope.checkOptional Expr.parse "initializer" property.initializer
  match property.accessorFault? with
  | some fault =>
    .error
      ⟨.violation (.accessors fault (scope.describe "property")), scope.keySpan? "accessors"⟩
  | none => .ok ()

/-- Checks a parameter behind those with the names seen. -/
def ParameterEntry.validate (scope : Scope) (seen : List String) (parameter : ParameterEntry) :
    Except Diagnostic Unit := do
  scope.checkName parameter.name "parameter name"
  scope.checkUnique .parameter seen parameter.name
  scope.checkFragment TypeRef.parse "parameter type" parameter.type
  scope.checkOptional Expr.parse "default value" parameter.default

def MethodEntry.validate (outer : Scope) (method : MethodEntry) : Except Diagnostic Unit := do
  outer.checkName method.name "method name"
  let scope := outer.push method.name
  scope.checkFragment TypeRef.parse "return type" method.returns
  scope.checkModifiers "method" method.modifiers
  AttributeEntry.validateAll scope method.attributes
  checkEach (·.name) (ParameterEntry.validate scope) [] method.parameters
  scope.checkOptional Expr.parse "method body" method.body

/-- Checks methods of a type whose fields and properties have the given names. Methods may share a
name among themselves. -/
def MethodEntry.validateAll (scope : Scope) (dataNames : List String)
    (methods : List MethodEntry) : Except Diagnostic Unit :=
  checkAll (fun method => do
    scope.checkUnique .member dataNames method.name
    method.validate scope) methods

/-- Checks fields behind members with the names seen. -/
def FieldEntry.validateAll (scope : Scope) (seen : List String) (fields : List FieldEntry) :
    Except Diagnostic Unit :=
  checkEach (·.name) (fun seen field => do
    scope.checkUnique .member seen field.name
    field.validate scope) seen fields

/-- Checks properties behind members with the names seen. -/
def PropertyEntry.validateAll (scope : Scope) (seen : List String)
    (properties : List PropertyEntry) : Except Diagnostic Unit :=
  checkEach (·.name) (fun seen property => do
    scope.checkUnique .member seen property.name
    property.validate scope) seen properties

def checkBases (scope : Scope) (bases : Option (List String)) : Except Diagnostic Unit :=
  checkAll (scope.checkFragment TypeRef.parse "base type") (bases.getD [])

def ClassEntry.validate (scope : Scope) (entry : ClassEntry) : Except Diagnostic Unit := do
  scope.checkModifiers "class" entry.modifiers
  checkBases scope entry.baseTypes
  AttributeEntry.validateAll scope entry.attributes
  let fieldNames := entry.fields.map (·.name)
  FieldEntry.validateAll scope [] entry.fields
  PropertyEntry.validateAll scope fieldNames entry.properties
  MethodEntry.validateAll scope (fieldNames ++ entry.properties.map (·.name)) entry.methods

def InterfaceEntry.validate (scope : Scope) (entry : InterfaceEntry) :
    Except Diagnostic Unit := do
  if entry.strayFields.isSome then
    .error (scope.shapeMismatch .interfaceDecl entry.name "fields" "interface.field")
  else
    scope.checkModifiers "interface" entry.modifiers
    checkBases scope entry.baseTypes
    AttributeEntry.validateAll scope entry.attributes
    PropertyEntry.validateAll scope [] entry.properties
    MethodEntry.validateAll scope (entry.properties.map (·.name)) entry.methods

/-- The underlying type of an enum as it is written, and its range. An enum that names none has
`int`. -/
def EnumEntry.underlyingRange (scope : Scope) (entry : EnumEntry) :
    Except Diagnostic (String × IntRange) :=
  match entry.underlying with
  | none => .ok ("int", .signed 32)
  | some text =>
    match scope.parse TypeRef.parse text "underlying type" with
    | .error e => .error e
    | .ok type =>
      match integralRange? type with
      | some range => .ok (text, range)
      | none =>
        .error ⟨.violation (.notIntegral entry.name type.print), scope.valueSpan? text⟩

/-- Checks the value of an enum member against the range of its type. -/
def EnumMemberEntry.validateValue (scope : Scope) (typeText : String) (range : IntRange)
    (member : EnumMemberEntry) : Except Diagnostic Unit :=
  match member.value with
  | none => .ok ()
  | some value =>
    if range.holds value then .ok ()
    else
      .error ⟨.violation (.outOfRange value member.name typeText), scope.keySpan? "value"⟩

/-- Checks an enum member behind those with the names seen. -/
def EnumMemberEntry.validate (outer : Scope) (typeText : String) (range : IntRange)
    (seen : List String) (member : EnumMemberEntry) : Except Diagnostic Unit := do
  outer.checkName member.name "enum member name"
  outer.checkUnique .enumMember seen member.name
  let scope := outer.push member.name
  if member.strayModifiers.isSome then
    .error (scope.shapeMismatch .enumMember member.name "modifiers" "modifiers")
  else if member.strayBaseTypes.isSome then
    .error (scope.shapeMismatch .enumMember member.name "base types" "base_types")
  else
    member.validateValue scope typeText range
    AttributeEntry.validateAll scope member.attributes

def EnumEntry.validate (scope : Scope) (entry : EnumEntry) : Except Diagnostic Unit := do
  if entry.strayBaseTypes.isSome then
    .error (scope.shapeMismatch .enumDecl entry.name
      "base types; set \u0060type\u0060 for the underlying type" "base_types")
  else
    scope.checkModifiers "enum" entry.modifiers
    AttributeEntry.validateAll scope entry.attributes
    let (typeText, range) ← entry.underlyingRange scope
    checkEach (·.name) (EnumMemberEntry.validate scope typeText range) [] entry.members

/-- Checks a type behind those with the names seen: its name, and then its inside. -/
def checkType (scope : Scope) (what : String) (seen : List String) (name : String)
    (inside : Scope → Except Diagnostic Unit) : Except Diagnostic Unit := do
  scope.checkName name what
  scope.checkUnique .type seen name
  inside (scope.push name)

/-- Checks the namespace and gives the scope of the types. -/
def enter (manifest : Manifest) (scope : Scope) : Except Diagnostic Scope :=
  match manifest.enclosing with
  | none => .ok scope
  | some entry => do
    scope.checkFragment Name.parse "namespace name" entry.name
    let inner := scope.push entry.name
    checkAll (inner.checkFragment Name.parse "using") entry.usings
    return inner

def validate (manifest : Manifest) (root : Scope) : Except Diagnostic Unit := do
  checkAll (root.checkFragment Name.parse "using") manifest.usings
  let scope ← manifest.enter root
  let classNames := manifest.classes.map (·.name)
  let interfaceNames := manifest.interfaces.map (·.name)
  checkEach (·.name) (fun seen (entry : ClassEntry) =>
    checkType scope "class name" seen entry.name fun inner => entry.validate inner)
    [] manifest.classes
  checkEach (·.name) (fun seen (entry : InterfaceEntry) =>
    checkType scope "interface name" seen entry.name fun inner => entry.validate inner)
    classNames manifest.interfaces
  checkEach (·.name) (fun seen (entry : EnumEntry) =>
    checkType scope "enum name" seen entry.name fun inner => entry.validate inner)
    (classNames ++ interfaceNames) manifest.enums

end DeclScribe.Manifest
