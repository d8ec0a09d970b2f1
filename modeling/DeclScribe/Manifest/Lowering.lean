import DeclScribe.Declaration.Builder
import DeclScribe.Manifest.Basic

/-!
# From manifests to declarations

Every entry becomes a declaration with the same parts in the same order. A manifest that is not
valid can fail here, at the first fragment that does not parse or the first unknown modifier.

An attribute argument takes one of two routes. Text is escaped or parsed as it is told; a quoted
value of another kind is quoted as it is spelled in the document.
-/

set_option autoImplicit false

namespace DeclScribe.Manifest

/-- Why a manifest has no declarations. -/
inductive LowerError where
  /-- A fragment does not parse. -/
  | malformed (e : ParseError)
  /-- A modifier is unknown; `place` is the kind and the name of its declaration. -/
  | unknownModifier (word place : String)
deriving Repr, DecidableEq, Inhabited

namespace LowerError

/-- What is said of a manifest without declarations. -/
def message : LowerError → String
  | .malformed e => "invalid fragment: " ++ e.message
  | .unknownModifier word place => "unknown modifier '" ++ word ++ "' on " ++ place

/-- What is said of the innermost cause. -/
def rootCause : LowerError → String
  | .malformed e => e.message
  | .unknownModifier word place => LowerError.message (.unknownModifier word place)

end LowerError

/-- A parse error as the reason why there are no declarations. -/
def lowered {α : Type} (result : Except ParseError α) : Except LowerError α :=
  match result with
  | .ok value => .ok value
  | .error e => .error (.malformed e)

/-- Lowers every item of a list, and fails at the first one that fails. -/
def lowerAll {α β : Type} (lower : α → Except LowerError β) :
    List α → Except LowerError (List β)
  | [] => .ok []
  | item :: rest =>
    match lower item with
    | .error e => .error e
    | .ok value =>
      match lowerAll lower rest with
      | .error e => .error e
      | .ok values => .ok (value :: values)

/-- The modifiers that words name; `place` says whose they are. -/
def lowerModifiers (place : String) (words : List String) : Except LowerError (List Modifier) :=
  lowerAll (fun word =>
    match Modifier.ofWord? word with
    | some modifier => .ok modifier
    | none => .error (.unknownModifier word place)) words

/-- A kind of declaration with its name, to say whose modifiers are meant. -/
def owner (kind : DeclarationKind) (name : String) : String :=
  kind.word ++ " '" ++ name ++ "'"

/-- A plain value as a literal. A value of another kind stands for its spelling. -/
def literalValue : Toml.Value → LiteralValue
  | .integer value => .int value
  | .float value => .float value
  | .boolean value => .bool value
  | .string text => .raw text
  | other => .raw other.print

/-- The attribute with one more argument. Null is written only behind a name. -/
def ArgumentEntry.addTo (argument : ArgumentEntry) (a : Attribute) :
    Except ParseError Attribute :=
  match argument.value with
  | none => a.addNamed .unquoted (argument.name.getD "") none
  | some (.string text) =>
    a.addLiteral argument.name (if argument.isQuoted then .string text else .raw text)
  | some value =>
    if argument.isQuoted then
      match argument.name with
      | some name => a.addNamed .quoted name (some value.print)
      | none => a.addPositional .quoted value.print
    else a.addLiteral argument.name (literalValue value)

def ArgumentEntry.addAll : List ArgumentEntry → Attribute → Except ParseError Attribute
  | [], a => .ok a
  | argument :: rest, a =>
    match argument.addTo a with
    | .error e => .error e
    | .ok next => ArgumentEntry.addAll rest next

def AttributeEntry.lower (entry : AttributeEntry) : Except ParseError Attribute :=
  match Attribute.parse entry.name with
  | .error e => .error e
  | .ok a => ArgumentEntry.addAll entry.arguments a

/-- The attribute lists of entries, one list for each. -/
def AttributeEntry.lowerAll (entries : List AttributeEntry) :
    Except LowerError (List AttributeList) :=
  Manifest.lowerAll (fun entry => (lowered entry.lower).map AttributeList.single) entries

def FieldEntry.lower (entry : FieldEntry) : Except LowerError FieldDecl := do
  let type ← lowered (TypeRef.parse entry.type)
  let field ← lowered (FieldDecl.single type entry.name)
  let modifiers ← lowerModifiers (owner .fieldDecl entry.name) entry.modifiers
  let initializer ← lowered (parseOption Expr.parse entry.initializer)
  let attributes ← AttributeEntry.lowerAll entry.attributes
  return { field with
    attributes, modifiers
    declarators := field.declarators.map fun declared => { declared with initializer } }

/-- The property of an entry. A word that names no accessor is passed over. -/
def PropertyEntry.lower (entry : PropertyEntry) : Except LowerError PropertyDecl := do
  let initializer ← lowered (parseOption Expr.parse entry.initializer)
  let type ← lowered (TypeRef.parse entry.type)
  let modifiers ← lowerModifiers (owner .propertyDecl entry.name) entry.modifiers
  let attributes ← AttributeEntry.lowerAll entry.attributes
  let accessors := (entry.accessorWords.filterMap AccessorKind.ofWord?).map fun kind => { kind }
  return { attributes, modifiers, type, identifier := entry.name, accessors, initializer }

def ParameterEntry.lower (entry : ParameterEntry) : Except LowerError Parameter := do
  let default ← lowered (parseOption Expr.parse entry.default)
  let type ← lowered (TypeRef.parse entry.type)
  return { type, identifier := entry.name, default }

/-- The body of a method: the expression of the entry, or else the body that stands for none. -/
def MethodEntry.lowerBody (entry : MethodEntry) (otherwise : MethodBody) :
    Except LowerError MethodBody :=
  match entry.body with
  | none => .ok otherwise
  | some text => (lowered (Expr.parse text)).map .expression

/-- The method of an entry with the body that stands for none. -/
def MethodEntry.lower (entry : MethodEntry) (otherwise : MethodBody) :
    Except LowerError MethodDecl := do
  let body ← entry.lowerBody otherwise
  let parameters ← Manifest.lowerAll ParameterEntry.lower entry.parameters
  let returns ← lowered (TypeRef.parse entry.returns)
  let modifiers ← lowerModifiers (owner .methodDecl entry.name) entry.modifiers
  let attributes ← AttributeEntry.lowerAll entry.attributes
  return { attributes, modifiers, returns, identifier := entry.name, parameters, body }

/-- What stands for no body in a class: a block, unless a modifier says that there is none. -/
def MethodEntry.classBody (entry : MethodEntry) : MethodBody :=
  if ["abstract", "extern", "partial"].any entry.modifiers.contains then .none else .block

def lowerBases (bases : Option (List String)) : Except LowerError (Option (List TypeRef)) :=
  match bases with
  | none => .ok none
  | some texts => (lowered (parseAll TypeRef.parse texts)).map some

def ClassEntry.lower (entry : ClassEntry) : Except LowerError TypeDecl := do
  let modifiers ← lowerModifiers (owner .classDecl entry.name) entry.modifiers
  let bases ← lowerBases entry.baseTypes
  let attributes ← AttributeEntry.lowerAll entry.attributes
  let fields ← lowerAll FieldEntry.lower entry.fields
  let properties ← lowerAll PropertyEntry.lower entry.properties
  let methods ← lowerAll (fun method => method.lower method.classBody) entry.methods
  return {
    keyword := .classType
    header := { attributes, modifiers, identifier := entry.name, bases }
    members := fields.map .fieldDecl ++ properties.map .propertyDecl ++ methods.map .methodDecl }

/-- The interface of an entry. Its methods have no body unless they are given one. -/
def InterfaceEntry.lower (entry : InterfaceEntry) : Except LowerError TypeDecl := do
  let modifiers ← lowerModifiers (owner .interfaceDecl entry.name) entry.modifiers
  let bases ← lowerBases entry.baseTypes
  let attributes ← AttributeEntry.lowerAll entry.attributes
  let properties ← lowerAll PropertyEntry.lower entry.properties
  let methods ← lowerAll (fun (method : MethodEntry) => method.lower .none) entry.methods
  return {
    keyword := .interfaceType
    header := { attributes, modifiers, identifier := entry.name, bases }
    members := properties.map .propertyDecl ++ methods.map .methodDecl }

def EnumMemberEntry.lower (entry : EnumMemberEntry) : Except LowerError EnumMember := do
  let value ← match entry.value with
    | none => pure none
    | some value => (lowered (LiteralValue.toExpr (.int value))).map some
  let attributes ← AttributeEntry.lowerAll entry.attributes
  return { attributes, identifier := entry.name, value }

def EnumEntry.lower (entry : EnumEntry) : Except LowerError EnumDecl := do
  let underlying ← lowered (parseOption TypeRef.parse entry.underlying)
  let modifiers ← lowerModifiers (owner .enumDecl entry.name) entry.modifiers
  let attributes ← AttributeEntry.lowerAll entry.attributes
  let members ← lowerAll EnumMemberEntry.lower entry.members
  return { attributes, modifiers, identifier := entry.name, underlying, members }

/-- The types of a manifest, kind by kind. -/
def lowerTypes (manifest : Manifest) : Except LowerError (List Member) := do
  let classes ← lowerAll ClassEntry.lower manifest.classes
  let interfaces ← lowerAll InterfaceEntry.lower manifest.interfaces
  let enums ← lowerAll EnumEntry.lower manifest.enums
  return classes.map TypeDecl.toMember ++ interfaces.map TypeDecl.toMember
    ++ enums.map Member.enumDecl

/-- The members of the unit: the types themselves, or the namespace around them. -/
def enclose (manifest : Manifest) (types : List Member) : Except LowerError (List Member) :=
  match manifest.enclosing with
  | none => .ok types
  | some entry => do
    let decl ← lowered (NamespaceDecl.parse entry.name)
    let usings ← lowered (Using.parseAll entry.usings)
    return [{ decl with usings, members := types : NamespaceDecl }.toMember]

def lower (manifest : Manifest) : Except LowerError CompilationUnit := do
  let types ← manifest.lowerTypes
  let usings ← lowered (Using.parseAll manifest.usings)
  let members ← manifest.enclose types
  return { usings, members }

end DeclScribe.Manifest
