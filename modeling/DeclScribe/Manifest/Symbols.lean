import DeclScribe.Constant.OfExpr
import DeclScribe.Fragment
import DeclScribe.Manifest.Basic
import DeclScribe.Symbol.Basic

/-!
# The symbols of a manifest

One type symbol for each class, interface and enum, in that order. The type of a member that names a
type of the same manifest is that type; every other one is known by its spelling only.
-/

set_option autoImplicit false

namespace DeclScribe.Manifest

/-- The types that a manifest declares, by name, and the namespace around them. -/
structure Declared where
  enclosing : Option String
  kinds : List (String × TypeKind)
deriving Repr, DecidableEq, Inhabited

namespace Declared

def ofManifest (manifest : Manifest) : Declared where
  enclosing := manifest.enclosingName?
  kinds := manifest.classes.map (fun entry => (entry.name, .classType))
    ++ manifest.interfaces.map (fun entry => (entry.name, .interfaceType))
    ++ manifest.enums.map (fun entry => (entry.name, .enumType))

/-- The kind of the type with a name; of several with the same name the last one counts. -/
def kind? (declared : Declared) (name : String) : Option TypeKind :=
  declared.kinds.reverse.lookup name

/-- A declared type as it is mentioned. -/
def mention (declared : Declared) (kind : TypeKind) (name : String) : TypeMention :=
  { name, enclosing := declared.enclosing, kind }

def resolve (declared : Declared) (text : String) : Except ParseError TypeMention :=
  match TypeRef.parse text with
  | .error e => .error e
  | .ok type =>
    match declared.kind? type.print with
    | some kind => .ok (declared.mention kind type.print)
    | none => .ok { name := type.print }

end Declared

/-- Reads every item of a list, and fails at the first one that fails. -/
def symbolAll {α β : Type} (symbol : α → Except ParseError β) :
    List α → Except ParseError (List β)
  | [] => .ok []
  | item :: rest =>
    match symbol item with
    | .error e => .error e
    | .ok value =>
      match symbolAll symbol rest with
      | .error e => .error e
      | .ok values => .ok (value :: values)

def constantOfText (text : String) : Except ParseError Constant :=
  (Expr.parse text).map Constant.ofExpr

def ArgumentEntry.constant (argument : ArgumentEntry) : Except ParseError Constant :=
  match argument.value with
  | none => .ok .null
  | some (.string text) =>
    if argument.isQuoted then .ok (.ofString text) else constantOfText text
  | some value =>
    if argument.isQuoted then .ok (.ofString value.print)
    else
      match value with
      | .integer n => .ok (.ofInteger n)
      | .float x => .ok (.double x)
      | .boolean b => .ok (.ofBool b)
      | other => constantOfText other.print

def ArgumentEntry.collect :
    List ArgumentEntry → AttributeData → Except ParseError AttributeData
  | [], data => .ok data
  | argument :: rest, data =>
    match argument.constant with
    | .error e => .error e
    | .ok value => ArgumentEntry.collect rest (data.add argument.name value)

/-- The attribute data of an entry. The class of an attribute is the last part of its name. -/
def AttributeEntry.symbol (entry : AttributeEntry) : Except ParseError AttributeData :=
  match Name.parse entry.name with
  | .error e => .error e
  | .ok name => ArgumentEntry.collect entry.arguments { className := name.simpleIdentifier }

def AttributeEntry.symbols (entries : List AttributeEntry) :
    Except ParseError (List AttributeData) :=
  symbolAll AttributeEntry.symbol entries

/-- The symbol of a field. A constant is static too. -/
def FieldEntry.symbol (declared : Declared) (entry : FieldEntry) :
    Except ParseError FieldSymbol := do
  let type ← declared.resolve entry.type
  let attributes ← AttributeEntry.symbols entry.attributes
  let isConst := entry.modifiers.contains "const"
  let isStatic := isConst || entry.modifiers.contains "static"
  return { name := entry.name, type, isStatic, isConst, attributes }

def PropertyEntry.symbol (declared : Declared) (entry : PropertyEntry) :
    Except ParseError PropertySymbol := do
  let type ← declared.resolve entry.type
  let attributes ← AttributeEntry.symbols entry.attributes
  let isStatic := entry.modifiers.contains "static"
  return { name := entry.name, type, isStatic, isReadOnly := entry.isReadOnly, attributes }

def ParameterEntry.symbol (declared : Declared) (entry : ParameterEntry) :
    Except ParseError ParameterSymbol :=
  (declared.resolve entry.type).map fun type => { name := entry.name, type }

def MethodEntry.symbol (declared : Declared) (entry : MethodEntry) :
    Except ParseError MethodSymbol := do
  let parameters ← symbolAll (ParameterEntry.symbol declared) entry.parameters
  let returns ← declared.resolve entry.returns
  let attributes ← AttributeEntry.symbols entry.attributes
  let isStatic := entry.modifiers.contains "static"
  return { name := entry.name, returns, parameters, isStatic, attributes }

def ClassEntry.symbol (declared : Declared) (entry : ClassEntry) :
    Except ParseError TypeSymbol := do
  let attributes ← AttributeEntry.symbols entry.attributes
  let fields ← symbolAll (FieldEntry.symbol declared) entry.fields
  let properties ← symbolAll (PropertyEntry.symbol declared) entry.properties
  let methods ← symbolAll (MethodEntry.symbol declared) entry.methods
  return { declared.mention .classType entry.name with
    attributes
    members := fields.map .field ++ properties.map .property ++ methods.map .method }

def InterfaceEntry.symbol (declared : Declared) (entry : InterfaceEntry) :
    Except ParseError TypeSymbol := do
  let attributes ← AttributeEntry.symbols entry.attributes
  let properties ← symbolAll (PropertyEntry.symbol declared) entry.properties
  let methods ← symbolAll (MethodEntry.symbol declared) entry.methods
  return { declared.mention .interfaceType entry.name with
    attributes
    members := properties.map .property ++ methods.map .method }

/-- The symbol of an enum member: a constant field of the enum's own type. -/
def EnumMemberEntry.symbol (type : TypeMention) (entry : EnumMemberEntry) :
    Except ParseError FieldSymbol :=
  (AttributeEntry.symbols entry.attributes).map fun attributes =>
    { name := entry.name, type, isStatic := true, isConst := true, attributes }

def EnumEntry.symbol (declared : Declared) (entry : EnumEntry) :
    Except ParseError TypeSymbol := do
  let type := declared.mention .enumType entry.name
  let attributes ← AttributeEntry.symbols entry.attributes
  let members ← symbolAll (EnumMemberEntry.symbol type) entry.members
  return { type with attributes, members := members.map .field }

def symbols (manifest : Manifest) : Except ParseError (List TypeSymbol) := do
  let declared := Declared.ofManifest manifest
  let classes ← symbolAll (ClassEntry.symbol declared) manifest.classes
  let interfaces ← symbolAll (InterfaceEntry.symbol declared) manifest.interfaces
  let enums ← symbolAll (EnumEntry.symbol declared) manifest.enums
  return classes ++ interfaces ++ enums

end DeclScribe.Manifest
