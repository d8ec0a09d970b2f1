import DeclScribe.Declaration.Basic
import DeclScribe.Toml.Value

/-!
# Manifests

A manifest describes one source file. Types stand in it kind by kind: classes, then interfaces, then
enums. Names, types and expressions are kept as texts; nothing here says that they parse.

Some entries have a slot for a key that their kind of declaration cannot carry. The slot is there so
that a manifest which uses the key can be refused with a better reason than an unknown key.
-/

set_option autoImplicit false

namespace DeclScribe.Manifest

/-- An argument of an attribute. A missing value stands for null. -/
structure ArgumentEntry where
  name : Option String := none
  value : Option Toml.Value := none
  quoted : Option Bool := none
deriving Repr, Inhabited

/-- Whether the value of an argument is quoted, which strings are unless told otherwise. -/
def ArgumentEntry.isQuoted (argument : ArgumentEntry) : Bool :=
  match argument.quoted, argument.value with
  | some quoted, _ => quoted
  | none, some (.string _) => true
  | none, _ => false

structure AttributeEntry where
  name : String
  arguments : List ArgumentEntry := []
deriving Repr, Inhabited

structure FieldEntry where
  name : String
  type : String
  modifiers : List String := []
  attributes : List AttributeEntry := []
  initializer : Option String := none
deriving Repr, Inhabited

structure PropertyEntry where
  name : String
  type : String
  modifiers : List String := []
  attributes : List AttributeEntry := []
  accessors : Option (List String) := none
  initializer : Option String := none
deriving Repr, Inhabited

/-- The words of the accessors, `get` and `set` unless told otherwise. -/
def PropertyEntry.accessorWords (property : PropertyEntry) : List String :=
  property.accessors.getD ["get", "set"]

def PropertyEntry.isReadOnly (property : PropertyEntry) : Bool :=
  !property.accessorWords.any fun word => word == "set" || word == "init"

structure ParameterEntry where
  name : String
  type : String
  default : Option String := none
deriving Repr, DecidableEq, Inhabited

structure MethodEntry where
  name : String
  returns : String := "void"
  modifiers : List String := []
  attributes : List AttributeEntry := []
  parameters : List ParameterEntry := []
  body : Option String := none
deriving Repr, Inhabited

/-- A class. A base list that is present may be empty. -/
structure ClassEntry where
  name : String
  modifiers : List String := []
  baseTypes : Option (List String) := none
  attributes : List AttributeEntry := []
  fields : List FieldEntry := []
  properties : List PropertyEntry := []
  methods : List MethodEntry := []
deriving Repr, Inhabited

structure InterfaceEntry where
  name : String
  modifiers : List String := []
  baseTypes : Option (List String) := none
  attributes : List AttributeEntry := []
  properties : List PropertyEntry := []
  methods : List MethodEntry := []
  /-- Fields, which an interface cannot have. -/
  strayFields : Option Toml.Value := none
deriving Repr, Inhabited

structure EnumMemberEntry where
  name : String
  value : Option Int := none
  attributes : List AttributeEntry := []
  /-- Modifiers, which an enum member cannot have. -/
  strayModifiers : Option Toml.Value := none
  /-- Base types, which an enum member cannot have. -/
  strayBaseTypes : Option Toml.Value := none
deriving Repr, Inhabited

structure EnumEntry where
  name : String
  modifiers : List String := []
  attributes : List AttributeEntry := []
  underlying : Option String := none
  members : List EnumMemberEntry := []
  /-- Base types, which an enum cannot have. -/
  strayBaseTypes : Option Toml.Value := none
deriving Repr, Inhabited

structure NamespaceEntry where
  name : String
  usings : List String := []
deriving Repr, DecidableEq, Inhabited

end DeclScribe.Manifest

namespace DeclScribe

/-- A description of one source file. -/
structure Manifest where
  usings : List String := []
  enclosing : Option Manifest.NamespaceEntry := none
  classes : List Manifest.ClassEntry := []
  interfaces : List Manifest.InterfaceEntry := []
  enums : List Manifest.EnumEntry := []
deriving Repr, Inhabited

def Manifest.typeCount (manifest : Manifest) : Nat :=
  manifest.classes.length + manifest.interfaces.length + manifest.enums.length

/-- The name of the namespace around the types. -/
def Manifest.enclosingName? (manifest : Manifest) : Option String :=
  manifest.enclosing.map (·.name)

end DeclScribe
