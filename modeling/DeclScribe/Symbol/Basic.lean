import DeclScribe.Constant.Basic

/-!
# Declared symbols

What a declaration means to those who use it: types with their members, the attributes on both and
the constants that the attributes were given. The type of a member is only mentioned, by name and
kind, and carries no members of its own.
-/

set_option autoImplicit false

namespace DeclScribe

/-- An attribute that was applied: its class, its positional arguments in order and its named
arguments in the order in which their names first came. -/
structure AttributeData where
  className : String
  positional : List Constant := []
  named : List (String × Constant) := []
deriving Repr, Inhabited

namespace AttributeData

/-- A list of named values with one more; a name that is already there keeps its place and takes the
new value. -/
def put (name : String) (value : Constant) :
    List (String × Constant) → List (String × Constant)
  | [] => [(name, value)]
  | (key, old) :: rest =>
    if key = name then (key, value) :: rest else (key, old) :: put name value rest

/-- The attribute with one more argument, named or positional. -/
def add (data : AttributeData) (name : Option String) (value : Constant) : AttributeData :=
  match name with
  | some name => { data with named := put name value data.named }
  | none => { data with positional := data.positional ++ [value] }

def named? (data : AttributeData) (name : String) : Option Constant :=
  data.named.lookup name

end AttributeData

inductive TypeKind where
  | classType | interfaceType | enumType | structType
  /-- Known by its name only. -/
  | unresolved
deriving Repr, DecidableEq, Inhabited

namespace TypeKind

def all : List TypeKind := [.classType, .interfaceType, .enumType, .structType, .unresolved]

def word : TypeKind → String
  | .classType => "class"
  | .interfaceType => "interface"
  | .enumType => "enum"
  | .structType => "struct"
  | .unresolved => "unresolved"

def ofWord? (word : String) : Option TypeKind :=
  all.find? fun kind => kind.word == word

end TypeKind

/-- A type as it is mentioned: its name, the namespace it is in and its kind. -/
structure TypeMention where
  name : String
  enclosing : Option String := none
  kind : TypeKind := .unresolved
deriving Repr, DecidableEq, Inhabited

namespace TypeMention

/-- The name of the type with its namespace. -/
def display (type : TypeMention) : String :=
  match type.enclosing with
  | some enclosing => enclosing ++ "." ++ type.name
  | none => type.name

def primitiveNames : List String :=
  ["byte", "sbyte", "short", "ushort", "int", "uint", "long", "ulong", "float", "double",
   "decimal", "char", "string", "bool", "object"]

/-- Whether the type is primitive. Only the keyword counts, not the name of the type behind it. -/
def isPrimitive (type : TypeMention) : Bool :=
  primitiveNames.contains type.display

end TypeMention

structure FieldSymbol where
  name : String
  type : TypeMention
  isStatic : Bool := false
  isConst : Bool := false
  attributes : List AttributeData := []
deriving Repr, Inhabited

/-- A property. It is read-only when nothing sets it. -/
structure PropertySymbol where
  name : String
  type : TypeMention
  isStatic : Bool := false
  isReadOnly : Bool := false
  attributes : List AttributeData := []
deriving Repr, Inhabited

structure ParameterSymbol where
  name : String
  type : TypeMention
deriving Repr, DecidableEq, Inhabited

structure MethodSymbol where
  name : String
  returns : TypeMention
  parameters : List ParameterSymbol := []
  isStatic : Bool := false
  attributes : List AttributeData := []
deriving Repr, Inhabited

structure EventSymbol where
  name : String
  type : TypeMention
  isStatic : Bool := false
  attributes : List AttributeData := []
deriving Repr, Inhabited

inductive MemberSymbol where
  | field (symbol : FieldSymbol)
  | property (symbol : PropertySymbol)
  | method (symbol : MethodSymbol)
  | event (symbol : EventSymbol)
deriving Repr, Inhabited

namespace MemberSymbol

def kindWord : MemberSymbol → String
  | .field _ => "field"
  | .property _ => "property"
  | .method _ => "method"
  | .event _ => "event"

def name : MemberSymbol → String
  | .field symbol => symbol.name
  | .property symbol => symbol.name
  | .method symbol => symbol.name
  | .event symbol => symbol.name

def attributes : MemberSymbol → List AttributeData
  | .field symbol => symbol.attributes
  | .property symbol => symbol.attributes
  | .method symbol => symbol.attributes
  | .event symbol => symbol.attributes

/-- Whether a member belongs to the type and not to its instances. -/
def isStatic : MemberSymbol → Bool
  | .field symbol => symbol.isStatic
  | .property symbol => symbol.isStatic
  | .method symbol => symbol.isStatic
  | .event symbol => symbol.isStatic

end MemberSymbol

/-- A declared type with its members in order. -/
structure TypeSymbol extends TypeMention where
  members : List MemberSymbol := []
  attributes : List AttributeData := []
deriving Repr, Inhabited

namespace TypeSymbol

def fields (type : TypeSymbol) : List FieldSymbol :=
  type.members.filterMap fun
    | .field symbol => some symbol
    | _ => none

def properties (type : TypeSymbol) : List PropertySymbol :=
  type.members.filterMap fun
    | .property symbol => some symbol
    | _ => none

def methods (type : TypeSymbol) : List MethodSymbol :=
  type.members.filterMap fun
    | .method symbol => some symbol
    | _ => none

def events (type : TypeSymbol) : List EventSymbol :=
  type.members.filterMap fun
    | .event symbol => some symbol
    | _ => none

end TypeSymbol

namespace AttributeData

/-- The first attribute of a class. -/
def first? (className : String) (attributes : List AttributeData) : Option AttributeData :=
  attributes.find? fun data => data.className == className

/-- Every attribute of a class, in order. -/
def every (className : String) (attributes : List AttributeData) : List AttributeData :=
  attributes.filter fun data => data.className == className

end AttributeData

end DeclScribe
