import DeclScribe.Symbol.Basic

/-!
# Symbols as JSON

The JSON form of symbols, keys in the order in which the parts are declared. A mentioned type has
the shape of a declared one with nothing in it.
-/

set_option autoImplicit false

namespace DeclScribe

def AttributeData.toJson (data : AttributeData) : Json :=
  .object
    [("attribute_class", .string data.className),
     ("constructor_arguments", .array (data.positional.map Constant.toJson)),
     ("named_arguments", .object (data.named.map fun (name, value) => (name, value.toJson)))]

/-- The JSON form of a list of attributes. -/
def AttributeData.toJsonAll (attributes : List AttributeData) : Json :=
  .array (attributes.map AttributeData.toJson)

/-- The JSON form of a type with members and attributes that are already in JSON form. -/
def TypeMention.toJsonWith (type : TypeMention) (members attributes : Json) : Json :=
  .object
    [("name", .string type.name), ("namespace", .ofOption type.enclosing),
     ("kind", .string type.kind.word), ("members", members), ("attributes", attributes)]

def TypeMention.toJson (type : TypeMention) : Json :=
  type.toJsonWith (.array []) (.array [])

def ParameterSymbol.toJson (symbol : ParameterSymbol) : Json :=
  .object [("name", .string symbol.name), ("type", symbol.type.toJson)]

/-- The fields of the JSON form of a member, its kind apart. -/
def MemberSymbol.jsonFields : MemberSymbol → List (String × Json)
  | .field s =>
    [("name", .string s.name), ("type", s.type.toJson), ("is_static", .bool s.isStatic),
     ("is_const", .bool s.isConst), ("attributes", AttributeData.toJsonAll s.attributes)]
  | .property s =>
    [("name", .string s.name), ("type", s.type.toJson), ("is_static", .bool s.isStatic),
     ("is_read_only", .bool s.isReadOnly), ("attributes", AttributeData.toJsonAll s.attributes)]
  | .method s =>
    [("name", .string s.name), ("return_type", s.returns.toJson),
     ("parameters", .array (s.parameters.map ParameterSymbol.toJson)),
     ("is_static", .bool s.isStatic), ("attributes", AttributeData.toJsonAll s.attributes)]
  | .event s =>
    [("name", .string s.name), ("type", s.type.toJson), ("is_static", .bool s.isStatic),
     ("attributes", AttributeData.toJsonAll s.attributes)]

def MemberSymbol.toJson (symbol : MemberSymbol) : Json :=
  .object (("kind", .string symbol.kindWord) :: symbol.jsonFields)

def TypeSymbol.toJson (type : TypeSymbol) : Json :=
  type.toJsonWith (.array (type.members.map MemberSymbol.toJson))
    (AttributeData.toJsonAll type.attributes)

end DeclScribe
