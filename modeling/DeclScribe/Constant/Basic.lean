import DeclScribe.Json

/-!
# Constants

A constant is a value that an attribute is given, together with the name of its type and the way it
was written. Values are untyped at this level: an integer is an integer whatever its type is called.
-/

set_option autoImplicit false

namespace DeclScribe

/-- How a constant was written. -/
inductive ConstantKind where
  /-- A literal of a primitive type, or null. -/
  | primitive
  /-- A member of an enum. -/
  | enum
  /-- The operand of `typeof`. -/
  | type
  /-- An array of constants. -/
  | array
deriving Repr, DecidableEq, Inhabited

def ConstantKind.word : ConstantKind → String
  | .primitive => "primitive"
  | .enum => "enum"
  | .type => "type"
  | .array => "array"

mutual

inductive ConstantValue where
  | null
  | bool (value : Bool)
  | char (value : Char)
  /-- An integer of a signed type. -/
  | int (value : Int)
  /-- An integer of an unsigned type. -/
  | uint (value : Nat)
  | float (value : Binary64)
  | string (text : String)
  /-- The display name of a type. -/
  | type (name : String)
  /-- The name of an enum member. -/
  | enum (member : String)
  | array (items : List Constant)

/-- A constant: how it was written, the name of its type and its value. Only null has no type. -/
inductive Constant where
  | mk (kind : ConstantKind) (typeName : Option String) (value : ConstantValue)

end

deriving instance Repr for ConstantValue, Constant

instance : Inhabited ConstantValue := ⟨.null⟩
instance : Inhabited Constant := ⟨.mk .primitive none .null⟩

namespace ConstantValue

/-- What a value is called in a message. -/
def describe : ConstantValue → String
  | .null => "null"
  | .bool _ => "bool"
  | .char _ => "char"
  | .int _ => "signed integer"
  | .uint _ => "unsigned integer"
  | .float _ => "floating-point"
  | .string _ => "string"
  | .type _ => "type"
  | .enum _ => "enum"
  | .array _ => "array"

end ConstantValue

namespace Constant

/-- How the constant was written. -/
def kind : Constant → ConstantKind
  | .mk kind _ _ => kind

def typeName : Constant → Option String
  | .mk _ typeName _ => typeName

def value : Constant → ConstantValue
  | .mk _ _ value => value

def null : Constant := .mk .primitive none .null

def primitive (typeName : String) (value : ConstantValue) : Constant :=
  .mk .primitive (some typeName) value

def ofString (text : String) : Constant := primitive "string" (.string text)

/-- An integer of type `int`. -/
def int (value : Int) : Constant := primitive "int" (.int value)

/-- An integer of type `long`. -/
def long (value : Int) : Constant := primitive "long" (.int value)

/-- A number of type `double`. -/
def double (value : Binary64) : Constant := primitive "double" (.float value)

def ofBool (value : Bool) : Constant := primitive "bool" (.bool value)

def ofChar (value : Char) : Constant := primitive "char" (.char value)

def typeOf (name : String) : Constant := .mk .type (some "System.Type") (.type name)

def enumMember (enumType member : String) : Constant := .mk .enum (some enumType) (.enum member)

/-- An array whose items have the given type. -/
def array (elementType : String) (items : List Constant) : Constant :=
  .mk .array (some (elementType ++ "[]")) (.array items)

/-- A text that stands for a value nobody worked out, typed as `object`. -/
def opaqueText (text : String) : Constant := primitive "object" (.string text)

def isNull (c : Constant) : Bool :=
  match c.value with
  | .null => true
  | _ => false

end Constant

mutual

/-- The JSON form of a value, which does not tell the kinds of text apart. -/
def ConstantValue.toJson : ConstantValue → Json
  | .null => .null
  | .bool value => .bool value
  | .char value => .string value.toString
  | .int value => .int value
  | .uint value => .int value
  | .float value => .float value
  | .string text => .string text
  | .type name => .string name
  | .enum member => .string member
  | .array items => .array (Constant.toJsonAll items)

def Constant.toJson : Constant → Json
  | .mk kind typeName value =>
    .object [("kind", .string kind.word), ("type_name", .ofOption typeName),
      ("value", value.toJson)]

/-- The JSON forms of several constants. -/
def Constant.toJsonAll : List Constant → List Json
  | [] => []
  | c :: rest => c.toJson :: Constant.toJsonAll rest

end

end DeclScribe
