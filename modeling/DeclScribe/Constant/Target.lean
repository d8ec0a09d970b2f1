import DeclScribe.Constant.Basic
import DeclScribe.Number.IntRange

/-!
# Reading constants

A constant is read as one of a few types of value. A missing constant and null read as the type's
default; a constant of another shape, or an integer outside the range of the type, does not read.
Texts, type names and enum members all read as text.
-/

set_option autoImplicit false

namespace DeclScribe

/-- A type of value that a constant can be read as. -/
inductive Target where
  | int8 | int16 | int32 | int64
  | uint8 | uint16 | uint32 | uint64
  | float64 | float32
  | bool | char | string
  | list (element : Target)
deriving Repr, DecidableEq, Inhabited

inductive Reading where
  | int (value : Int)
  | float64 (value : Binary64)
  /-- A 32-bit floating-point number, as its word. -/
  | float32 (word : UInt32)
  | bool (value : Bool)
  | char (value : Char)
  | string (text : String)
  | list (items : List Reading)
deriving Repr, Inhabited

namespace Target

/-- What a type is called in a message. Lists are not told apart by their items. -/
def label : Target → String
  | .int8 => "i8"
  | .int16 => "i16"
  | .int32 => "i32"
  | .int64 => "i64"
  | .uint8 => "u8"
  | .uint16 => "u16"
  | .uint32 => "u32"
  | .uint64 => "u64"
  | .float64 => "f64"
  | .float32 => "f32"
  | .bool => "bool"
  | .char => "char"
  | .string => "String"
  | .list _ => "Vec"

def range? : Target → Option IntRange
  | .int8 => some (.signed 8)
  | .int16 => some (.signed 16)
  | .int32 => some (.signed 32)
  | .int64 => some (.signed 64)
  | .uint8 => some (.unsigned 8)
  | .uint16 => some (.unsigned 16)
  | .uint32 => some (.unsigned 32)
  | .uint64 => some (.unsigned 64)
  | _ => none

/-- The value that stands for none. -/
def default : Target → Reading
  | .float64 => .float64 (.ofWord false 0)
  | .float32 => .float32 0
  | .bool => .bool false
  | .char => .char '\x00'
  | .string => .string ""
  | .list _ => .list []
  | _ => .int 0

/-- An integer as a value of an integer type whose range holds it. -/
def readInt (target : Target) (value : Int) : Option Reading :=
  match target.range? with
  | some range => if range.holds value then some (.int value) else none
  | none => none

mutual

/-- The value as a value of the target type. -/
def read (target : Target) : ConstantValue → Option Reading
  | .null => none
  | .bool value => if target = .bool then some (.bool value) else none
  | .char value => if target = .char then some (.char value) else none
  | .int value => target.readInt value
  | .uint value => target.readInt value
  | .float value =>
    match target with
    | .float64 => some (.float64 value)
    | .float32 => some (.float32 value.toSingleWord)
    | _ => none
  | .string text => if target = .string then some (.string text) else none
  | .type name => if target = .string then some (.string name) else none
  | .enum member => if target = .string then some (.string member) else none
  | .array items =>
    match target with
    | .list element => (element.readAll items).map .list
    | _ => none

/-- The items as values of the target type, if every one of them is. -/
def readAll (target : Target) : List Constant → Option (List Reading)
  | [] => some []
  | .mk _ _ value :: rest =>
    match target.read value, target.readAll rest with
    | some reading, some readings => some (reading :: readings)
    | _, _ => none

end

end Target

/-- A constant that cannot be read as a type. -/
structure TypeMismatch where
  expected : Target
  found : ConstantValue

/-- What is said of a constant that cannot be read. -/
def TypeMismatch.message (e : TypeMismatch) : String :=
  "cannot read a " ++ e.found.describe ++ " constant as " ++ e.expected.label

/-- Reads a constant that may be missing. A missing one and null give the default. -/
def Target.valueOrDefault (target : Target) : Option Constant → Except TypeMismatch Reading
  | none => .ok target.default
  | some c =>
    if c.isNull then .ok target.default
    else
      match target.read c.value with
      | some reading => .ok reading
      | none => .error ⟨target, c.value⟩

end DeclScribe
