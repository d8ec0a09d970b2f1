import DeclScribe.Number.FloatFormat
import DeclScribe.Text.Format

/-!
# JSON

A value that is to be written as JSON, and its two spellings: compact, without any white space, and
pretty, with one item a line and two spaces a level. Objects keep their keys in the order in which
they were given. Only what JSON requires is escaped, so every other character stands for itself.
-/

set_option autoImplicit false

namespace DeclScribe

inductive Json where
  | null
  | bool (value : Bool)
  | int (value : Int)
  | float (value : Binary64)
  | string (text : String)
  | array (items : List Json)
  | object (fields : List (String × Json))
deriving Inhabited

namespace Json

/-- A text, or null if there is none. -/
def ofOption : Option String → Json
  | some text => .string text
  | none => .null

/-- Numbers are positional from `10^-5` up to below `10^16` and then show that they are real; a
positive exponent has its sign. There is no text for infinity and for no number. -/
def floatFormat : FloatFormat where
  positional leading := -6 < leading && leading < 16
  pointZero := true
  plusSign := true
  tie := .toEven
  infinity := "null"
  negativeInfinity := "null"
  nan := "null"

/-- A character as it is written inside a string. -/
def escaped (c : Char) : List Char :=
  if c = '"' then ['\\', '"']
  else if c = '\\' then ['\\', '\\']
  else if c = '\x08' then ['\\', 'b']
  else if c = '\x0c' then ['\\', 'f']
  else if c = '\n' then ['\\', 'n']
  else if c = '\r' then ['\\', 'r']
  else if c = '\t' then ['\\', 't']
  else if c.toNat < 0x20 then '\\' :: 'u' :: Text.hexFixed 4 c.toNat
  else [c]

def quote (text : String) : String :=
  String.ofList ('"' :: (text.toList.flatMap escaped ++ ['"']))

/-- The spelling of a value that contains no others. -/
def scalar : Json → String
  | .bool true => "true"
  | .bool false => "false"
  | .int value => toString value
  | .float value => floatFormat.write value
  | .string text => quote text
  | _ => "null"

mutual

/-- The spelling without white space. -/
def compact : Json → String
  | .array items => "[" ++ Text.joined "," (compactItems items) ++ "]"
  | .object fields => "\x7b" ++ Text.joined "," (compactFields fields) ++ "\x7d"
  | value => value.scalar

/-- The spellings of the items of an array. -/
def compactItems : List Json → List String
  | [] => []
  | item :: rest => item.compact :: compactItems rest

/-- The spellings of the fields of an object. -/
def compactFields : List (String × Json) → List String
  | [] => []
  | (key, value) :: rest => (quote key ++ ":" ++ value.compact) :: compactFields rest

end

/-- The start of a line at a depth. -/
def lineStart (depth : Nat) : String :=
  String.ofList ('\n' :: List.replicate (2 * depth) ' ')

/-- Items between brackets, each on a line one level below the brackets. -/
def spread (depth : Nat) (opening closing : String) : List String → String
  | [] => opening ++ closing
  | item :: rest =>
    let start := lineStart (depth + 1)
    opening ++ start ++ Text.joined ("," ++ start) (item :: rest) ++ lineStart depth ++ closing

mutual

/-- The spelling with one item a line, for a value at a depth. -/
def prettyAt (depth : Nat) : Json → String
  | .array items => spread depth "[" "]" (prettyItems (depth + 1) items)
  | .object fields => spread depth "\x7b" "\x7d" (prettyFields (depth + 1) fields)
  | value => value.scalar

/-- The spellings of the items of an array at a depth. -/
def prettyItems (depth : Nat) : List Json → List String
  | [] => []
  | item :: rest => item.prettyAt depth :: prettyItems depth rest

/-- The spellings of the fields of an object at a depth. -/
def prettyFields (depth : Nat) : List (String × Json) → List String
  | [] => []
  | (key, value) :: rest =>
    (quote key ++ ": " ++ value.prettyAt depth) :: prettyFields depth rest

end

def pretty (value : Json) : String :=
  value.prettyAt 0

end Json

end DeclScribe
