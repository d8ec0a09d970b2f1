import DeclScribe.Number.FloatFormat
import DeclScribe.Text.Format

/-!
# TOML values

The values of a TOML document, and the spelling of one on a single place: tables are inline tables
with their keys in ascending order. A string takes the plainest of the four forms that needs no
escape sequence, and the basic form with escapes if none does.
-/

set_option autoImplicit false

namespace DeclScribe.Toml

/-- A TOML value. Dates and times are kept as they are written. -/
inductive Value where
  | string (text : String)
  | integer (value : Int)
  | float (value : Binary64)
  | boolean (value : Bool)
  | datetime (text : String)
  | array (items : List Value)
  | table (entries : List (String × Value))
deriving Repr, Inhabited

def Value.kindWord : Value → String
  | .string _ => "string"
  | .integer _ => "integer"
  | .float _ => "float"
  | .boolean _ => "boolean"
  | .datetime _ => "datetime"
  | .array _ => "array"
  | .table _ => "table"

/-- Floats are positional and show that they are no integers. -/
def floatFormat : FloatFormat where
  positional _ := true
  pointZero := true
  plusSign := false
  tie := .up
  infinity := "inf"
  negativeInfinity := "-inf"
  nan := "nan"

/-- Characters that only an escape sequence can write. -/
def needsCode (c : Char) : Bool :=
  (c.toNat < 0x20 && c != '\t' && c != '\n') || c.toNat == 0x7f

/-- The length of the longest run of a character, given the length of the run before the text. -/
def longestRun (c : Char) (run : Nat) : List Char → Nat
  | [] => run
  | d :: rest => if d = c then longestRun c (run + 1) rest else max run (longestRun c 0 rest)

inductive StringForm where
  | basic | literal | multilineBasic | multilineLiteral
deriving Repr, DecidableEq, Inhabited

/-- The form that a string is written in. -/
def StringForm.choose (text : List Char) : StringForm :=
  let coded := text.any needsCode
  let lines := text.contains '\n'
  let backslash := text.contains '\\'
  let quotes := longestRun '"' 0 text
  let apostrophes := longestRun '\'' 0 text
  if !coded && !backslash && quotes == 0 && !lines then .basic
  else if !coded && apostrophes == 0 && !lines then .literal
  else if !coded && !backslash && quotes ≤ 2 then .multilineBasic
  else if !coded && apostrophes ≤ 2 then .multilineLiteral
  else if lines then .multilineBasic
  else .basic

/-- A character of a form with escape sequences, quotes apart. -/
def escaped (multiline : Bool) (c : Char) : List Char :=
  if c = '\x08' then ['\\', 'b']
  else if c = '\t' then ['\\', 't']
  else if c = '\n' then if multiline then [c] else ['\\', 'n']
  else if c = '\x0c' then ['\\', 'f']
  else if c = '\r' then ['\\', 'r']
  else if c = '\\' then ['\\', '\\']
  else if needsCode c then '\\' :: 'u' :: (Text.hexFixed 4 c.toNat).map Char.toUpper
  else [c]

/-- The body of a form with escape sequences. Quotes stand for themselves in runs of at most
`admitted`; the quote behind such a run is escaped. -/
def escapedBody (multiline : Bool) (admitted run : Nat) : List Char → List Char
  | [] => []
  | c :: rest =>
    if c = '"' then
      if run < admitted then c :: escapedBody multiline admitted (run + 1) rest
      else '\\' :: c :: escapedBody multiline admitted 0 rest
    else escaped multiline c ++ escapedBody multiline admitted 0 rest

/-- A string in a form. A multi-line form starts on a line of its own. -/
def writeString (form : StringForm) (text : List Char) : List Char :=
  match form with
  | .basic => ['"'] ++ escapedBody false 0 0 text ++ ['"']
  | .literal => ['\''] ++ text ++ ['\'']
  | .multilineBasic => ['"', '"', '"', '\n'] ++ escapedBody true 2 0 text ++ ['"', '"', '"']
  | .multilineLiteral => ['\'', '\'', '\'', '\n'] ++ text ++ ['\'', '\'', '\'']

def printString (text : String) : String :=
  String.ofList (writeString (StringForm.choose text.toList) text.toList)

/-- The characters of keys that need no quotes. -/
def isBareKeyChar (c : Char) : Bool :=
  c.isAlphanum || c == '_' || c == '-'

def printKey (key : String) : String :=
  let text := key.toList
  let coded := text.any fun c => needsCode c || c == '\n'
  if !text.isEmpty && text.all isBareKeyChar then key
  else if !coded && !text.contains '\\' && !text.contains '"' then
    String.ofList (writeString .basic text)
  else if !coded && !text.contains '\'' then String.ofList (writeString .literal text)
  else String.ofList (writeString .basic text)

namespace Value

mutual

/-- The spelling of a value on a single place. -/
def print : Value → String
  | .string text => printString text
  | .integer value => toString value
  | .float value => floatFormat.write value
  | .boolean true => "true"
  | .boolean false => "false"
  | .datetime text => text
  | .array items => "[" ++ Text.commaSeparated (printItems items) ++ "]"
  | .table [] => "\x7b\x7d"
  | .table entries => "\x7b " ++ Text.commaSeparated (printEntries entries) ++ " \x7d"

/-- The spellings of the items of an array. -/
def printItems : List Value → List String
  | [] => []
  | item :: rest => item.print :: printItems rest

/-- The spellings of the entries of a table. -/
def printEntries : List (String × Value) → List String
  | [] => []
  | (key, value) :: rest => (printKey key ++ " = " ++ value.print) :: printEntries rest

end

/-- A list of entries with one more at its place in ascending order of keys. -/
def insertSorted (key : String) (value : Value) : List (String × Value) → List (String × Value)
  | [] => [(key, value)]
  | (other, old) :: rest =>
    if key < other then (key, value) :: (other, old) :: rest
    else (other, old) :: insertSorted key value rest

/-- Entries in ascending order of keys. -/
def sortEntries : List (String × Value) → List (String × Value)
  | [] => []
  | (key, value) :: rest => insertSorted key value (sortEntries rest)

end Value

end DeclScribe.Toml
