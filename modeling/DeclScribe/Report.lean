import DeclScribe.Manifest.Lowering
import DeclScribe.Manifest.Symbols
import DeclScribe.Symbol.Json
import DeclScribe.Text.Quoted

/-!
# Reports

What is told about a manifest: its source text, whether it is sound, and its symbols, as lines or as
JSON. A report is a list of lines; warnings stand apart from them.
-/

set_option autoImplicit false

namespace DeclScribe.Report

/-- A text without blanks at its end. -/
def trimEnd (text : String) : String :=
  String.ofList ((text.toList.reverse.dropWhile Text.isBlank).reverse)

/-- A line with a key and its value. -/
def keyValue (key value : String) : String :=
  "  " ++ key ++ ": " ++ value

/-- Lines, each with its line feed. -/
def unlines (lines : List String) : String :=
  String.join (lines.map (· ++ "\n"))

def printed (source : String) : List String :=
  [trimEnd source]

/-- The line that says how many types were written to a file. -/
def written (types : Nat) (path : String) : String :=
  "✓ Wrote " ++ toString types ++ " type" ++ (if types = 1 then "" else "s") ++ " to " ++ path

/-- What is odd about a manifest without making it unsound: no types at all, enums without members,
and interfaces whose names do not start with the letter `I`. -/
def warnings (manifest : Manifest) : List String :=
  (if manifest.typeCount = 0 then ["manifest declares no types"] else [])
    ++ (manifest.enums.filter (·.members.isEmpty)).map
      (fun entry => "enum '" ++ entry.name ++ "' has no members")
    ++ (manifest.interfaces.filter fun entry => entry.name.toList.head? != some 'I').map
      (fun entry =>
        "interface '" ++ entry.name ++ "' does not follow the 'I' prefix convention")

/-- The lines that say that a manifest is sound. They stand clear of the warnings before them. -/
def sound (manifest : Manifest) (path : String) : List String :=
  (if (warnings manifest).isEmpty then [] else [""])
    ++ ["✓ " ++ path ++ " is valid", "",
      keyValue "classes" (toString manifest.classes.length),
      keyValue "interfaces" (toString manifest.interfaces.length),
      keyValue "enums" (toString manifest.enums.length)]

/-- Numbers are positional and whole ones have no point. -/
def floatFormat : FloatFormat where
  positional _ := true
  pointZero := false
  plusSign := false
  tie := .up
  infinity := "inf"
  negativeInfinity := "-inf"
  nan := "NaN"

mutual

/-- A value of a type as it is shown. Strings are quoted; a text of any other type stands for
itself. -/
def valueText (typeName : Option String) : ConstantValue → String
  | .null => "null"
  | .bool true => "true"
  | .bool false => "false"
  | .char value => Text.displayChar value
  | .int value => toString value
  | .uint value => toString value
  | .float value => floatFormat.write value
  | .string text => if typeName = some "string" then Text.displayString text else text
  | .type name => "typeof(" ++ name ++ ")"
  | .enum member => typeName.getD "" ++ "." ++ member
  | .array items => "\x7b" ++ Text.commaSeparated (constantTexts items) ++ "\x7d"

/-- Constants as they are shown. -/
def constantTexts : List Constant → List String
  | [] => []
  | .mk _ typeName value :: rest => valueText typeName value :: constantTexts rest

end

/-- A constant as it is shown. -/
def constantText (c : Constant) : String :=
  valueText c.typeName c.value

/-- An attribute as it is shown. -/
def attributeText (data : AttributeData) : String :=
  let arguments := data.positional.map constantText
    ++ data.named.map fun (name, value) => name ++ " = " ++ constantText value
  if arguments.isEmpty then data.className
  else data.className ++ "(" ++ Text.commaSeparated arguments ++ ")"

/-- Attributes as they are shown. -/
def attributeTexts (attributes : List AttributeData) : String :=
  Text.joined " " (attributes.map fun data => "[" ++ attributeText data ++ "]")

def flag (word : String) (holds : Bool) : List String :=
  if holds then [word] else []

def flags : MemberSymbol → List String
  | .field s =>
    flag "const" s.isConst ++ flag "static" (s.isStatic && !s.isConst)
      ++ flag "primitive" s.type.isPrimitive
  | .property s =>
    flag "static" s.isStatic ++ flag "read-only" s.isReadOnly
      ++ flag "primitive" s.type.isPrimitive
  | .method s => flag "static" s.isStatic
  | .event s => flag "static" s.isStatic

/-- The name and the type of a member. -/
def signature : MemberSymbol → String
  | .field s => "field " ++ s.name ++ ": " ++ s.type.display
  | .property s => "property " ++ s.name ++ ": " ++ s.type.display
  | .method s =>
    "method " ++ s.name ++ "("
      ++ Text.commaSeparated (s.parameters.map fun p => p.type.display ++ " " ++ p.name)
      ++ "): " ++ s.returns.display
  | .event s => "event " ++ s.name ++ ": " ++ s.type.display

/-- The line of a member. -/
def memberLine (member : MemberSymbol) : String :=
  let notes := flags member
  signature member
    ++ (if notes.isEmpty then "" else " (" ++ Text.commaSeparated notes ++ ")")
    ++ (if member.attributes.isEmpty then "" else " " ++ attributeTexts member.attributes)

/-- The word for a kind of type in a heading. -/
def kindHeading : TypeKind → String
  | .unresolved => "type"
  | kind => kind.word

/-- How many members of each kind a type has. -/
def memberCounts (type : TypeSymbol) : String :=
  toString type.fields.length ++ " fields, " ++ toString type.properties.length
    ++ " properties, " ++ toString type.methods.length ++ " methods, "
    ++ toString type.events.length ++ " events"

def typeLines (type : TypeSymbol) : List String :=
  [kindHeading type.kind ++ " " ++ type.display ++ ":"]
    ++ (if type.attributes.isEmpty then []
      else [keyValue "attributes" (attributeTexts type.attributes)])
    ++ [keyValue "members" (memberCounts type)]
    ++ type.members.map fun member => "  - " ++ memberLine member

/-- The lines of types, with an empty line between two of them. -/
def inspected : List TypeSymbol → List String
  | [] => []
  | [type] => typeLines type
  | type :: next :: rest => typeLines type ++ "" :: inspected (next :: rest)

def inspectedJson (types : List TypeSymbol) : String :=
  (Json.array (types.map TypeSymbol.toJson)).pretty

end DeclScribe.Report
