/-!
# The words of the language

Three vocabularies of C#: the reserved keywords, which are no identifiers unless marked with `@`;
the predefined types; and the modifiers of declarations. A word belongs to a vocabulary exactly as
it is spelled, in lower case.
-/

set_option autoImplicit false

namespace DeclScribe

/-- The words that cannot be used as identifiers. -/
def reservedWords : List String :=
  ["abstract", "as", "base", "bool", "break", "byte", "case", "catch", "char", "checked",
   "class", "const", "continue", "decimal", "default", "delegate", "do", "double", "else",
   "enum", "event", "explicit", "extern", "false", "finally", "fixed", "float", "for",
   "foreach", "goto", "if", "implicit", "in", "int", "interface", "internal", "is", "lock",
   "long", "namespace", "new", "null", "object", "operator", "out", "override", "params",
   "private", "protected", "public", "readonly", "ref", "return", "sbyte", "sealed", "short",
   "sizeof", "stackalloc", "static", "string", "struct", "switch", "this", "throw", "true",
   "try", "typeof", "uint", "ulong", "unchecked", "unsafe", "ushort", "using", "virtual",
   "void", "volatile", "while"]

def isReserved (word : String) : Bool :=
  reservedWords.contains word

/-- The types that have a keyword of their own. -/
inductive Predefined where
  | bool | byte | sbyte | short | ushort | int | uint | long | ulong
  | float | double | decimal | char | string | object | void
deriving Repr, DecidableEq, Inhabited

namespace Predefined

def all : List Predefined :=
  [.bool, .byte, .sbyte, .short, .ushort, .int, .uint, .long, .ulong,
   .float, .double, .decimal, .char, .string, .object, .void]

def word : Predefined → String
  | .bool => "bool"
  | .byte => "byte"
  | .sbyte => "sbyte"
  | .short => "short"
  | .ushort => "ushort"
  | .int => "int"
  | .uint => "uint"
  | .long => "long"
  | .ulong => "ulong"
  | .float => "float"
  | .double => "double"
  | .decimal => "decimal"
  | .char => "char"
  | .string => "string"
  | .object => "object"
  | .void => "void"

def ofWord? (word : String) : Option Predefined :=
  all.find? fun type => type.word == word

theorem mem_all (type : Predefined) : type ∈ all := by
  cases type <;> decide

end Predefined

/-- The modifiers that can stand before a declaration. -/
inductive Modifier where
  | publicMod | privateMod | protectedMod | internalMod | fileMod | staticMod | externMod | newMod
  | virtualMod | abstractMod | sealedMod | overrideMod | readonlyMod | unsafeMod | requiredMod
  | volatileMod | asyncMod | constMod | partialMod | refMod
deriving Repr, DecidableEq, Inhabited

namespace Modifier

/-- Every modifier, in the order in which modifiers are listed. -/
def all : List Modifier :=
  [.publicMod, .privateMod, .protectedMod, .internalMod, .fileMod, .staticMod, .externMod,
   .newMod, .virtualMod, .abstractMod, .sealedMod, .overrideMod, .readonlyMod, .unsafeMod,
   .requiredMod, .volatileMod, .asyncMod, .constMod, .partialMod, .refMod]

def word : Modifier → String
  | .publicMod => "public"
  | .privateMod => "private"
  | .protectedMod => "protected"
  | .internalMod => "internal"
  | .fileMod => "file"
  | .staticMod => "static"
  | .externMod => "extern"
  | .newMod => "new"
  | .virtualMod => "virtual"
  | .abstractMod => "abstract"
  | .sealedMod => "sealed"
  | .overrideMod => "override"
  | .readonlyMod => "readonly"
  | .unsafeMod => "unsafe"
  | .requiredMod => "required"
  | .volatileMod => "volatile"
  | .asyncMod => "async"
  | .constMod => "const"
  | .partialMod => "partial"
  | .refMod => "ref"

def ofWord? (word : String) : Option Modifier :=
  all.find? fun modifier => modifier.word == word

/-- What is said of a word that names no modifier. -/
def unknownMessage (word : String) : String :=
  "'" ++ word ++ "' is not a modifier keyword"

theorem mem_all (modifier : Modifier) : modifier ∈ all := by
  cases modifier <;> decide

/-- Modifiers as they stand before a declaration: each word with a space behind it. -/
def lead (modifiers : List Modifier) : String :=
  String.join (modifiers.map fun modifier => modifier.word ++ " ")

end Modifier

end DeclScribe
