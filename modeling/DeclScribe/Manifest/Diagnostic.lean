import DeclScribe.Declaration.Basic
import DeclScribe.Manifest.Span

/-!
# What is wrong with a manifest

A diagnostic is a problem and the place in the document that it is about. Problems are causes; their
message, code, advice and label are functions of the cause.
-/

set_option autoImplicit false

namespace DeclScribe.Manifest

/-- Where names must differ from each other. -/
inductive NameScope where
  | type | member | enumMember | parameter
deriving Repr, DecidableEq, Inhabited

/-- What a name of a scope is called. -/
def NameScope.describe : NameScope → String
  | .type => "type"
  | .member => "member"
  | .enumMember => "enum member"
  | .parameter => "parameter"

/-- What is wrong with the accessors of a property. -/
inductive AccessorFault where
  | unknown (word : String)
  | noGet
  | setAndInit
  | duplicate
deriving Repr, DecidableEq, Inhabited

/-- What is said of the accessors of a property. -/
def AccessorFault.describe : AccessorFault → String
  | .unknown word => "unknown accessor '" ++ word ++ "'"
  | .noGet => "auto-properties need a 'get' accessor"
  | .setAndInit => "a property cannot have both 'set' and 'init'"
  | .duplicate => "duplicate accessor"

/-- Rules about how the parts of a manifest fit together that it can break. -/
inductive Violation where
  /-- An argument has neither a value nor a name. -/
  | namelessNull (attributeName : String)
  /-- An argument's value is of a kind that no literal has. -/
  | unsuitableValue (attributeName kind : String)
  /-- Two names of a scope are the same. -/
  | duplicate (scope : NameScope) (name : String)
  /-- The underlying type of an enum is no integer type. -/
  | notIntegral (enumName type : String)
  /-- The value of an enum member is outside its type. -/
  | outOfRange (value : Int) (member type : String)
  /-- The accessors of a property do not fit together. -/
  | accessors (fault : AccessorFault) (place : String)
  /-- A rule in words of its own. -/
  | stated (message : String)
deriving Repr, DecidableEq, Inhabited

/-- What is said of a broken rule. -/
def Violation.message : Violation → String
  | .namelessNull name => "null argument of '" ++ name ++ "' needs a name"
  | .unsuitableValue name kind =>
    "argument of '" ++ name ++ "' must be a string, number or boolean, found " ++ kind
  | .duplicate scope name => "duplicate " ++ scope.describe ++ " '" ++ name ++ "'"
  | .notIntegral name type =>
    "underlying type of enum '" ++ name ++ "' must be an integral type, found '" ++ type ++ "'"
  | .outOfRange value member type =>
    "value " ++ toString value ++ " of enum member '" ++ member ++ "' is out of range for '"
      ++ type ++ "'"
  | .accessors fault place => fault.describe ++ " on " ++ place
  | .stated message => message

/-- Why a name is no identifier. -/
inductive IdentifierFault where
  | badStart | empty | badPart
deriving Repr, DecidableEq, Inhabited

/-- What is said of a name that is no identifier. -/
def IdentifierFault.describe : IdentifierFault → String
  | .badStart => "name must start with a letter or underscore"
  | .empty => "name cannot be empty"
  | .badPart => "name must contain only letters, digits, and underscores"

/-- What can be wrong with a manifest. `place` says what the offending text is and where it is. -/
inductive Problem where
  /-- A rule of manifests is broken. -/
  | violation (rule : Violation)
  /-- A name is a reserved word. -/
  | reservedKeyword (name place : String)
  /-- A name is no identifier. -/
  | invalidIdentifier (name place : String) (fault : IdentifierFault)
  /-- A modifier is unknown. -/
  | unknownModifier (word place : String)
  /-- A fragment does not parse. -/
  | invalidFragment (text place : String) (error : ParseError)
  /-- A declaration has a part that its kind cannot carry. -/
  | shapeMismatch (kind : DeclarationKind) (name feature : String)
deriving Repr, DecidableEq, Inhabited

namespace Problem

/-- What is said of a problem. -/
def message : Problem → String
  | .violation rule => rule.message
  | .reservedKeyword name place => "'" ++ name ++ "' is a C# reserved keyword (" ++ place ++ ")"
  | .invalidIdentifier name place _ => "invalid " ++ place ++ ": '" ++ name ++ "'"
  | .unknownModifier word place => "unknown modifier '" ++ word ++ "' on " ++ place
  | .invalidFragment text place _ => "invalid " ++ place ++ ": '" ++ text ++ "'"
  | .shapeMismatch kind name feature =>
    kind.word ++ " '" ++ name ++ "' cannot carry " ++ feature

def code : Problem → String
  | .violation _ => "csdecl::validation_error"
  | .reservedKeyword .. => "csdecl::reserved_keyword"
  | .invalidIdentifier .. => "csdecl::invalid_identifier"
  | .unknownModifier .. => "csdecl::unknown_modifier"
  | .invalidFragment .. => "csdecl::invalid_syntax"
  | .shapeMismatch .. => "csdecl::shape_mismatch"

def help? : Problem → Option String
  | .violation _ => none
  | .reservedKeyword name _ =>
    some ("rename '" ++ name ++ "' or write it as the verbatim identifier '@" ++ name ++ "'")
  | .invalidIdentifier _ _ fault =>
    some (fault.describe ++ ". Use only letters, digits, and underscores, starting with a letter "
      ++ "or underscore.")
  | .unknownModifier .. =>
    some ("valid modifiers are: " ++ Text.commaSeparated (Modifier.all.map (·.word)))
  | .invalidFragment .. => none
  | .shapeMismatch .. => some "remove the key or move it to a declaration kind that supports it"

/-- What is said beside the place of a problem. -/
def label : Problem → String
  | .violation rule => rule.message
  | .reservedKeyword .. => "reserved keyword used here"
  | .invalidIdentifier .. => "invalid identifier"
  | .unknownModifier .. => "unknown modifier"
  | .invalidFragment _ _ error => error.message
  | .shapeMismatch kind _ _ => "not supported on " ++ kind.word

end Problem

/-- A problem and the place in the document that it is about, if there is one. -/
structure Diagnostic where
  problem : Problem
  span : Option Span
deriving Repr, DecidableEq, Inhabited

/-- What is said beside the place of a diagnostic that has one. -/
def Diagnostic.label? (diagnostic : Diagnostic) : Option String :=
  diagnostic.span.map fun _ => diagnostic.problem.label

end DeclScribe.Manifest
