import DeclScribe.Fragment
import DeclScribe.Manifest.Diagnostic
import DeclScribe.Text.Format

/-!
# Where in a manifest something is checked

A scope is the text of a document and the names of the declarations around the part that is being
checked. Problems found in a scope say those names, and their places are looked for behind the
innermost name first, because the entries of a declaration follow its name.
-/

set_option autoImplicit false

namespace DeclScribe.Manifest

/-- A document and the names of declarations, outermost first. -/
structure Scope where
  source : List Char
  filename : String
  path : List String := []
deriving Repr, DecidableEq, Inhabited

namespace Scope

def ofSource (source filename : String) : Scope :=
  { source := source.toList, filename }

def push (scope : Scope) (name : String) : Scope :=
  { scope with path := scope.path ++ [name] }

/-- The names of the scope with points between them. -/
def pathText (scope : Scope) : String :=
  Text.joined "." scope.path

/-- What a part is called, with the scope it is in. -/
def describe (scope : Scope) (what : String) : String :=
  if scope.path.isEmpty then what else what ++ " in '" ++ scope.pathText ++ "'"

/-- Where the innermost declaration of the scope has its name. -/
def anchor (scope : Scope) : Nat :=
  match scope.path.getLast? with
  | none => 0
  | some name =>
    match Span.value? scope.source name.toList 0 with
    | some span => span.offset
    | none => 0

/-- The place of a value, in the scope if possible. -/
def valueSpan? (scope : Scope) (value : String) : Option Span :=
  Span.value? scope.source value.toList scope.anchor

/-- The place of a key in the scope. -/
def keySpan? (scope : Scope) (key : String) : Option Span :=
  Span.key? scope.source key.toList scope.anchor

/-- A broken rule at the last place of a name between quotes. -/
def duplicate (scope : Scope) (names : NameScope) (name : String) : Diagnostic :=
  ⟨.violation (.duplicate names name), Span.lastValue? scope.source name.toList⟩

/-- A part that a kind of declaration cannot carry, at the place of its key. -/
def shapeMismatch (scope : Scope) (kind : DeclarationKind) (name feature key : String) :
    Diagnostic :=
  let span := match scope.keySpan? key with
    | some span => some span
    | none => scope.valueSpan? key
  ⟨.shapeMismatch kind name feature, span⟩

/-- Why a text is no identifier. One `@` in front marks a verbatim identifier and does not count. -/
def identifierFault? (name : String) : Option IdentifierFault :=
  let bare := match name.toList with
    | '@' :: rest => rest
    | text => text
  match bare with
  | [] => some .empty
  | c :: rest =>
    if !isIdentifierStart c then some .badStart
    else if rest.all isIdentifierPart then none
    else some .badPart

/-- Checks that a name is an identifier that is not reserved. -/
def checkName (scope : Scope) (name what : String) : Except Diagnostic Unit :=
  if isReserved name then
    .error ⟨.reservedKeyword name (scope.describe what), scope.valueSpan? name⟩
  else
    match identifierFault? name with
    | some fault =>
      .error ⟨.invalidIdentifier name (scope.describe what) fault, scope.valueSpan? name⟩
    | none => .ok ()

def checkModifiers (scope : Scope) (what : String) : List String → Except Diagnostic Unit
  | [] => .ok ()
  | word :: rest =>
    match Modifier.ofWord? word with
    | some _ => scope.checkModifiers what rest
    | none => .error ⟨.unknownModifier word (scope.describe what), scope.valueSpan? word⟩

def parse {α : Type} (scope : Scope) (parser : String → Except ParseError α)
    (text what : String) : Except Diagnostic α :=
  match parser text with
  | .ok value => .ok value
  | .error e => .error ⟨.invalidFragment text (scope.describe what) e, scope.valueSpan? text⟩

def checkFragment {α : Type} (scope : Scope) (parser : String → Except ParseError α)
    (what text : String) : Except Diagnostic Unit :=
  (scope.parse parser text what).map fun _ => ()

/-- Checks that a fragment parses, if there is one. -/
def checkOptional {α : Type} (scope : Scope) (parser : String → Except ParseError α)
    (what : String) : Option String → Except Diagnostic Unit
  | some text => scope.checkFragment parser what text
  | none => .ok ()

/-- Checks that a name is not among the names seen before it. -/
def checkUnique (scope : Scope) (names : NameScope) (seen : List String) (name : String) :
    Except Diagnostic Unit :=
  if seen.contains name then .error (scope.duplicate names name) else .ok ()

end Scope

/-- Runs a check on every item of a list, and fails at the first one that fails. -/
def checkAll {α : Type} (check : α → Except Diagnostic Unit) :
    List α → Except Diagnostic Unit
  | [] => .ok ()
  | item :: rest =>
    match check item with
    | .error e => .error e
    | .ok () => checkAll check rest

/-- Runs a check on every item of a list together with the names of the items before it, and fails
at the first one that fails. -/
def checkEach {α : Type} (name : α → String)
    (check : List String → α → Except Diagnostic Unit) :
    List String → List α → Except Diagnostic Unit
  | _, [] => .ok ()
  | seen, item :: rest =>
    match check seen item with
    | .error e => .error e
    | .ok () => checkEach name check (seen ++ [name item]) rest

end DeclScribe.Manifest
