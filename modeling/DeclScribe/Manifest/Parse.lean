import DeclScribe.Manifest.Document
import DeclScribe.Manifest.Validation

/-!
# Reading a valid manifest

A text is a manifest when it is a TOML document of the right shape and the manifest in it is valid.
-/

set_option autoImplicit false

namespace DeclScribe.Manifest

/-- Why a text is no manifest. -/
inductive ReadError where
  /-- It is no document, or not one of the right shape. -/
  | unreadable
  /-- The manifest in it is not valid. -/
  | invalid (diagnostic : Diagnostic)
deriving Repr, DecidableEq, Inhabited

/-- What is said of a text that is no manifest. -/
def ReadError.message : ReadError → String
  | .unreadable => "failed to parse csdecl.toml"
  | .invalid diagnostic => diagnostic.problem.message

/-- The valid manifest that a text is. Problems are reported against the name of its file. -/
def parse (text filename : String) : Except ReadError Manifest :=
  match ofToml? text with
  | none => .error .unreadable
  | some manifest =>
    match manifest.validate (Scope.ofSource text filename) with
    | .error diagnostic => .error (.invalid diagnostic)
    | .ok () => .ok manifest

end DeclScribe.Manifest
