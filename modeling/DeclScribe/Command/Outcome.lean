import DeclScribe.Command.Invocation
import DeclScribe.Manifest.Parse
import DeclScribe.Report

/-!
# What a command does

A command reads one document and answers with text, and `render` may write one file. Nothing is
shown unless everything went well; the warnings of `check` are kept apart from its answer.
-/

set_option autoImplicit false

namespace DeclScribe

/-- Why a command has no answer. -/
inductive Failure where
  /-- The manifest cannot be read from its file. -/
  | unreadable (path : String)
  /-- The text of the file is no valid manifest. -/
  | rejected (path : String) (reason : Manifest.ReadError)
  /-- The manifest has no declarations. -/
  | unlowered (what : String) (reason : Manifest.LowerError)
  /-- The manifest has no symbols. -/
  | unresolved (what : String) (reason : ParseError)
  /-- The source text cannot be written to its file. -/
  | unwritable (path : String)
deriving Repr, DecidableEq, Inhabited

namespace Failure

/-- What is said of a command without an answer. -/
def message : Failure → String
  | .unreadable path => "failed to read '" ++ path ++ "'"
  | .rejected _ reason => reason.message
  | .unlowered what _ => what
  | .unresolved what _ => what
  | .unwritable path => "Failed to write " ++ path

/-- What is said of the innermost cause. -/
def rootCause : Failure → String
  | .unlowered _ reason => reason.rootCause
  | .unresolved _ reason => reason.message
  | other => other.message

end Failure

/-- The answer of a command: the lines it shows, its warnings, and the path and text of the file it
writes. -/
structure Answer where
  lines : List String
  warnings : List String := []
  file : Option (String × String) := none
deriving Repr, DecidableEq, Inhabited

namespace Manifest

def source (manifest : Manifest) : Except LowerError String :=
  manifest.lower.map CompilationUnit.print

/-- Shows the source text of a manifest, or asks for it to be written. -/
def renderAnswer (manifest : Manifest) (output : Option String) : Except Failure Answer :=
  match manifest.source with
  | .error e => .error (.unlowered "Failed to build the compilation unit" e)
  | .ok source =>
    match output with
    | none => .ok { lines := Report.printed source }
    | some path =>
      .ok { lines := [Report.written manifest.typeCount path], file := some (path, source) }

/-- Says that a manifest is sound. -/
def checkAnswer (manifest : Manifest) (path : String) : Except Failure Answer :=
  match manifest.lower with
  | .error e => .error (.unlowered "Validation failed" e)
  | .ok _ => .ok { lines := Report.sound manifest path, warnings := Report.warnings manifest }

def inspectAnswer (manifest : Manifest) (json : Bool) : Except Failure Answer :=
  match manifest.symbols with
  | .error e => .error (.unresolved "Failed to collect declared symbols" e)
  | .ok types =>
    .ok { lines := if json then [Report.inspectedJson types] else Report.inspected types }

end Manifest

namespace Command

def config : Command → String
  | .render config _ => config
  | .check config => config
  | .inspect config _ => config

/-- The answer of a command, given the text of its file if that can be read. -/
def answer (command : Command) (text : Option String) : Except Failure Answer :=
  match text with
  | none => .error (.unreadable command.config)
  | some text =>
    match Manifest.parse text command.config with
    | .error e => .error (.rejected command.config e)
    | .ok manifest =>
      match command with
      | .render _ output => manifest.renderAnswer output
      | .check path => manifest.checkAnswer path
      | .inspect _ json => manifest.inspectAnswer json

end Command

/-- The name and the number of the program. -/
def versionLine : String := "csdecl 0.1.0"

end DeclScribe
