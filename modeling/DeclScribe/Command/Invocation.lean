/-!
# The command line

A command is `render`, `check` or `inspect` with its options; an option takes its value from the
same argument or from the next one. An option that is unknown, repeated, without a value or with an
empty one is a usage error, and so is any argument that is not an option.
-/

set_option autoImplicit false

namespace DeclScribe

/-- What the program is asked to do. -/
inductive Command where
  /-- Show the source text of a manifest, or write it to a file. -/
  | render (config : String) (output : Option String)
  /-- Say whether a manifest is sound. -/
  | check (config : String)
  /-- Show the symbols of a manifest. -/
  | inspect (config : String) (json : Bool)
deriving Repr, DecidableEq, Inhabited

/-- What a command line asks for. -/
inductive Invocation where
  | version
  | run (command : Command)
deriving Repr, DecidableEq, Inhabited

inductive Subcommand where
  | render | check | inspect
deriving Repr, DecidableEq, Inhabited

inductive OptionName where
  | config | output | json
deriving Repr, DecidableEq, Inhabited

/-- What a command line cannot be. -/
inductive UsageError where
  /-- There is no command. -/
  | noCommand
  /-- The first argument is no command. -/
  | unknownCommand (argument : String)
  /-- An argument is neither a known option nor the value of one. -/
  | unexpectedArgument (argument : String)
  /-- An option lacks its value, or the value is empty. -/
  | missingValue (name : OptionName)
  /-- An option has a value that it does not take. -/
  | surplusValue (name : OptionName)
  /-- An option is given twice. -/
  | repeated (name : OptionName)
deriving Repr, DecidableEq, Inhabited

namespace OptionName

def long : OptionName → String
  | .config => "config"
  | .output => "output"
  | .json => "json"

def short? : OptionName → Option Char
  | .config => some 'c'
  | .output => some 'o'
  | .json => none

def takesValue : OptionName → Bool
  | .config => true
  | .output => true
  | .json => false

end OptionName

namespace UsageError

/-- What is said of a command line that cannot be. -/
def message : UsageError → String
  | .noCommand => "a command is required: render, check or inspect"
  | .unknownCommand argument => "unrecognized command '" ++ argument ++ "'"
  | .unexpectedArgument argument => "unexpected argument '" ++ argument ++ "'"
  | .missingValue name => "option '--" ++ name.long ++ "' needs a value"
  | .surplusValue name => "option '--" ++ name.long ++ "' takes no value"
  | .repeated name => "option '--" ++ name.long ++ "' is given twice"

end UsageError

namespace Subcommand

def ofWord? : String → Option Subcommand
  | "render" => some .render
  | "check" => some .check
  | "inspect" => some .inspect
  | _ => none

def options : Subcommand → List OptionName
  | .render => [.config, .output]
  | .check => [.config]
  | .inspect => [.config, .json]

end Subcommand

abbrev Settings := List (OptionName × String)

namespace Invocation

/-- An argument that starts with a hyphen, read as an option: the option and the text that came with
it as a value, if any did. -/
def option? (options : List OptionName) (argument : String) :
    Option (OptionName × Option String) :=
  match argument.toList with
  | '-' :: '-' :: text =>
    let name := String.ofList (text.takeWhile (· != '='))
    let value := match text.dropWhile (· != '=') with
      | [] => none
      | _ :: value => some (String.ofList value)
    (options.find? fun o => o.long == name).map fun o => (o, value)
  | '-' :: letter :: text =>
    let value := match text with
      | [] => none
      | '=' :: value => some (String.ofList value)
      | value => some (String.ofList value)
    (options.find? fun o => o.short? == some letter).map fun o => (o, value)
  | _ => none

/-- Whether an argument is no value of the option before it. A single hyphen is one. -/
def looksLikeOption (argument : String) : Bool :=
  match argument.toList with
  | '-' :: _ :: _ => true
  | _ => false

def add (settings : Settings) (name : OptionName) (value : String) :
    Except UsageError Settings :=
  if (settings.lookup name).isSome then .error (.repeated name)
  else if name.takesValue && value.isEmpty then .error (.missingValue name)
  else .ok (settings ++ [(name, value)])

/-- The options of a command line behind its command. Two hyphens alone end the options. -/
def settings (options : List OptionName) : Settings → List String → Except UsageError Settings
  | found, [] => .ok found
  | found, argument :: rest =>
    if argument = "--" then
      match rest with
      | [] => .ok found
      | extra :: _ => .error (.unexpectedArgument extra)
    else
      match option? options argument with
      | none => .error (.unexpectedArgument argument)
      | some (name, some value) =>
        if name.takesValue then
          match add found name value with
          | .error e => .error e
          | .ok next => settings options next rest
        else .error (.surplusValue name)
      | some (name, none) =>
        if name.takesValue then
          match rest with
          | [] => .error (.missingValue name)
          | value :: more =>
            if looksLikeOption value then .error (.missingValue name)
            else
              match add found name value with
              | .error e => .error e
              | .ok next => settings options next more
        else
          match add found name "" with
          | .error e => .error e
          | .ok next => settings options next rest

/-- The file that a manifest is read from if none is named. -/
def defaultConfig : String := "csdecl.toml"

def command (subcommand : Subcommand) (found : Settings) : Command :=
  let config := (found.lookup .config).getD defaultConfig
  match subcommand with
  | .render => .render config (found.lookup .output)
  | .check => .check config
  | .inspect => .inspect config (found.lookup .json).isSome

/-- Whether an argument before the command asks for the version. -/
def asksVersion (argument : String) : Bool :=
  argument == "--version" || (argument.toList.take 2) == ['-', 'V']

/-- What a command line asks for. -/
def parse : List String → Except UsageError Invocation
  | [] => .error .noCommand
  | first :: rest =>
    if asksVersion first then .ok .version
    else
      match Subcommand.ofWord? first with
      | none => .error (.unknownCommand first)
      | some subcommand =>
        match settings subcommand.options [] rest with
        | .error e => .error e
        | .ok found => .ok (.run (command subcommand found))

end Invocation

end DeclScribe
