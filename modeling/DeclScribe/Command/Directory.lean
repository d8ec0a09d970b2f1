import DeclScribe.Command.Outcome

/-!
# Commands in a directory

A directory as the files in it, and what a command line does there. Paths are relative and walk from
directory to directory; a directory exists when a file lies in it.
-/

set_option autoImplicit false

namespace DeclScribe

/-- A directory: the paths of the files in it, as lists of names, with their texts. -/
structure Directory where
  files : List (List String × String) := []
deriving Repr, DecidableEq, Inhabited

namespace Directory

/-- The names of a path, which slashes separate. -/
def names (path : String) : List String :=
  go [] path.toList
where
  /-- Collects the name that is being read, reversed. -/
  go : List Char → List Char → List String
    | name, [] => [String.ofList name.reverse]
    | name, c :: rest =>
      if c = '/' then String.ofList name.reverse :: go [] rest else go (c :: name) rest

/-- Whether a path is that of a directory. -/
def isDirectory (directory : Directory) (path : List String) : Bool :=
  path.isEmpty || directory.files.any fun (file, _) =>
    path.length < file.length && path.isPrefixOf file

/-- The file that a walk from a directory leads to, whether it exists or not. Every name but the
last leads to a directory that exists, and none leads out of the outermost one. -/
def walk? (directory : Directory) : List String → List String → Option (List String)
  | _, [] => none
  | place, [name] =>
    if name = "" ∨ name = "." ∨ name = ".." then none else some (place ++ [name])
  | place, name :: next :: rest =>
    if name = "" ∨ name = "." then walk? directory place (next :: rest)
    else if name = ".." then
      if place.isEmpty then none else walk? directory place.dropLast (next :: rest)
    else if directory.isDirectory (place ++ [name]) then
      walk? directory (place ++ [name]) (next :: rest)
    else none

/-- The file that a path leads to. A path from the root of the system leads out. -/
def resolve? (directory : Directory) (path : String) : Option (List String) :=
  if path.toList.head? = some '/' then none else directory.walk? [] (names path)

/-- The directory that holds files under their paths. -/
def ofFiles (files : List (String × String)) : Directory :=
  ⟨files.map fun (path, text) => (names path, text)⟩

def read? (directory : Directory) (path : String) : Option String :=
  (directory.resolve? path).bind fun file => directory.files.lookup file

/-- Files with the text of one of them replaced, or with one more. -/
def put (path : List String) (text : String) :
    List (List String × String) → List (List String × String)
  | [] => [(path, text)]
  | (other, old) :: rest =>
    if other = path then (path, text) :: rest else (other, old) :: put path text rest

/-- The directory with a file written. -/
def write? (directory : Directory) (path text : String) : Option Directory :=
  match directory.resolve? path with
  | none => none
  | some file =>
    if directory.isDirectory file then none else some ⟨put file text directory.files⟩

/-- The files that are new or have another text than in an earlier directory. -/
def changedSince (directory before : Directory) : List (String × String) :=
  (directory.files.filter fun (path, text) => before.files.lookup path != some text).map
    fun (path, text) => ("/".intercalate path, text)

end Directory

/-- How a run of the program ends: its exit code, what it shows, its warnings and the directory it
leaves behind. -/
structure Outcome where
  exitCode : Nat
  shown : String := ""
  warned : String := ""
  directory : Directory

namespace Directory

/-- Runs a command. A file that cannot be written makes it fail. -/
def run (directory : Directory) (command : Command) : Except Failure (Answer × Directory) :=
  match command.answer (directory.read? command.config) with
  | .error e => .error e
  | .ok answer =>
    match answer.file with
    | none => .ok (answer, directory)
    | some (path, text) =>
      match directory.write? path text with
      | none => .error (.unwritable path)
      | some after => .ok (answer, after)

/-- Runs a command line. Usage errors end with code 2 and failures with code 1, and neither shows
anything. -/
def runArguments (directory : Directory) (arguments : List String) : Outcome :=
  match Invocation.parse arguments with
  | .error _ => { exitCode := 2, directory }
  | .ok .version => { exitCode := 0, shown := Report.unlines [versionLine], directory }
  | .ok (.run command) =>
    match directory.run command with
    | .error _ => { exitCode := 1, directory }
    | .ok (answer, after) =>
      { exitCode := 0
        shown := Report.unlines answer.lines
        warned := Report.unlines (answer.warnings.map ("warning: " ++ ·))
        directory := after }

end Directory

end DeclScribe
