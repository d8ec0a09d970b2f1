import DeclScribe.Command.Outcome

/-!
# The program

Reads the command line and the manifest, and carries out the answer: writes the file, shows the
lines, and ends with code 1 on failure and 2 on a usage error.
-/

set_option autoImplicit false

namespace DeclScribe.Program

/-- The text of a file, if it can be read. -/
def read? (path : String) : IO (Option String) :=
  try
    return some (← IO.FS.readFile path)
  catch _ =>
    return none

/-- Writes a file and says whether that went well. -/
def write (path text : String) : IO Bool :=
  try
    IO.FS.writeFile path text
    return true
  catch _ =>
    return false

/-- Shows why there is no answer. -/
def fail (failure : Failure) : IO UInt32 := do
  IO.eprintln ("error: " ++ failure.message)
  if failure.rootCause != failure.message then
    IO.eprintln ("  " ++ failure.rootCause)
  return 1

def display (answer : Answer) : IO UInt32 := do
  for warning in answer.warnings do
    IO.eprintln ("warning: " ++ warning)
  for line in answer.lines do
    IO.println line
  return 0

def run (command : Command) : IO UInt32 := do
  match command.answer (← read? command.config) with
  | .error failure => fail failure
  | .ok answer =>
    match answer.file with
    | none => display answer
    | some (path, text) =>
      if ← write path text then display answer else fail (.unwritable path)

end DeclScribe.Program

def main (arguments : List String) : IO UInt32 :=
  match DeclScribe.Invocation.parse arguments with
  | .error usage => do
    IO.eprintln ("error: " ++ usage.message)
    return 2
  | .ok .version => do
    IO.println DeclScribe.versionLine
    return 0
  | .ok (.run command) => DeclScribe.Program.run command
