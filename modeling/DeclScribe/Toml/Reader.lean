import DeclScribe.Toml.Scalar
import DeclScribe.Toml.Text
import DeclScribe.Toml.Tree

/-!
# Reading TOML documents

A document is a list of lines, each of which is blank, opens a table or gives a key its value.
Arrays and inline tables may run over several lines and nest at most eighty deep. The result is the
table at the root with the keys of every table in ascending order, or nothing if the text is no
document.
-/

set_option autoImplicit false

namespace DeclScribe.Toml

/-- How deep arrays and inline tables nest at most. -/
def maxDepth : Nat := 80

mutual

/-- A value inside `depth` others. Each step of the reading uses up one unit of fuel. -/
def value? (fuel depth : Nat) (text : List Char) : Option (Value × List Char) :=
  match fuel with
  | 0 => none
  | fuel + 1 =>
    match text with
    | [] => none
    | c :: rest =>
      if c = '"' ∨ c = '\'' then
        (string? text).map fun (body, behind) => (.string (String.ofList body), behind)
      else if c = '[' then
        if depth < maxDepth then
          (items? fuel (depth + 1) (skipBlank rest)).map fun (items, behind) =>
            (.array items, behind)
        else none
      else if c = '\x7b' then
        if depth < maxDepth then
          (pairs? fuel (depth + 1) [] (skipBlank rest)).map fun (entries, behind) =>
            (Entries.finish entries, behind)
        else none
      else
        let word := Scalar.cut text
        (Scalar.value? word).map fun value => (value, text.drop word.length)

/-- The items of an array up to its closing bracket. -/
def items? (fuel depth : Nat) (text : List Char) : Option (List Value × List Char) :=
  match fuel with
  | 0 => none
  | fuel + 1 =>
    match text with
    | ']' :: rest => some ([], rest)
    | _ => do
      let (item, behind) ← value? fuel depth text
      match skipBlank behind with
      | ',' :: rest =>
        let (more, final) ← items? fuel depth (skipBlank rest)
        return (item :: more, final)
      | ']' :: rest => return ([item], rest)
      | _ => none

/-- The entries of an inline table up to its closing brace, added to those before them. -/
def pairs? (fuel depth : Nat) (entries : Entries) (text : List Char) :
    Option (Entries × List Char) :=
  match fuel with
  | 0 => none
  | fuel + 1 =>
    match text with
    | '\x7d' :: rest => some (entries, rest)
    | _ => do
      let (path, behind) ← key? text
      let behind ← Scalar.behind? '=' (skipSpaces behind)
      let (value, behind) ← value? fuel depth (skipSpaces behind)
      let (_, grown) ← Entries.addEntry path value .header entries
      match skipBlank behind with
      | ',' :: rest => pairs? fuel depth grown (skipBlank rest)
      | '\x7d' :: rest => return (grown, rest)
      | _ => none

end

/-- What a line of a document says. -/
inductive Statement where
  /-- Opens a table. -/
  | table (path : List String)
  /-- Opens one more table of several. -/
  | another (path : List String)
  /-- Gives a key of the open table its value. -/
  | entry (path : List String) (value : Value)
deriving Inhabited

/-- A statement at the front of a text. -/
def statement? (text : List Char) : Option (Statement × List Char) :=
  match text with
  | '[' :: '[' :: rest => do
    let (path, behind) ← key? (skipSpaces rest)
    let behind ← Scalar.behind? ']' (skipSpaces behind)
    let behind ← Scalar.behind? ']' behind
    return (.another path, behind)
  | '[' :: rest => do
    let (path, behind) ← key? (skipSpaces rest)
    let behind ← Scalar.behind? ']' (skipSpaces behind)
    return (.table path, behind)
  | _ => do
    let (path, behind) ← key? text
    let behind ← Scalar.behind? '=' (skipSpaces behind)
    let behind := skipSpaces behind
    let (value, behind) ← value? (behind.length + 1) 0 behind
    return (.entry path value, behind)

/-- The statements of a document, at most `fuel` of them. -/
def statements? : Nat → List Char → Option (List Statement)
  | 0, _ => none
  | fuel + 1, text =>
    match skipBlank text with
    | [] => some []
    | rest => do
      let (statement, behind) ← statement? rest
      let next ← lineEnd? behind
      let more ← statements? fuel next
      return statement :: more

/-- A document so far: the root table and the path of the open table. -/
structure Document where
  root : Entries := []
  current : List String := []
deriving Inhabited

namespace Document

def changed? (doc : Document) (current : List String) (change : Entries.Change) :
    Option Document :=
  (change .header doc.root).map fun (_, root) => { root, current }

def run? (doc : Document) : Statement → Option Document
  | .table path => do
    let (before, key) ← Entries.splitLast path
    doc.changed? path (Entries.change false before (Entries.openTable key))
  | .another path => do
    let (before, key) ← Entries.splitLast path
    doc.changed? path (Entries.change false before (Entries.openAnother key))
  | .entry path value =>
    doc.changed? doc.current (Entries.change false doc.current (Entries.addEntry path value))

def runAll? (doc : Document) : List Statement → Option Document
  | [] => some doc
  | statement :: rest => (doc.run? statement).bind fun next => next.runAll? rest

end Document

/-- Text without a byte order mark at its front. -/
def dropMark : List Char → List Char
  | '\ufeff' :: rest => rest
  | text => text

def parse? (text : String) : Option Value :=
  let text := dropMark text.toList
  match statements? (text.length + 1) text with
  | none => none
  | some statements =>
    ((Document.runAll? {} statements).map fun doc => Entries.finish doc.root)

end DeclScribe.Toml
