import DeclScribe.Toml.Value

/-!
# Tables in the making

A document builds its tables piece by piece, and whether a table can still be added to depends on
how it came about. A table that a header names is opened once; one that only stood on the way to
another may be opened later; one that a dotted key made is open to dotted keys only; and one that
was written as a value is closed.
-/

set_option autoImplicit false

namespace DeclScribe.Toml

/-- How a table came about. -/
inductive Origin where
  /-- By a header of its own. -/
  | header
  /-- On the way to the table of a header. -/
  | implicit
  /-- On the way to the value of a dotted key. -/
  | dotted
deriving Repr, DecidableEq, Inhabited

/-- What a key stands for while the document is read. -/
inductive Node where
  /-- A finished value. -/
  | value (value : Value)
  /-- A table that may still grow. -/
  | table (origin : Origin) (entries : List (String × Node))
  /-- Tables under one header, the last of which may still grow. -/
  | tables (earlier : List Value) (last : List (String × Node))
deriving Inhabited

abbrev Entries := List (String × Node)

mutual

/-- The value of a node when nothing more comes. -/
def Node.finish : Node → Value
  | .value finished => finished
  | .table _ entries => .table (Value.sortEntries (Node.finishEntries entries))
  | .tables earlier last =>
    .array (earlier ++ [.table (Value.sortEntries (Node.finishEntries last))])

/-- The values of entries when nothing more comes. -/
def Node.finishEntries : List (String × Node) → List (String × Value)
  | [] => []
  | (key, node) :: rest => (key, node.finish) :: Node.finishEntries rest

end

namespace Entries

/-- The table that the entries are when nothing more comes. -/
def finish (entries : Entries) : Value :=
  (Node.table .header entries).finish

/-- The entries with the value of a key replaced, or with a new key at the end. -/
def put (key : String) (node : Node) : Entries → Entries
  | [] => [(key, node)]
  | (other, old) :: rest =>
    if other = key then (key, node) :: rest else (other, old) :: put key node rest

/-- A change to the table at the end of a path: it gets the origin and the entries of that table and
gives the new ones, unless it is refused. -/
abbrev Change := Origin → Entries → Option (Origin × Entries)

/-- Applies a change to the table at the end of a path. Missing tables on the way are made; under
the header of several tables the way leads into the last one. A dotted key does not lead through a
table that has a header of its own. -/
def change (byDots : Bool) : List String → Change → Change
  | [], edit, origin, entries => edit origin entries
  | key :: path, edit, origin, entries =>
    match entries.lookup key with
    | none => do
      let (made, inner) ← change byDots path edit (if byDots then .dotted else .implicit) []
      return (origin, put key (.table made inner) entries)
    | some (.value _) => none
    | some (.table found inner) =>
      if byDots && found == .header then none
      else do
        let (kept, grown) ← change byDots path edit found inner
        return (origin, put key (.table kept grown) entries)
    | some (.tables earlier last) => do
      let (_, grown) ← change byDots path edit .header last
      return (origin, put key (.tables earlier grown) entries)

/-- Adds a value under a key that is not there yet. A dotted key adds only to a table that dotted
keys made, and a plain key never to one. -/
def addValue (plain : Bool) (key : String) (value : Value) : Change := fun origin entries =>
  if (origin == .dotted) == plain then none
  else
    match entries.lookup key with
    | some _ => none
    | none => some (origin, entries ++ [(key, .value value)])

/-- Opens the table of a header, which is new or was only passed through so far. -/
def openTable (key : String) : Change := fun origin entries =>
  match entries.lookup key with
  | none => some (origin, entries ++ [(key, .table .header [])])
  | some (.table .implicit inner) => some (origin, put key (.table .header inner) entries)
  | some _ => none

/-- Opens one more table under the header of several. -/
def openAnother (key : String) : Change := fun origin entries =>
  match entries.lookup key with
  | none => some (origin, entries ++ [(key, .tables [] [])])
  | some (.tables earlier last) =>
    some (origin, put key (.tables (earlier ++ [finish last]) []) entries)
  | some _ => none

/-- A path without its last key, and that key. -/
def splitLast : List String → Option (List String × String)
  | [] => none
  | [key] => some ([], key)
  | key :: next :: rest => (splitLast (next :: rest)).map fun (path, last) => (key :: path, last)

/-- Adds the value of a possibly dotted key to a table. -/
def addEntry (path : List String) (value : Value) : Change := fun origin entries =>
  match splitLast path with
  | none => none
  | some (before, key) => change true before (addValue before.isEmpty key value) origin entries

end Entries

end DeclScribe.Toml
