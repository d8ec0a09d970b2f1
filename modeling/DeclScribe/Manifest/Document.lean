import DeclScribe.Json
import DeclScribe.Manifest.Basic
import DeclScribe.Toml.Reader

/-!
# Manifests as documents

A manifest is read from a document: a tree of tables, arrays and plain values, as TOML has them, and
null, which JSON has. A table that stands for an entry has known keys only. A key that
must be there is required, one that has a default may be left out but not be null, and one that is
optional may be either. An array can stand for an entry too: its items are then the values of the
keys in their order, and only keys with a default may be missing at its end.
-/

set_option autoImplicit false

namespace DeclScribe.Manifest

inductive Datum where
  | null
  | string (text : String)
  | integer (value : Int)
  | float (value : Binary64)
  | boolean (value : Bool)
  | datetime (text : String)
  | array (items : List Datum)
  | table (entries : List (String × Datum))
deriving Repr, Inhabited

namespace Datum

mutual

/-- A TOML value as a value of a document. -/
def ofToml : Toml.Value → Datum
  | .string text => .string text
  | .integer value => .integer value
  | .float value => .float value
  | .boolean value => .boolean value
  | .datetime text => .datetime text
  | .array items => .array (ofTomlItems items)
  | .table entries => .table (ofTomlEntries entries)

/-- The items of a TOML array as values of a document. -/
def ofTomlItems : List Toml.Value → List Datum
  | [] => []
  | item :: rest => ofToml item :: ofTomlItems rest

/-- The entries of a TOML table as values of a document. -/
def ofTomlEntries : List (String × Toml.Value) → List (String × Datum)
  | [] => []
  | (key, value) :: rest => (key, ofToml value) :: ofTomlEntries rest

end

mutual

/-- A JSON value as a value of a document. -/
def ofJson : Json → Datum
  | .null => .null
  | .bool value => .boolean value
  | .int value => .integer value
  | .float value => .float value
  | .string text => .string text
  | .array items => .array (ofJsonItems items)
  | .object fields => .table (ofJsonFields fields)

/-- The items of a JSON array as values of a document. -/
def ofJsonItems : List Json → List Datum
  | [] => []
  | item :: rest => ofJson item :: ofJsonItems rest

/-- The fields of a JSON object as values of a document. -/
def ofJsonFields : List (String × Json) → List (String × Datum)
  | [] => []
  | (key, value) :: rest => (key, ofJson value) :: ofJsonFields rest

end

mutual

/-- The TOML value that a value of a document is, if it holds no null and every integer fits. -/
def toToml? : Datum → Option Toml.Value
  | .null => none
  | .string text => some (.string text)
  | .integer value => if Toml.Scalar.fits value then some (.integer value) else none
  | .float value => some (.float value)
  | .boolean value => some (.boolean value)
  | .datetime text => some (.datetime text)
  | .array items => (toTomlItems? items).map .array
  | .table entries => (toTomlEntries? entries).map fun found =>
    .table (Toml.Value.sortEntries found)

/-- The items as TOML values, if every one of them is one. -/
def toTomlItems? : List Datum → Option (List Toml.Value)
  | [] => some []
  | item :: rest =>
    match toToml? item, toTomlItems? rest with
    | some value, some values => some (value :: values)
    | _, _ => none

/-- The entries as TOML values, if every one of them is one. -/
def toTomlEntries? : List (String × Datum) → Option (List (String × Toml.Value))
  | [] => some []
  | (key, item) :: rest =>
    match toToml? item, toTomlEntries? rest with
    | some value, some values => some ((key, value) :: values)
    | _, _ => none

end

def string? : Datum → Option String
  | .string text => some text
  | _ => none

def boolean? : Datum → Option Bool
  | .boolean value => some value
  | _ => none

/-- The 64-bit integer that a value is. -/
def integer? : Datum → Option Int
  | .integer value => if Toml.Scalar.fits value then some value else none
  | _ => none

/-- Every value of a list read by a reader, if each of them can be. -/
def readAll {α : Type} (read : Datum → Option α) : List Datum → Option (List α)
  | [] => some []
  | item :: rest =>
    match read item, readAll read rest with
    | some value, some values => some (value :: values)
    | _, _ => none

/-- The list that a value is, its items read by a reader. -/
def list? {α : Type} (read : Datum → Option α) : Datum → Option (List α)
  | .array items => readAll read items
  | _ => none

end Datum

structure Strictness where
  /-- Whether items behind the last key of an entry written as an array are an error. -/
  refuseSurplus : Bool
deriving Repr, DecidableEq, Inhabited

/-- The values of an entry by key, and whether they came in order and not by key. -/
structure Record where
  values : List (String × Datum)
  inOrder : Bool

namespace Record

/-- The entry that a value is, with these keys. -/
def read? (strictness : Strictness) (keys : List String) : Datum → Option Record
  | .table entries =>
    if entries.all fun (key, _) => keys.contains key then some ⟨entries, false⟩ else none
  | .array items =>
    if strictness.refuseSurplus && keys.length < items.length then none
    else some ⟨keys.zip items, true⟩
  | _ => none

def required {α : Type} (record : Record) (key : String) (read : Datum → Option α) :
    Option α :=
  (record.values.lookup key).bind read

/-- The value of a key with a default. -/
def defaulted {α : Type} (record : Record) (key : String) (default : α)
    (read : Datum → Option α) : Option α :=
  match record.values.lookup key with
  | some value => read value
  | none => some default

/-- The value of an optional key that has a default too, which is none. -/
def stray {α : Type} (record : Record) (key : String) (read : Datum → Option α) :
    Option (Option α) :=
  match record.values.lookup key with
  | none => some none
  | some .null => some none
  | some value => (read value).map some

def optional {α : Type} (record : Record) (key : String) (read : Datum → Option α) :
    Option (Option α) :=
  match record.values.lookup key with
  | none => if record.inOrder then none else some none
  | some .null => some none
  | some value => (read value).map some

/-- The texts of a key that may be left out. -/
def texts (record : Record) (key : String) : Option (List String) :=
  record.defaulted key [] (Datum.list? Datum.string?)

/-- The entries of a key that may be left out. -/
def entries {α : Type} (record : Record) (key : String) (read : Datum → Option α) :
    Option (List α) :=
  record.defaulted key [] (Datum.list? read)

end Record

variable (strictness : Strictness)

def ArgumentEntry.ofDatum? (datum : Datum) : Option ArgumentEntry := do
  let record ← Record.read? strictness ["name", "value", "quoted"] datum
  return {
    name := ← record.optional "name" Datum.string?
    value := ← record.optional "value" Datum.toToml?
    quoted := ← record.optional "quoted" Datum.boolean? }

def AttributeEntry.ofDatum? (datum : Datum) : Option AttributeEntry := do
  let record ← Record.read? strictness ["name", "args"] datum
  return {
    name := ← record.required "name" Datum.string?
    arguments := ← record.entries "args" (ArgumentEntry.ofDatum? strictness) }

def FieldEntry.ofDatum? (datum : Datum) : Option FieldEntry := do
  let record ← Record.read? strictness
    ["name", "type", "modifiers", "attributes", "initializer"] datum
  return {
    name := ← record.required "name" Datum.string?
    type := ← record.required "type" Datum.string?
    modifiers := ← record.texts "modifiers"
    attributes := ← record.entries "attributes" (AttributeEntry.ofDatum? strictness)
    initializer := ← record.optional "initializer" Datum.string? }

def PropertyEntry.ofDatum? (datum : Datum) : Option PropertyEntry := do
  let record ← Record.read? strictness
    ["name", "type", "modifiers", "attributes", "accessors", "initializer"] datum
  return {
    name := ← record.required "name" Datum.string?
    type := ← record.required "type" Datum.string?
    modifiers := ← record.texts "modifiers"
    attributes := ← record.entries "attributes" (AttributeEntry.ofDatum? strictness)
    accessors := ← record.optional "accessors" (Datum.list? Datum.string?)
    initializer := ← record.optional "initializer" Datum.string? }

def ParameterEntry.ofDatum? (datum : Datum) : Option ParameterEntry := do
  let record ← Record.read? strictness ["name", "type", "default"] datum
  return {
    name := ← record.required "name" Datum.string?
    type := ← record.required "type" Datum.string?
    default := ← record.optional "default" Datum.string? }

def MethodEntry.ofDatum? (datum : Datum) : Option MethodEntry := do
  let record ← Record.read? strictness
    ["name", "returns", "modifiers", "attributes", "parameters", "body"] datum
  return {
    name := ← record.required "name" Datum.string?
    returns := ← record.defaulted "returns" "void" Datum.string?
    modifiers := ← record.texts "modifiers"
    attributes := ← record.entries "attributes" (AttributeEntry.ofDatum? strictness)
    parameters := ← record.entries "parameters" (ParameterEntry.ofDatum? strictness)
    body := ← record.optional "body" Datum.string? }

def ClassEntry.ofDatum? (datum : Datum) : Option ClassEntry := do
  let record ← Record.read? strictness
    ["name", "modifiers", "base_types", "attributes", "field", "property", "method"] datum
  return {
    name := ← record.required "name" Datum.string?
    modifiers := ← record.texts "modifiers"
    baseTypes := ← record.optional "base_types" (Datum.list? Datum.string?)
    attributes := ← record.entries "attributes" (AttributeEntry.ofDatum? strictness)
    fields := ← record.entries "field" (FieldEntry.ofDatum? strictness)
    properties := ← record.entries "property" (PropertyEntry.ofDatum? strictness)
    methods := ← record.entries "method" (MethodEntry.ofDatum? strictness) }

def InterfaceEntry.ofDatum? (datum : Datum) : Option InterfaceEntry := do
  let record ← Record.read? strictness
    ["name", "modifiers", "base_types", "attributes", "property", "method", "field"] datum
  return {
    name := ← record.required "name" Datum.string?
    modifiers := ← record.texts "modifiers"
    baseTypes := ← record.optional "base_types" (Datum.list? Datum.string?)
    attributes := ← record.entries "attributes" (AttributeEntry.ofDatum? strictness)
    properties := ← record.entries "property" (PropertyEntry.ofDatum? strictness)
    methods := ← record.entries "method" (MethodEntry.ofDatum? strictness)
    strayFields := ← record.stray "field" Datum.toToml? }

def EnumMemberEntry.ofDatum? (datum : Datum) : Option EnumMemberEntry := do
  let record ← Record.read? strictness
    ["name", "value", "attributes", "modifiers", "base_types"] datum
  return {
    name := ← record.required "name" Datum.string?
    value := ← record.optional "value" Datum.integer?
    attributes := ← record.entries "attributes" (AttributeEntry.ofDatum? strictness)
    strayModifiers := ← record.stray "modifiers" Datum.toToml?
    strayBaseTypes := ← record.stray "base_types" Datum.toToml? }

def EnumEntry.ofDatum? (datum : Datum) : Option EnumEntry := do
  let record ← Record.read? strictness
    ["name", "modifiers", "attributes", "type", "member", "base_types"] datum
  return {
    name := ← record.required "name" Datum.string?
    modifiers := ← record.texts "modifiers"
    attributes := ← record.entries "attributes" (AttributeEntry.ofDatum? strictness)
    underlying := ← record.optional "type" Datum.string?
    members := ← record.entries "member" (EnumMemberEntry.ofDatum? strictness)
    strayBaseTypes := ← record.stray "base_types" Datum.toToml? }

def NamespaceEntry.ofDatum? (datum : Datum) : Option NamespaceEntry := do
  let record ← Record.read? strictness ["name", "usings"] datum
  return {
    name := ← record.required "name" Datum.string?
    usings := ← record.texts "usings" }

def ofDatum? (datum : Datum) : Option Manifest := do
  let record ← Record.read? strictness ["usings", "namespace", "class", "interface", "enum"] datum
  return {
    usings := ← record.texts "usings"
    enclosing := ← record.optional "namespace" (NamespaceEntry.ofDatum? strictness)
    classes := ← record.entries "class" (ClassEntry.ofDatum? strictness)
    interfaces := ← record.entries "interface" (InterfaceEntry.ofDatum? strictness)
    enums := ← record.entries "enum" (EnumEntry.ofDatum? strictness) }

/-- The manifest that a TOML text describes, without regard to whether it is valid. -/
def ofToml? (text : String) : Option Manifest :=
  (Toml.parse? text).bind fun value => ofDatum? ⟨false⟩ (.ofToml value)

/-- The manifest that a JSON value describes, without regard to whether it is valid. -/
def ofJson? (value : Json) : Option Manifest :=
  ofDatum? ⟨true⟩ (.ofJson value)

end DeclScribe.Manifest
