import DeclScribe.Keyword
import DeclScribe.Text.Format

/-!
# Names and types

A name is a dotted path of identifiers, each of which may carry type arguments, and may start in a
namespace alias. A type is a predefined type or a name, made nullable or into arrays any number of
times. The two contain each other through type arguments.

Printing is the canonical spelling: no spaces but the one behind each comma.
-/

set_option autoImplicit false

namespace DeclScribe

mutual

/-- A possibly qualified, possibly generic name. -/
inductive Name where
  /-- One identifier. -/
  | identifier (text : String)
  /-- An identifier with type arguments. -/
  | generic (text : String) (arguments : List TypeRef)
  /-- A name inside another one. -/
  | qualified (left right : Name)
  /-- A name inside a namespace alias. -/
  | aliased (qualifier : String) (name : Name)

inductive TypeRef where
  /-- A type with a keyword of its own. -/
  | predefined (type : Predefined)
  /-- A type known by its name. -/
  | named (name : Name)
  /-- An array with a number of dimensions. -/
  | array (element : TypeRef) (rank : Nat)
  /-- A type that also admits null. -/
  | nullable (type : TypeRef)

end

deriving instance Repr for Name, TypeRef

instance : Inhabited Name := ⟨.identifier ""⟩
instance : Inhabited TypeRef := ⟨.predefined .object⟩

mutual

/-- Whether two names are the same tree. -/
def Name.same : Name → Name → Bool
  | .identifier a, .identifier b => a == b
  | .generic a args, .generic b others => a == b && TypeRef.sameAll args others
  | .qualified left right, .qualified left' right' => left.same left' && right.same right'
  | .aliased a name, .aliased b other => a == b && name.same other
  | _, _ => false

/-- Whether two types are the same tree. -/
def TypeRef.same : TypeRef → TypeRef → Bool
  | .predefined a, .predefined b => a == b
  | .named a, .named b => a.same b
  | .array element rank, .array other rank' => element.same other && rank == rank'
  | .nullable a, .nullable b => a.same b
  | _, _ => false

/-- Whether two lists of types are the same, item by item. -/
def TypeRef.sameAll : List TypeRef → List TypeRef → Bool
  | [], [] => true
  | a :: rest, b :: others => a.same b && TypeRef.sameAll rest others
  | _, _ => false

end

mutual

theorem Name.same_iff : (a b : Name) → (a.same b = true ↔ a = b)
  | .identifier _, b => by cases b <;> simp [Name.same]
  | .generic _ args, b => by
    cases b <;> simp [Name.same, TypeRef.sameAll_iff args]
  | .qualified left right, b => by
    cases b <;> simp [Name.same, Name.same_iff left, Name.same_iff right]
  | .aliased _ name, b => by
    cases b <;> simp [Name.same, Name.same_iff name]

theorem TypeRef.same_iff : (a b : TypeRef) → (a.same b = true ↔ a = b)
  | .predefined _, b => by cases b <;> simp [TypeRef.same]
  | .named name, b => by cases b <;> simp [TypeRef.same, Name.same_iff name]
  | .array element _, b => by cases b <;> simp [TypeRef.same, TypeRef.same_iff element]
  | .nullable type, b => by cases b <;> simp [TypeRef.same, TypeRef.same_iff type]

theorem TypeRef.sameAll_iff : (as bs : List TypeRef) → (TypeRef.sameAll as bs = true ↔ as = bs)
  | [], bs => by cases bs <;> simp [TypeRef.sameAll]
  | a :: rest, bs => by
    cases bs <;> simp [TypeRef.sameAll, TypeRef.same_iff a, TypeRef.sameAll_iff rest]

end

instance : DecidableEq Name := fun a b => decidable_of_iff _ (Name.same_iff a b)
instance : DecidableEq TypeRef := fun a b => decidable_of_iff _ (TypeRef.same_iff a b)

/-- The rightmost identifier of a name, without type arguments. -/
def Name.simpleIdentifier : Name → String
  | .identifier text => text
  | .generic text _ => text
  | .qualified _ right => right.simpleIdentifier
  | .aliased _ name => name.simpleIdentifier

mutual

def Name.print : Name → String
  | .identifier text => text
  | .generic text arguments =>
    text ++ "<" ++ Text.commaSeparated (TypeRef.printAll arguments) ++ ">"
  | .qualified left right => left.print ++ "." ++ right.print
  | .aliased qualifier name => qualifier ++ "::" ++ name.print

def TypeRef.print : TypeRef → String
  | .predefined type => type.word
  | .named name => name.print
  | .array element rank =>
    element.print ++ "[" ++ String.ofList (List.replicate (rank - 1) ',') ++ "]"
  | .nullable type => type.print ++ "?"

/-- The spellings of several types. -/
def TypeRef.printAll : List TypeRef → List String
  | [] => []
  | type :: rest => type.print :: TypeRef.printAll rest

end

end DeclScribe
