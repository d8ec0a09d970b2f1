import DeclScribe.Declaration.Basic
import DeclScribe.Proofs.Fragment.WellFormed

/-!
# Well-formed declarations

A declaration is well-formed when every slot that takes a fragment has a well-formed tree and every
slot that takes a name has an identifier. Slots may be empty and lists of any length; nothing is
said of names that repeat each other.
-/

set_option autoImplicit false

namespace DeclScribe

/-- A directive for a well-formed name, with an identifier as its alias. -/
structure Using.WellFormed (u : Using) : Prop where
  name : u.name.WellFormed
  aliasName : ∀ text ∈ u.aliasName, IsIdentifierText text

/-- An argument with an identifier as its label. -/
structure AttributeArgument.WellFormed (argument : AttributeArgument) : Prop where
  label : ∀ text ∈ argument.label, IsIdentifierText text
  value : argument.value.WellFormed

/-- An attribute with a well-formed name and such arguments. -/
structure Attribute.WellFormed (a : Attribute) : Prop where
  name : a.name.WellFormed
  arguments : ∀ argument ∈ a.arguments, argument.WellFormed

/-- A list of such attributes, whatever it applies to. -/
def AttributeList.WellFormed (list : AttributeList) : Prop :=
  ∀ a ∈ list.attributes, a.WellFormed

/-- A variable that is named by an identifier. -/
structure Declarator.WellFormed (v : Declarator) : Prop where
  identifier : IsIdentifierText v.identifier
  initializer : ∀ e ∈ v.initializer, e.WellFormed

/-- A field, of any number of such variables. -/
structure FieldDecl.WellFormed (d : FieldDecl) : Prop where
  attributes : ∀ list ∈ d.attributes, list.WellFormed
  type : d.type.WellFormed
  declarators : ∀ v ∈ d.declarators, v.WellFormed

/-- A property. Its accessors are words, and any list of them will do. -/
structure PropertyDecl.WellFormed (d : PropertyDecl) : Prop where
  attributes : ∀ list ∈ d.attributes, list.WellFormed
  type : d.type.WellFormed
  identifier : IsIdentifierText d.identifier
  initializer : ∀ e ∈ d.initializer, e.WellFormed

/-- A parameter, with a default value or without. -/
structure Parameter.WellFormed (p : Parameter) : Prop where
  type : p.type.WellFormed
  identifier : IsIdentifierText p.identifier
  default : ∀ e ∈ p.default, e.WellFormed

/-- A body that is an expression has to be a well-formed one. -/
def MethodBody.WellFormed : MethodBody → Prop
  | .none => True
  | .block => True
  | .expression value => value.WellFormed

/-- A method, of any number of such parameters. -/
structure MethodDecl.WellFormed (d : MethodDecl) : Prop where
  attributes : ∀ list ∈ d.attributes, list.WellFormed
  returns : d.returns.WellFormed
  identifier : IsIdentifierText d.identifier
  parameters : ∀ p ∈ d.parameters, p.WellFormed
  body : d.body.WellFormed

/-- A member of an enum, with a value or without. -/
structure EnumMember.WellFormed (m : EnumMember) : Prop where
  attributes : ∀ list ∈ m.attributes, list.WellFormed
  identifier : IsIdentifierText m.identifier
  value : ∀ e ∈ m.value, e.WellFormed

/-- An enum, of any number of such members. -/
structure EnumDecl.WellFormed (d : EnumDecl) : Prop where
  attributes : ∀ list ∈ d.attributes, list.WellFormed
  identifier : IsIdentifierText d.identifier
  underlying : ∀ type ∈ d.underlying, type.WellFormed
  members : ∀ m ∈ d.members, m.WellFormed

/-- What stands before the members of a type. -/
structure TypeHeader.WellFormed (h : TypeHeader) : Prop where
  attributes : ∀ list ∈ h.attributes, list.WellFormed
  identifier : IsIdentifierText h.identifier
  bases : ∀ types ∈ h.bases, ∀ type ∈ types, type.WellFormed

mutual

/-- A member, with all members inside it. -/
def Member.WellFormed : Member → Prop
  | .namespaceDecl name usings members =>
    name.WellFormed ∧ (∀ u ∈ usings, u.WellFormed) ∧ Member.AllWellFormed members
  | .typeDecl _ header members => header.WellFormed ∧ Member.AllWellFormed members
  | .enumDecl decl => decl.WellFormed
  | .fieldDecl decl => decl.WellFormed
  | .propertyDecl decl => decl.WellFormed
  | .methodDecl decl => decl.WellFormed

/-- Members that are all well-formed. -/
def Member.AllWellFormed : List Member → Prop
  | [] => True
  | m :: rest => m.WellFormed ∧ Member.AllWellFormed rest

end

/-- Members are well-formed together if each of them is. -/
theorem Member.allWellFormed_iff {members : List Member} :
    Member.AllWellFormed members ↔ ∀ m ∈ members, m.WellFormed := by
  induction members with
  | nil => simp [AllWellFormed]
  | cons m rest ih => rw [AllWellFormed, ih, List.forall_mem_cons]

/-- A unit of such directives and members. -/
structure CompilationUnit.WellFormed (u : CompilationUnit) : Prop where
  usings : ∀ directive ∈ u.usings, directive.WellFormed
  members : ∀ m ∈ u.members, m.WellFormed

/-! ## Braces -/

mutual

/-- A member and all members inside it. -/
def Member.within : Member → List Member
  | .namespaceDecl name usings members =>
    .namespaceDecl name usings members :: Member.withinAll members
  | .typeDecl keyword header members => .typeDecl keyword header members :: Member.withinAll members
  | .enumDecl decl => [.enumDecl decl]
  | .fieldDecl decl => [.fieldDecl decl]
  | .propertyDecl decl => [.propertyDecl decl]
  | .methodDecl decl => [.methodDecl decl]

/-- Several members and all members inside them. -/
def Member.withinAll : List Member → List Member
  | [] => []
  | m :: rest => m.within ++ Member.withinAll rest

end

/-- Whether a member is written with braces: namespaces, types and properties are, methods only if
their body is a block. -/
def Member.isBraced : Member → Bool
  | .namespaceDecl .. => true
  | .typeDecl .. => true
  | .enumDecl _ => true
  | .fieldDecl _ => false
  | .propertyDecl _ => true
  | .methodDecl decl => decl.body == .block

/-- How many members of a list, at any depth, are written with braces. -/
def Member.bracedCount (members : List Member) : Nat :=
  (Member.withinAll members).countP Member.isBraced

/-- How many members of a unit, at any depth, are written with braces. -/
def CompilationUnit.bracedCount (u : CompilationUnit) : Nat :=
  Member.bracedCount u.members

end DeclScribe
