import DeclScribe.Attribute

/-!
# Declarations

A compilation unit is a tree of declarations: namespaces, classes and interfaces contain members,
which are declarations again. Classes and interfaces have the same slots and differ in their
keyword, so they are one type with a header; an enum has a member type of its own.

Every slot keeps exactly what it was given, in order and with repetitions. Nothing in this module
checks that an identifier is one.
-/

set_option autoImplicit false

namespace DeclScribe

inductive DeclarationKind where
  | namespaceDecl | classDecl | interfaceDecl | enumDecl | enumMember
  | fieldDecl | propertyDecl | methodDecl
deriving Repr, DecidableEq, Inhabited

namespace DeclarationKind

def all : List DeclarationKind :=
  [.namespaceDecl, .classDecl, .interfaceDecl, .enumDecl, .enumMember,
   .fieldDecl, .propertyDecl, .methodDecl]

def word : DeclarationKind → String
  | .namespaceDecl => "namespace"
  | .classDecl => "class"
  | .interfaceDecl => "interface"
  | .enumDecl => "enum"
  | .enumMember => "enum member"
  | .fieldDecl => "field"
  | .propertyDecl => "property"
  | .methodDecl => "method"

def ofWord? (word : String) : Option DeclarationKind :=
  all.find? fun kind => kind.word == word

end DeclarationKind

structure Using where
  name : Name
  aliasName : Option String := none
  isStatic : Bool := false
deriving Repr, DecidableEq, Inhabited

/-- A variable of a field, with its initial value. -/
structure Declarator where
  identifier : String
  initializer : Option Expr := none
deriving Repr, DecidableEq, Inhabited

/-- A field, which may declare several variables of one type. -/
structure FieldDecl where
  attributes : List AttributeList := []
  modifiers : List Modifier := []
  type : TypeRef
  declarators : List Declarator := []
deriving Repr, DecidableEq, Inhabited

inductive AccessorKind where
  | get | set | init
deriving Repr, DecidableEq, Inhabited

namespace AccessorKind

def all : List AccessorKind := [.get, .set, .init]

def word : AccessorKind → String
  | .get => "get"
  | .set => "set"
  | .init => "init"

def ofWord? (word : String) : Option AccessorKind :=
  all.find? fun kind => kind.word == word

end AccessorKind

structure Accessor where
  kind : AccessorKind
  modifiers : List Modifier := []
deriving Repr, DecidableEq, Inhabited

structure PropertyDecl where
  attributes : List AttributeList := []
  modifiers : List Modifier := []
  type : TypeRef
  identifier : String
  accessors : List Accessor := [{ kind := .get }, { kind := .set }]
  initializer : Option Expr := none
deriving Repr, DecidableEq, Inhabited

structure Parameter where
  type : TypeRef
  identifier : String
  default : Option Expr := none
deriving Repr, DecidableEq, Inhabited

inductive MethodBody where
  /-- Only declared. -/
  | none
  /-- An empty block. -/
  | block
  /-- The value of an expression. -/
  | expression (value : Expr)
deriving Repr, DecidableEq, Inhabited

structure MethodDecl where
  attributes : List AttributeList := []
  modifiers : List Modifier := []
  returns : TypeRef
  identifier : String
  parameters : List Parameter := []
  body : MethodBody := .none
deriving Repr, DecidableEq, Inhabited

/-- A member of an enum, with its value. -/
structure EnumMember where
  attributes : List AttributeList := []
  identifier : String
  value : Option Expr := none
deriving Repr, DecidableEq, Inhabited

structure EnumDecl where
  attributes : List AttributeList := []
  modifiers : List Modifier := []
  identifier : String
  underlying : Option TypeRef := none
  members : List EnumMember := []
deriving Repr, DecidableEq, Inhabited

/-- The two kinds of type that have members of any kind. -/
inductive TypeKeyword where
  | classType | interfaceType
deriving Repr, DecidableEq, Inhabited

/-- The kind of declaration that a keyword introduces. -/
def TypeKeyword.declarationKind : TypeKeyword → DeclarationKind
  | .classType => .classDecl
  | .interfaceType => .interfaceDecl

/-- What stands before the members of a class or interface. A base list that is present may still
be empty. -/
structure TypeHeader where
  attributes : List AttributeList := []
  modifiers : List Modifier := []
  identifier : String
  bases : Option (List TypeRef) := none
deriving Repr, DecidableEq, Inhabited

/-- A declaration that can be the member of another one. -/
inductive Member where
  | namespaceDecl (name : Name) (usings : List Using) (members : List Member)
  | typeDecl (keyword : TypeKeyword) (header : TypeHeader) (members : List Member)
  | enumDecl (decl : EnumDecl)
  | fieldDecl (decl : FieldDecl)
  | propertyDecl (decl : PropertyDecl)
  | methodDecl (decl : MethodDecl)
deriving Repr, Inhabited

mutual

/-- Whether two members are the same tree. -/
def Member.same : Member → Member → Bool
  | .namespaceDecl a usings members, .namespaceDecl b usings' members' =>
    a == b && usings == usings' && Member.sameAll members members'
  | .typeDecl a header members, .typeDecl b header' members' =>
    a == b && header == header' && Member.sameAll members members'
  | .enumDecl a, .enumDecl b => a == b
  | .fieldDecl a, .fieldDecl b => a == b
  | .propertyDecl a, .propertyDecl b => a == b
  | .methodDecl a, .methodDecl b => a == b
  | _, _ => false

/-- Whether two lists of members are the same, item by item. -/
def Member.sameAll : List Member → List Member → Bool
  | [], [] => true
  | a :: rest, b :: others => a.same b && Member.sameAll rest others
  | _, _ => false

end

mutual

theorem Member.same_iff : (a b : Member) → (a.same b = true ↔ a = b)
  | .namespaceDecl _ _ members, b => by
    cases b <;> simp [Member.same, Member.sameAll_iff members, and_assoc]
  | .typeDecl _ _ members, b => by
    cases b <;> simp [Member.same, Member.sameAll_iff members, and_assoc]
  | .enumDecl _, b => by cases b <;> simp [Member.same]
  | .fieldDecl _, b => by cases b <;> simp [Member.same]
  | .propertyDecl _, b => by cases b <;> simp [Member.same]
  | .methodDecl _, b => by cases b <;> simp [Member.same]

theorem Member.sameAll_iff : (as bs : List Member) → (Member.sameAll as bs = true ↔ as = bs)
  | [], bs => by cases bs <;> simp [Member.sameAll]
  | a :: rest, bs => by
    cases bs <;> simp [Member.sameAll, Member.same_iff a, Member.sameAll_iff rest]

end

instance : DecidableEq Member := fun a b => decidable_of_iff _ (Member.same_iff a b)

namespace Member

def kind : Member → DeclarationKind
  | .namespaceDecl .. => .namespaceDecl
  | .typeDecl keyword .. => keyword.declarationKind
  | .enumDecl _ => .enumDecl
  | .fieldDecl _ => .fieldDecl
  | .propertyDecl _ => .propertyDecl
  | .methodDecl _ => .methodDecl

/-- Whether a member holds data: fields and properties stand close together. -/
def isData : Member → Bool
  | .fieldDecl _ => true
  | .propertyDecl _ => true
  | _ => false

end Member

structure TypeDecl where
  keyword : TypeKeyword
  header : TypeHeader
  members : List Member := []
deriving Repr, DecidableEq, Inhabited

/-- The type as a member of another declaration. -/
def TypeDecl.toMember (decl : TypeDecl) : Member :=
  .typeDecl decl.keyword decl.header decl.members

structure NamespaceDecl where
  name : Name
  usings : List Using := []
  members : List Member := []
deriving Repr, DecidableEq, Inhabited

/-- The namespace as a member of another declaration. -/
def NamespaceDecl.toMember (decl : NamespaceDecl) : Member :=
  .namespaceDecl decl.name decl.usings decl.members

structure CompilationUnit where
  usings : List Using := []
  members : List Member := []
deriving Repr, DecidableEq, Inhabited

end DeclScribe
