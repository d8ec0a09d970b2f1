import DeclScribe.Declaration.Basic
import DeclScribe.Layout

/-!
# The layout of declarations

Attribute lists stand on lines of their own above what they belong to. Members are separated by a
blank line, except that fields and properties follow each other directly; a blank line also
separates using-directives from members. The members of an enum end in a comma, all but the last.
-/

set_option autoImplicit false

namespace DeclScribe

def Using.print (u : Using) : String :=
  let modifier := if u.isStatic then "static " else ""
  let target := match u.aliasName with
    | some aliasName => aliasName ++ " = "
    | none => ""
  "using " ++ modifier ++ target ++ u.name.print ++ ";"

/-- A text followed by the value it is given, if there is one. -/
def withValue (text : String) : Option Expr → String
  | some value => text ++ " = " ++ value.print
  | none => text

def Declarator.print (v : Declarator) : String :=
  withValue v.identifier v.initializer

def Accessor.print (a : Accessor) : String :=
  Modifier.lead a.modifiers ++ a.kind.word ++ ";"

def Parameter.print (p : Parameter) : String :=
  withValue (p.type.print ++ " " ++ p.identifier) p.default

/-- Attribute lists, each on a line of its own. -/
def AttributeList.layout (lists : List AttributeList) : List Layout :=
  lists.map fun list => .line list.print

/-- The line of a field. -/
def FieldDecl.print (d : FieldDecl) : String :=
  Modifier.lead d.modifiers ++ d.type.print ++ " "
    ++ Text.commaSeparated (d.declarators.map (·.print)) ++ ";"

def FieldDecl.layout (d : FieldDecl) : List Layout :=
  AttributeList.layout d.attributes ++ [.line d.print]

/-- The line of a property. -/
def PropertyDecl.print (d : PropertyDecl) : String :=
  let initializer := match d.initializer with
    | some value => " = " ++ value.print ++ ";"
    | none => ""
  Modifier.lead d.modifiers ++ d.type.print ++ " " ++ d.identifier ++ " \x7b "
    ++ Text.joined " " (d.accessors.map (·.print)) ++ " \x7d" ++ initializer

def PropertyDecl.layout (d : PropertyDecl) : List Layout :=
  AttributeList.layout d.attributes ++ [.line d.print]

/-- What stands before the body of a method. -/
def MethodDecl.header (d : MethodDecl) : String :=
  Modifier.lead d.modifiers ++ d.returns.print ++ " " ++ d.identifier
    ++ "(" ++ Text.commaSeparated (d.parameters.map (·.print)) ++ ")"

def MethodDecl.layout (d : MethodDecl) : List Layout :=
  let body : Layout := match d.body with
    | .none => .line (d.header ++ ";")
    | .block => .braced d.header []
    | .expression value => .line (d.header ++ " => " ++ value.print ++ ";")
  AttributeList.layout d.attributes ++ [body]

/-- The line of an enum member, without a comma. -/
def EnumMember.print (m : EnumMember) : String :=
  withValue m.identifier m.value

/-- The layout of an enum member that stands alone. -/
def EnumMember.layout (m : EnumMember) : List Layout :=
  AttributeList.layout m.attributes ++ [.line m.print]

/-- The layout of the members of an enum. -/
def EnumMember.layoutAll : List EnumMember → List Layout
  | [] => []
  | [m] => m.layout
  | m :: next :: rest =>
    AttributeList.layout m.attributes ++ .line (m.print ++ ",") :: layoutAll (next :: rest)

def EnumDecl.layout (d : EnumDecl) : List Layout :=
  let underlying := match d.underlying with
    | some type => " : " ++ type.print
    | none => ""
  let header := Modifier.lead d.modifiers ++ "enum " ++ d.identifier ++ underlying
  AttributeList.layout d.attributes ++ [.braced header (EnumMember.layoutAll d.members)]

/-- The base list of a type. An empty one is not written. -/
def TypeHeader.printBases (h : TypeHeader) : String :=
  match h.bases with
  | some (type :: rest) => " : " ++ Text.commaSeparated ((type :: rest).map (·.print))
  | some [] => ""
  | none => ""

/-- The header line of a class or interface. -/
def TypeHeader.print (keyword : TypeKeyword) (h : TypeHeader) : String :=
  Modifier.lead h.modifiers ++ keyword.declarationKind.word ++ " " ++ h.identifier ++ h.printBases

/-- Using-directives before members that are already laid out. -/
def bodyLayout (usings : List Using) (members : List Layout) : List Layout :=
  let directives := usings.map fun u => .line u.print
  if usings.isEmpty || members.isEmpty then directives ++ members
  else directives ++ .blank :: members

mutual

def Member.layout : Member → List Layout
  | .namespaceDecl name usings members =>
    [.braced ("namespace " ++ name.print) (bodyLayout usings (Member.layoutAll members))]
  | .typeDecl keyword header members =>
    AttributeList.layout header.attributes
      ++ [.braced (header.print keyword) (Member.layoutAll members)]
  | .enumDecl decl => decl.layout
  | .fieldDecl decl => decl.layout
  | .propertyDecl decl => decl.layout
  | .methodDecl decl => decl.layout

/-- The layout of members in order. -/
def Member.layoutAll : List Member → List Layout
  | [] => []
  | m :: rest => m.layout ++ Member.layoutAfter m.isData rest

/-- The layout of the members behind one that does or does not hold data. -/
def Member.layoutAfter (previousIsData : Bool) : List Member → List Layout
  | [] => []
  | m :: rest =>
    (if previousIsData && m.isData then [] else [.blank])
      ++ m.layout ++ Member.layoutAfter m.isData rest

end

def CompilationUnit.layout (u : CompilationUnit) : List Layout :=
  bodyLayout u.usings (Member.layoutAll u.members)

def CompilationUnit.print (u : CompilationUnit) : String :=
  Layout.render .standard u.layout

end DeclScribe
