import DeclScribe.Declaration.Printer

/-!
# Building declarations step by step

A node is a declaration or a part of one, and an edit changes one slot of a node. Some edits replace
what the slot holds, some append to it; what they put in is given as it is, or as texts that are
read first. An edit that a node has no slot for is refused, and one whose text does not parse leaves
the node as it was; in every other case no other slot changes.
-/

set_option autoImplicit false

namespace DeclScribe

/-- A declaration, or a part that declarations are put together from. -/
inductive Node where
  | attribute (a : Attribute)
  | attributeList (list : AttributeList)
  | usingDirective (u : Using)
  | type (decl : TypeDecl)
  | enumDecl (decl : EnumDecl)
  | enumMember (member : EnumMember)
  | field (decl : FieldDecl)
  | property (decl : PropertyDecl)
  | method (decl : MethodDecl)
  | namespaceDecl (decl : NamespaceDecl)
  | unit (decl : CompilationUnit)
deriving Repr, DecidableEq, Inhabited

/-- A change to one slot of a node. -/
inductive Edit where
  | setModifiers (modifiers : List Modifier)
  /-- Replaces the base list by the types that the texts spell. -/
  | setBases (texts : List String)
  /-- Replaces the base list by these types, or takes it away. -/
  | setBasesTo (bases : Option (List TypeRef))
  /-- Appends directives for the names that the texts spell. -/
  | addUsings (texts : List String)
  | addUsingDirectives (usings : List Using)
  | setUsingDirectives (usings : List Using)
  /-- Appends a list with this attribute alone. -/
  | addAttribute (a : Attribute)
  | addAttributeLists (lists : List AttributeList)
  | setAttributeLists (lists : List AttributeList)
  | addEnumMembers (members : List EnumMember)
  | addMembers (members : List Member)
  | setMembers (members : List Member)
  | setIdentifier (identifier : String)
  | setUnderlying (type : Option TypeRef)
  | setValue (text : Option String)
  | setValueTo (value : Option Expr)
  /-- Replaces the variables of a field by these, with the texts of their initial values. The type
  stays. -/
  | setDeclarators (declarators : List (String × Option String))
  | setDeclaratorsTo (declarators : List Declarator)
  /-- Replaces the whole declaration of a field, the type with the variables. -/
  | setDeclaration (type : TypeRef) (declarators : List Declarator)
  | setInitializer (text : Option String)
  | setInitializerTo (initializer : Option Expr)
  | setAccessors (accessors : List Accessor)
  | addParameters (parameters : List Parameter)
  | setBody (body : MethodBody)
  | setTarget (target : Option AttributeTarget)
  | addAttributes (attributes : List Attribute)
  | setAlias (aliasName : String)
  | setStatic (isStatic : Bool)
  | setName (text : String)
  | setNameTo (name : Name)
  /-- Replaces the argument list of the attribute, or takes it away. -/
  | setArgumentListTo (arguments : Option (List AttributeArgument))
  | addArguments (arguments : List AttributeArgument)
  | addArgument (format : ArgumentFormat) (value : String)
  | addNamedArgument (format : ArgumentFormat) (name : String) (value : Option String)
  | addLiteralArgument (name : Option String) (value : LiteralValue)
deriving Repr, DecidableEq, Inhabited

namespace Edit

/-- Takes the base list away. -/
def clearBases : Edit :=
  .setBasesTo none

/-- Takes all using-directives away. -/
def clearUsings : Edit :=
  .setUsingDirectives []

/-- Gives the attribute an empty argument list, or takes its list away. -/
def setArgumentList (present : Bool) : Edit :=
  .setArgumentListTo (if present then some [] else none)

end Edit

/-- Why an edit is refused. -/
inductive EditError where
  /-- The node has no such slot. -/
  | unsupported
  /-- A text of the edit does not parse. -/
  | malformed (e : ParseError)
deriving Repr, DecidableEq, Inhabited

/-- Reads every text of a list, and fails at the first one that does not parse. -/
def parseAll {α : Type} (parse : String → Except ParseError α) :
    List String → Except ParseError (List α)
  | [] => .ok []
  | text :: rest =>
    match parse text with
    | .error e => .error e
    | .ok value =>
      match parseAll parse rest with
      | .error e => .error e
      | .ok values => .ok (value :: values)

def parseOption {α : Type} (parse : String → Except ParseError α) :
    Option String → Except ParseError (Option α)
  | none => .ok none
  | some text =>
    match parse text with
    | .error e => .error e
    | .ok value => .ok (some value)

/-- Reads variables with the texts of their initial values. -/
def Declarator.parseAll : List (String × Option String) → Except ParseError (List Declarator)
  | [] => .ok []
  | (identifier, text) :: rest =>
    match parseOption Expr.parse text with
    | .error e => .error e
    | .ok initializer =>
      match Declarator.parseAll rest with
      | .error e => .error e
      | .ok declarators => .ok (⟨identifier, initializer⟩ :: declarators)

def Using.parseAll (texts : List String) : Except ParseError (List Using) :=
  (DeclScribe.parseAll Name.parse texts).map fun names => names.map fun name => { name }

/-- A field of one variable. Its name must be one plain identifier. -/
def FieldDecl.single (type : TypeRef) (name : String) : Except ParseError FieldDecl :=
  (Name.parseIdentifier .simpleIdentifier name).map fun identifier =>
    { type, declarators := [{ identifier }] }

/-- The namespace without members that a text names. -/
def NamespaceDecl.parse (text : String) : Except ParseError NamespaceDecl :=
  (Name.parse text).map fun name => { name }

namespace Node

/-- A changed node, unless the text of the edit does not parse. -/
def parsed {α : Type} (wrap : α → Node) (result : Except ParseError α) :
    Except EditError Node :=
  match result with
  | .ok value => .ok (wrap value)
  | .error e => .error (.malformed e)

/-- The node with other modifiers. -/
def setModifiers (modifiers : List Modifier) : Node → Except EditError Node
  | .type d => .ok (.type { d with header := { d.header with modifiers } })
  | .enumDecl d => .ok (.enumDecl { d with modifiers })
  | .field d => .ok (.field { d with modifiers })
  | .property d => .ok (.property { d with modifiers })
  | .method d => .ok (.method { d with modifiers })
  | _ => .error .unsupported

/-- The node with its attribute lists changed by a function. -/
def mapAttributeLists (f : List AttributeList → List AttributeList) :
    Node → Except EditError Node
  | .type d =>
    .ok (.type { d with header := { d.header with attributes := f d.header.attributes } })
  | .enumDecl d => .ok (.enumDecl { d with attributes := f d.attributes })
  | .enumMember d => .ok (.enumMember { d with attributes := f d.attributes })
  | .field d => .ok (.field { d with attributes := f d.attributes })
  | .property d => .ok (.property { d with attributes := f d.attributes })
  | .method d => .ok (.method { d with attributes := f d.attributes })
  | _ => .error .unsupported

/-- The node with another base list. -/
def setBases (bases : Option (List TypeRef)) : Node → Except EditError Node
  | .type d => .ok (.type { d with header := { d.header with bases } })
  | _ => .error .unsupported

/-- The node with its using-directives changed by a function. -/
def mapUsings (f : List Using → List Using) : Node → Except EditError Node
  | .namespaceDecl d => .ok (.namespaceDecl { d with usings := f d.usings })
  | .unit d => .ok (.unit { d with usings := f d.usings })
  | _ => .error .unsupported

def addMembers (members : List Member) : Node → Except EditError Node
  | .type d => .ok (.type { d with members := d.members ++ members })
  | .namespaceDecl d => .ok (.namespaceDecl { d with members := d.members ++ members })
  | .unit d => .ok (.unit { d with members := d.members ++ members })
  | _ => .error .unsupported

/-- Whether the node is a class. Some slots can be replaced in classes only. -/
def isClass : Node → Bool
  | .type d => d.keyword == .classType
  | _ => false

/-- The result of an edit. The slot is looked for first, then the texts of the edit are read. -/
def apply (node : Node) : Edit → Except EditError Node
  | .setModifiers modifiers => node.setModifiers modifiers
  | .setBases texts =>
    match node with
    | .type d =>
      parsed (fun bases => .type { d with header := { d.header with bases := some bases } })
        (parseAll TypeRef.parse texts)
    | _ => .error .unsupported
  | .setBasesTo bases => node.setBases bases
  | .addUsings texts =>
    match node with
    | .namespaceDecl d =>
      parsed (fun more => .namespaceDecl { d with usings := d.usings ++ more })
        (Using.parseAll texts)
    | .unit d =>
      parsed (fun more => .unit { d with usings := d.usings ++ more }) (Using.parseAll texts)
    | _ => .error .unsupported
  | .addUsingDirectives usings => node.mapUsings (· ++ usings)
  | .setUsingDirectives usings => node.mapUsings fun _ => usings
  | .addAttribute a => node.mapAttributeLists (· ++ [.single a])
  | .addAttributeLists lists => node.mapAttributeLists (· ++ lists)
  | .setAttributeLists lists => node.mapAttributeLists fun _ => lists
  | .addEnumMembers members =>
    match node with
    | .enumDecl d => .ok (.enumDecl { d with members := d.members ++ members })
    | _ => .error .unsupported
  | .addMembers members => node.addMembers members
  | .setMembers members =>
    match node with
    | .type d => if node.isClass then .ok (.type { d with members }) else .error .unsupported
    | _ => .error .unsupported
  | .setIdentifier identifier =>
    match node with
    | .type d =>
      if node.isClass then .ok (.type { d with header := { d.header with identifier } })
      else .error .unsupported
    | _ => .error .unsupported
  | .setUnderlying underlying =>
    match node with
    | .enumDecl d => .ok (.enumDecl { d with underlying })
    | _ => .error .unsupported
  | .setValue text =>
    match node with
    | .enumMember d =>
      parsed (fun value => .enumMember { d with value }) (parseOption Expr.parse text)
    | _ => .error .unsupported
  | .setValueTo value =>
    match node with
    | .enumMember d => .ok (.enumMember { d with value })
    | _ => .error .unsupported
  | .setDeclarators declarators =>
    match node with
    | .field d =>
      parsed (fun found => .field { d with declarators := found }) (Declarator.parseAll declarators)
    | _ => .error .unsupported
  | .setDeclaratorsTo declarators =>
    match node with
    | .field d => .ok (.field { d with declarators })
    | _ => .error .unsupported
  | .setDeclaration declared declarators =>
    match node with
    | .field d => .ok (.field { d with type := declared, declarators })
    | _ => .error .unsupported
  | .setInitializer text =>
    match node with
    | .property d =>
      parsed (fun initializer => .property { d with initializer }) (parseOption Expr.parse text)
    | _ => .error .unsupported
  | .setInitializerTo initializer =>
    match node with
    | .property d => .ok (.property { d with initializer })
    | _ => .error .unsupported
  | .setAccessors accessors =>
    match node with
    | .property d => .ok (.property { d with accessors })
    | _ => .error .unsupported
  | .addParameters parameters =>
    match node with
    | .method d => .ok (.method { d with parameters := d.parameters ++ parameters })
    | _ => .error .unsupported
  | .setBody body =>
    match node with
    | .method d => .ok (.method { d with body })
    | _ => .error .unsupported
  | .setTarget target =>
    match node with
    | .attributeList list => .ok (.attributeList { list with target })
    | _ => .error .unsupported
  | .addAttributes attributes =>
    match node with
    | .attributeList list =>
      .ok (.attributeList { list with attributes := list.attributes ++ attributes })
    | _ => .error .unsupported
  | .setAlias aliasName =>
    match node with
    | .usingDirective u => .ok (.usingDirective { u with aliasName := some aliasName })
    | _ => .error .unsupported
  | .setStatic isStatic =>
    match node with
    | .usingDirective u => .ok (.usingDirective { u with isStatic })
    | _ => .error .unsupported
  | .setName text =>
    match node with
    | .attribute a => parsed (fun name => .attribute { a with name }) (Name.parse text)
    | _ => .error .unsupported
  | .setNameTo name =>
    match node with
    | .attribute a => .ok (.attribute { a with name })
    | _ => .error .unsupported
  | .setArgumentListTo argumentList =>
    match node with
    | .attribute a => .ok (.attribute { a with argumentList })
    | _ => .error .unsupported
  | .addArguments arguments =>
    match node with
    | .attribute a => .ok (.attribute { a with argumentList := some (a.arguments ++ arguments) })
    | _ => .error .unsupported
  | .addArgument format value =>
    match node with
    | .attribute a => parsed .attribute (a.addPositional format value)
    | _ => .error .unsupported
  | .addNamedArgument format name value =>
    match node with
    | .attribute a => parsed .attribute (a.addNamed format name value)
    | _ => .error .unsupported
  | .addLiteralArgument name value =>
    match node with
    | .attribute a => parsed .attribute (a.addLiteral name value)
    | _ => .error .unsupported

def kindWord : Node → String
  | .attribute _ => "attribute"
  | .attributeList _ => "attribute list"
  | .usingDirective _ => "using"
  | .type d => d.keyword.declarationKind.word
  | .enumDecl _ => "enum"
  | .enumMember _ => "enum member"
  | .field _ => "field"
  | .property _ => "property"
  | .method _ => "method"
  | .namespaceDecl _ => "namespace"
  | .unit _ => "unit"

/-- The node as a member of another declaration. -/
def toMember? : Node → Option Member
  | .type d => some d.toMember
  | .enumDecl d => some (.enumDecl d)
  | .field d => some (.fieldDecl d)
  | .property d => some (.propertyDecl d)
  | .method d => some (.methodDecl d)
  | .namespaceDecl d => some d.toMember
  | _ => none

/-- The layout of a node that is a declaration. -/
def layout? : Node → Option (List Layout)
  | .attribute _ => none
  | .attributeList _ => none
  | .usingDirective _ => none
  | .type d => some d.toMember.layout
  | .enumDecl d => some d.layout
  | .enumMember d => some d.layout
  | .field d => some d.layout
  | .property d => some d.layout
  | .method d => some d.layout
  | .namespaceDecl d => some d.toMember.layout
  | .unit d => some d.layout

def print (node : Node) : String :=
  match node with
  | .attribute a => a.print
  | .attributeList list => list.print
  | .usingDirective u => u.print
  | _ => Layout.render .standard (node.layout?.getD [])

end Node

end DeclScribe
