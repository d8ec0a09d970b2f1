import DeclScribe.Declaration.Builder

/-!
# The slots of nodes

A node is what its slots hold. One table says which slots each kind of node has, what they hold, and
what the node is with something else in one of them; that a slot then holds what was put in, and
that no other slot changes, are its laws. A second table says which slot an edit addresses and what
it does there. An edit of a node is that change of that slot and nothing else, and it is refused if
the node lacks the slot or a text of the edit does not parse.
-/

set_option autoImplicit false

namespace DeclScribe

/-! ## Slots and what they hold -/

/-- The parts of nodes. The last three are never edited. -/
inductive Slot where
  | attributeLists | modifiers | bases | usings | members | enumMembers | identifier | underlying
  | value | initializer | accessors | parameters | body | target | attributes
  | aliasName | isStatic | name | argumentList
  /-- What a field declares: a type, and variables of it. -/
  | declaration
  /-- Whether a type is a class or an interface. -/
  | keyword
  /-- The type of a property, or of the result of a method. -/
  | type
  /-- The name of a namespace, or the one that a using-directive is about. -/
  | path
deriving Repr, DecidableEq

namespace Slot

/-- What a slot holds. -/
@[reducible] def Content : Slot → Type
  | .attributeLists => List AttributeList
  | .modifiers => List Modifier
  | .bases => Option (List TypeRef)
  | .usings => List Using
  | .members => List Member
  | .enumMembers => List EnumMember
  | .identifier => String
  | .underlying => Option TypeRef
  | .value => Option Expr
  | .initializer => Option Expr
  | .accessors => List Accessor
  | .parameters => List Parameter
  | .body => MethodBody
  | .target => Option AttributeTarget
  | .attributes => List Attribute
  | .aliasName => Option String
  | .isStatic => Bool
  | .name => Name
  | .argumentList => Option (List AttributeArgument)
  | .declaration => TypeRef × List Declarator
  | .keyword => TypeKeyword
  | .type => TypeRef
  | .path => Name

/-- What is appended to a slot. Most slots are only replaced. What is brought to the declaration of
a field without replacing it is a list of variables. -/
@[reducible] def Item : Slot → Type
  | .attributeLists => AttributeList
  | .usings => Using
  | .members => Member
  | .enumMembers => EnumMember
  | .parameters => Parameter
  | .attributes => Attribute
  | .argumentList => AttributeArgument
  | .declaration => List Declarator
  | _ => Empty

/-- What a slot holds when items are appended to it. An argument list that is missing is created. Of
the lists of variables that a declaration is given the last one counts. -/
def append : (slot : Slot) → slot.Content → List slot.Item → slot.Content
  | .attributeLists, content, items => content ++ items
  | .usings, content, items => content ++ items
  | .members, content, items => content ++ items
  | .enumMembers, content, items => content ++ items
  | .parameters, content, items => content ++ items
  | .attributes, content, items => content ++ items
  | .argumentList, content, items => some (content.getD [] ++ items)
  | .declaration, (declared, declarators), items => (declared, items.getLast?.getD declarators)
  | _, content, _ => content

/-- Appending in two steps is appending in one. -/
theorem append_append (slot : Slot) (content : slot.Content) (items more : List slot.Item) :
    slot.append (slot.append content items) more = slot.append content (items ++ more) := by
  cases slot with
  | declaration =>
    cases hlast : more.getLast? <;> simp [append, List.getLast?_append, hlast]
  | _ => simp [append]

end Slot

/-- What an edit does to a slot. -/
inductive Change (slot : Slot) where
  | replace (content : slot.Content)
  | add (items : List slot.Item)

/-- What a slot holds after a change. -/
def Change.apply {slot : Slot} : Change slot → slot.Content → slot.Content
  | .replace content, _ => content
  | .add items, content => slot.append content items

/-! ## The table of slots -/

/-- A slot of a node: what it holds, and the node with something else in it. -/
structure Focus (slot : Slot) where
  content : slot.Content
  put : slot.Content → Node

namespace Node

/-- The slot of a node, if it has one. -/
def focus : Node → (slot : Slot) → Option (Focus slot)
  | .attribute a, .name => some ⟨a.name, fun name => .attribute { a with name }⟩
  | .attribute a, .argumentList =>
    some ⟨a.argumentList, fun argumentList => .attribute { a with argumentList }⟩
  | .attributeList l, .target => some ⟨l.target, fun target => .attributeList { l with target }⟩
  | .attributeList l, .attributes =>
    some ⟨l.attributes, fun attributes => .attributeList { l with attributes }⟩
  | .usingDirective u, .path => some ⟨u.name, fun name => .usingDirective { u with name }⟩
  | .usingDirective u, .aliasName =>
    some ⟨u.aliasName, fun aliasName => .usingDirective { u with aliasName }⟩
  | .usingDirective u, .isStatic =>
    some ⟨u.isStatic, fun isStatic => .usingDirective { u with isStatic }⟩
  | .type d, .keyword => some ⟨d.keyword, fun keyword => .type { d with keyword }⟩
  | .type d, .attributeLists =>
    some ⟨d.header.attributes, fun attributes => .type { d with header.attributes := attributes }⟩
  | .type d, .modifiers =>
    some ⟨d.header.modifiers, fun modifiers => .type { d with header.modifiers := modifiers }⟩
  | .type d, .identifier =>
    some ⟨d.header.identifier, fun identifier => .type { d with header.identifier := identifier }⟩
  | .type d, .bases => some ⟨d.header.bases, fun bases => .type { d with header.bases := bases }⟩
  | .type d, .members => some ⟨d.members, fun members => .type { d with members }⟩
  | .enumDecl d, .attributeLists =>
    some ⟨d.attributes, fun attributes => .enumDecl { d with attributes }⟩
  | .enumDecl d, .modifiers => some ⟨d.modifiers, fun modifiers => .enumDecl { d with modifiers }⟩
  | .enumDecl d, .identifier =>
    some ⟨d.identifier, fun identifier => .enumDecl { d with identifier }⟩
  | .enumDecl d, .underlying =>
    some ⟨d.underlying, fun underlying => .enumDecl { d with underlying }⟩
  | .enumDecl d, .enumMembers => some ⟨d.members, fun members => .enumDecl { d with members }⟩
  | .enumMember d, .attributeLists =>
    some ⟨d.attributes, fun attributes => .enumMember { d with attributes }⟩
  | .enumMember d, .identifier =>
    some ⟨d.identifier, fun identifier => .enumMember { d with identifier }⟩
  | .enumMember d, .value => some ⟨d.value, fun value => .enumMember { d with value }⟩
  | .field d, .attributeLists =>
    some ⟨d.attributes, fun attributes => .field { d with attributes }⟩
  | .field d, .modifiers => some ⟨d.modifiers, fun modifiers => .field { d with modifiers }⟩
  | .field d, .declaration =>
    some ⟨(d.type, d.declarators), fun declaration =>
      .field { d with type := declaration.1, declarators := declaration.2 }⟩
  | .property d, .attributeLists =>
    some ⟨d.attributes, fun attributes => .property { d with attributes }⟩
  | .property d, .modifiers => some ⟨d.modifiers, fun modifiers => .property { d with modifiers }⟩
  | .property d, .type => some ⟨d.type, fun type => .property { d with type }⟩
  | .property d, .identifier =>
    some ⟨d.identifier, fun identifier => .property { d with identifier }⟩
  | .property d, .accessors => some ⟨d.accessors, fun accessors => .property { d with accessors }⟩
  | .property d, .initializer =>
    some ⟨d.initializer, fun initializer => .property { d with initializer }⟩
  | .method d, .attributeLists =>
    some ⟨d.attributes, fun attributes => .method { d with attributes }⟩
  | .method d, .modifiers => some ⟨d.modifiers, fun modifiers => .method { d with modifiers }⟩
  | .method d, .type => some ⟨d.returns, fun returns => .method { d with returns }⟩
  | .method d, .identifier =>
    some ⟨d.identifier, fun identifier => .method { d with identifier }⟩
  | .method d, .parameters =>
    some ⟨d.parameters, fun parameters => .method { d with parameters }⟩
  | .method d, .body => some ⟨d.body, fun body => .method { d with body }⟩
  | .namespaceDecl d, .path => some ⟨d.name, fun name => .namespaceDecl { d with name }⟩
  | .namespaceDecl d, .usings => some ⟨d.usings, fun usings => .namespaceDecl { d with usings }⟩
  | .namespaceDecl d, .members =>
    some ⟨d.members, fun members => .namespaceDecl { d with members }⟩
  | .unit d, .usings => some ⟨d.usings, fun usings => .unit { d with usings }⟩
  | .unit d, .members => some ⟨d.members, fun members => .unit { d with members }⟩
  | _, _ => none

/-- What a slot of a node holds. -/
def content? (node : Node) (slot : Slot) : Option slot.Content :=
  (node.focus slot).map Focus.content

variable {node : Node} {slot : Slot} {focus : Focus slot}

/-- A slot holds what was put in. -/
theorem content?_put_self (h : node.focus slot = some focus) (content : slot.Content) :
    (focus.put content).content? slot = some content := by
  cases node <;> cases slot <;> cases h <;> rfl

/-- No other slot changes. -/
theorem content?_put_of_ne (h : node.focus slot = some focus) (content : slot.Content)
    {other : Slot} (hother : other ≠ slot) :
    (focus.put content).content? other = node.content? other := by
  cases node <;> cases slot <;> cases h <;> cases other <;>
    first | rfl | exact absurd rfl hother

/-- Nodes of which only one has a slot do not hold the same. -/
theorem not_content?_eq {a b : Node} (slot : Slot) (ha : (a.content? slot).isSome = true)
    (hb : (b.content? slot).isSome = false) : ¬ ∀ slot, a.content? slot = b.content? slot := by
  intro h
  rw [h slot, hb] at ha
  exact absurd ha (by simp)

/-- A node is what its slots hold. -/
theorem eq_of_content?_eq {a b : Node} (h : ∀ slot, a.content? slot = b.content? slot) : a = b := by
  -- The kind of the node shows in the slots that it has.
  cases a with
  | «attribute» a =>
    cases b with
    | «attribute» b =>
      cases a; cases b
      simpa [content?, focus] using (⟨h .name, h .argumentList⟩ : _ ∧ _)
    | _ => exact absurd h (not_content?_eq .name rfl rfl)
  | attributeList a =>
    cases b with
    | attributeList b =>
      cases a; cases b
      simpa [content?, focus] using (⟨h .target, h .attributes⟩ : _ ∧ _)
    | _ => exact absurd h (not_content?_eq .target rfl rfl)
  | usingDirective a =>
    cases b with
    | usingDirective b =>
      cases a; cases b
      simpa [content?, focus] using (⟨h .path, h .aliasName, h .isStatic⟩ : _ ∧ _ ∧ _)
    | _ => exact absurd h (not_content?_eq .aliasName rfl rfl)
  | type a =>
    cases b with
    | type b =>
      obtain ⟨keyword, ⟨attributes, modifiers, identifier, bases⟩, members⟩ := a
      obtain ⟨keyword', ⟨attributes', modifiers', identifier', bases'⟩, members'⟩ := b
      simpa [content?, focus] using (⟨h .keyword,
        ⟨h .attributeLists, h .modifiers, h .identifier, h .bases⟩, h .members⟩ :
          _ ∧ (_ ∧ _ ∧ _ ∧ _) ∧ _)
    | _ => exact absurd h (not_content?_eq .keyword rfl rfl)
  | enumDecl a =>
    cases b with
    | enumDecl b =>
      cases a; cases b
      simpa [content?, focus] using (⟨h .attributeLists, h .modifiers, h .identifier,
        h .underlying, h .enumMembers⟩ : _ ∧ _ ∧ _ ∧ _ ∧ _)
    | _ => exact absurd h (not_content?_eq .underlying rfl rfl)
  | enumMember a =>
    cases b with
    | enumMember b =>
      cases a; cases b
      simpa [content?, focus] using (⟨h .attributeLists, h .identifier, h .value⟩ : _ ∧ _ ∧ _)
    | _ => exact absurd h (not_content?_eq .value rfl rfl)
  | field a =>
    cases b with
    | field b =>
      cases a; cases b
      simpa [content?, focus] using
        (⟨h .attributeLists, h .modifiers, h .declaration⟩ : _ ∧ _ ∧ _)
    | _ => exact absurd h (not_content?_eq .declaration rfl rfl)
  | property a =>
    cases b with
    | property b =>
      cases a; cases b
      simpa [content?, focus] using (⟨h .attributeLists, h .modifiers, h .type, h .identifier,
        h .accessors, h .initializer⟩ : _ ∧ _ ∧ _ ∧ _ ∧ _ ∧ _)
    | _ => exact absurd h (not_content?_eq .accessors rfl rfl)
  | method a =>
    cases b with
    | method b =>
      cases a; cases b
      simpa [content?, focus] using (⟨h .attributeLists, h .modifiers, h .type, h .identifier,
        h .parameters, h .body⟩ : _ ∧ _ ∧ _ ∧ _ ∧ _ ∧ _)
    | _ => exact absurd h (not_content?_eq .body rfl rfl)
  | namespaceDecl a =>
    cases b with
    | namespaceDecl b =>
      cases a; cases b
      simpa [content?, focus] using (⟨h .path, h .usings, h .members⟩ : _ ∧ _ ∧ _)
    | usingDirective b => exact absurd h (not_content?_eq .usings rfl rfl)
    | _ => exact absurd h (not_content?_eq .path rfl rfl)
  | unit a =>
    cases b with
    | unit b =>
      cases a; cases b
      simpa [content?, focus] using (⟨h .usings, h .members⟩ : _ ∧ _)
    | namespaceDecl b =>
      exact absurd (fun slot => (h slot).symm) (not_content?_eq .path rfl rfl)
    | _ => exact absurd h (not_content?_eq .usings rfl rfl)

end Node

/-! ## The table of edits -/

/-- The argument that a text is as an expression. -/
def AttributeArgument.ofText (text : String) : Except ParseError AttributeArgument :=
  (Expr.parse text).map fun value => ⟨none, value⟩

/-- The argument that a value is, with its name as a label. -/
def AttributeArgument.ofLiteral (name : Option String) (value : LiteralValue) :
    Except ParseError AttributeArgument :=
  match value.toExpr with
  | .error e => .error e
  | .ok expr =>
    (parseOption (Name.parseIdentifier .argumentName) name).map fun label => ⟨label, expr⟩

namespace Edit

/-- The slot that an edit addresses. -/
@[reducible] def slot : Edit → Slot
  | .setModifiers _ => .modifiers
  | .setBases _ => .bases
  | .setBasesTo _ => .bases
  | .addUsings _ => .usings
  | .addUsingDirectives _ => .usings
  | .setUsingDirectives _ => .usings
  | .addAttribute _ => .attributeLists
  | .addAttributeLists _ => .attributeLists
  | .setAttributeLists _ => .attributeLists
  | .addEnumMembers _ => .enumMembers
  | .addMembers _ => .members
  | .setMembers _ => .members
  | .setIdentifier _ => .identifier
  | .setUnderlying _ => .underlying
  | .setValue _ => .value
  | .setValueTo _ => .value
  | .setDeclarators _ => .declaration
  | .setDeclaratorsTo _ => .declaration
  | .setDeclaration _ _ => .declaration
  | .setInitializer _ => .initializer
  | .setInitializerTo _ => .initializer
  | .setAccessors _ => .accessors
  | .addParameters _ => .parameters
  | .setBody _ => .body
  | .setTarget _ => .target
  | .addAttributes _ => .attributes
  | .setAlias _ => .aliasName
  | .setStatic _ => .isStatic
  | .setName _ => .name
  | .setNameTo _ => .name
  | .setArgumentListTo _ => .argumentList
  | .addArguments _ => .argumentList
  | .addArgument _ _ => .argumentList
  | .addNamedArgument _ _ _ => .argumentList
  | .addLiteralArgument _ _ => .argumentList

/-- What an edit does to the slot it addresses, unless a text of it does not parse. -/
def change : (edit : Edit) → Except ParseError (Change edit.slot)
  | .setModifiers modifiers => .ok (.replace modifiers)
  | .setBases texts => (parseAll TypeRef.parse texts).map fun bases => .replace (some bases)
  | .setBasesTo bases => .ok (.replace bases)
  | .addUsings texts => (Using.parseAll texts).map fun usings => .add usings
  | .addUsingDirectives usings => .ok (.add usings)
  | .setUsingDirectives usings => .ok (.replace usings)
  | .addAttribute a => .ok (.add [.single a])
  | .addAttributeLists lists => .ok (.add lists)
  | .setAttributeLists lists => .ok (.replace lists)
  | .addEnumMembers members => .ok (.add members)
  | .addMembers members => .ok (.add members)
  | .setMembers members => .ok (.replace members)
  | .setIdentifier identifier => .ok (.replace identifier)
  | .setUnderlying type => .ok (.replace type)
  | .setValue text => (parseOption Expr.parse text).map fun value => .replace value
  | .setValueTo value => .ok (.replace value)
  | .setDeclarators declarators => (Declarator.parseAll declarators).map fun found => .add [found]
  | .setDeclaratorsTo declarators => .ok (.add [declarators])
  | .setDeclaration type declarators => .ok (.replace (type, declarators))
  | .setInitializer text =>
    (parseOption Expr.parse text).map fun initializer => .replace initializer
  | .setInitializerTo initializer => .ok (.replace initializer)
  | .setAccessors accessors => .ok (.replace accessors)
  | .addParameters parameters => .ok (.add parameters)
  | .setBody body => .ok (.replace body)
  | .setTarget target => .ok (.replace target)
  | .addAttributes attributes => .ok (.add attributes)
  | .setAlias aliasName => .ok (.replace (some aliasName))
  | .setStatic isStatic => .ok (.replace isStatic)
  | .setName text => (Name.parse text).map fun name => .replace name
  | .setNameTo name => .ok (.replace name)
  | .setArgumentListTo arguments => .ok (.replace arguments)
  | .addArguments arguments => .ok (.add arguments)
  | .addArgument format value =>
    (AttributeArgument.ofText (format.apply none value)).map fun argument => .add [argument]
  | .addNamedArgument format name value =>
    (AttributeArgument.ofText (format.named name value)).map fun argument => .add [argument]
  | .addLiteralArgument name value =>
    (AttributeArgument.ofLiteral name value).map fun argument => .add [argument]

end Edit

/-- Adding a text to an attribute is reading it and adding what was read. -/
theorem Attribute.addText_eq (a : Attribute) (text : String) :
    a.addText text = (AttributeArgument.ofText text).map a.add := by
  unfold addText AttributeArgument.ofText
  cases Expr.parse text <;> rfl

/-- Adding a value to an attribute is writing it as an expression and adding that. -/
theorem Attribute.addLiteral_eq (a : Attribute) (name : Option String) (value : LiteralValue) :
    a.addLiteral name value = (AttributeArgument.ofLiteral name value).map a.add := by
  unfold addLiteral AttributeArgument.ofLiteral
  cases value.toExpr with
  | error e => rfl
  | ok expr =>
    cases name with
    | none => rfl
    | some text =>
      simp only [parseOption]
      cases Name.parseIdentifier .argumentName text <;> rfl

namespace Node

/-- The slot that an edit addresses, if the node has it. Members and identifiers are replaced in
classes only. -/
def addressed? (node : Node) : (edit : Edit) → Option (Focus edit.slot)
  | .setMembers _ => if node.isClass then node.focus .members else none
  | .setIdentifier _ => if node.isClass then node.focus .identifier else none
  | edit => node.focus edit.slot

/-- The node with the slot changed that an edit addresses. -/
def changed {slot : Slot} (focus : Focus slot) (change : Except ParseError (Change slot)) :
    Except EditError Node :=
  parsed (fun change => focus.put (change.apply focus.content)) change

/-- What is done with the text of an edit can be moved into what is done with the node. -/
theorem parsed_map {α β : Type} (wrap : β → Node) (f : α → β) (result : Except ParseError α) :
    parsed wrap (result.map f) = parsed (wrap ∘ f) result := by
  cases result <;> rfl

/-- An edit is the change of the slot that it addresses. -/
theorem apply_eq (node : Node) (edit : Edit) :
    node.apply edit = match node.addressed? edit with
      | some focus => changed focus edit.change
      | none => .error .unsupported := by
  cases edit <;> cases node
  case setMembers.type members d | setIdentifier.type identifier d =>
    simp only [apply, addressed?]
    cases (Node.type d).isClass <;> rfl
  -- Where texts are read, the reading is moved out of the change.
  all_goals first
    | rfl
    | simp only [apply, Attribute.addPositional, Attribute.addNamed, Attribute.addText_eq,
        Attribute.addLiteral_eq, addressed?, changed, Edit.change, parsed_map]
      rfl

end Node

end DeclScribe
