import DeclScribe.Fragment.LiteralValue

/-!
# Attributes

An attribute is a name with an optional list of arguments; attributes stand in lists, which may say
what they apply to. An argument is given a name in one of two ways: by a label in front of its
expression, or by being an assignment expression.

Arguments are built along two routes. The text route writes the value as text, between quotes if
asked, behind `name = ` if it has a name, and parses the result. The typed route makes the
expression from a `LiteralValue` and keeps the name as a label.
-/

set_option autoImplicit false

namespace DeclScribe

structure AttributeArgument where
  label : Option String
  value : Expr
deriving Repr, DecidableEq, Inhabited

namespace AttributeArgument

/-- The name of a named argument: its label, or the left side of an assignment. -/
def name? (argument : AttributeArgument) : Option String :=
  match argument.label, argument.value with
  | some label, _ => some label
  | none, .assign left _ => some left.print
  | none, _ => none

def print (argument : AttributeArgument) : String :=
  match argument.label with
  | some label => label ++ " = " ++ argument.value.print
  | none => argument.value.print

end AttributeArgument

/-- An attribute. An empty argument list is not the same as none: it prints its parentheses. -/
structure Attribute where
  name : Name
  argumentList : Option (List AttributeArgument) := none
deriving Repr, DecidableEq, Inhabited

namespace Attribute

/-- The arguments, none without a list. -/
def arguments (a : Attribute) : List AttributeArgument :=
  a.argumentList.getD []

def add (a : Attribute) (argument : AttributeArgument) : Attribute :=
  { a with argumentList := some (a.arguments ++ [argument]) }

def print (a : Attribute) : String :=
  match a.argumentList with
  | none => a.name.print
  | some arguments =>
    a.name.print ++ "(" ++ Text.commaSeparated (arguments.map (·.print)) ++ ")"

/-- The attribute without arguments that a text names. -/
def parse (text : String) : Except ParseError Attribute :=
  match Name.parse text with
  | .error e => .error e
  | .ok name => .ok { name }

end Attribute

/-- What the attributes of a list apply to. -/
inductive AttributeTarget where
  | assembly | module | field | event | method | param | property | return | type
deriving Repr, DecidableEq, Inhabited

namespace AttributeTarget

def all : List AttributeTarget :=
  [.assembly, .module, .field, .event, .method, .param, .property, .return, .type]

def word : AttributeTarget → String
  | .assembly => "assembly"
  | .module => "module"
  | .field => "field"
  | .event => "event"
  | .method => "method"
  | .param => "param"
  | .property => "property"
  | .return => "return"
  | .type => "type"

def ofWord? (word : String) : Option AttributeTarget :=
  all.find? fun target => target.word == word

end AttributeTarget

/-- A list of attributes in one pair of brackets. -/
structure AttributeList where
  target : Option AttributeTarget := none
  attributes : List Attribute := []
deriving Repr, DecidableEq, Inhabited

namespace AttributeList

/-- A list of one attribute that does not say what it applies to. -/
def single (a : Attribute) : AttributeList :=
  { attributes := [a] }

def print (list : AttributeList) : String :=
  let target := match list.target with
    | some target => target.word ++ ": "
    | none => ""
  "[" ++ target ++ Text.commaSeparated (list.attributes.map (·.print)) ++ "]"

end AttributeList

/-- Whether the text of an argument stands between quotes. -/
inductive ArgumentFormat where
  | unquoted | quoted
deriving Repr, DecidableEq, Inhabited

namespace ArgumentFormat

/-- The text of an argument. Quoting puts quotes around the value as it is. -/
def apply (format : ArgumentFormat) (name : Option String) (value : String) : String :=
  let shown := match format with
    | .unquoted => value
    | .quoted => "\"" ++ value ++ "\""
  match name with
  | some name => name ++ " = " ++ shown
  | none => shown

/-- The text of a named argument; a missing value is null whatever the format. -/
def named (format : ArgumentFormat) (name : String) : Option String → String
  | some value => format.apply (some name) value
  | none => name ++ " = null"

end ArgumentFormat

namespace Attribute

/-- The text route: the argument that a text is as an expression. -/
def addText (a : Attribute) (text : String) : Except ParseError Attribute :=
  match Expr.parse text with
  | .error e => .error e
  | .ok value => .ok (a.add ⟨none, value⟩)

def addPositional (a : Attribute) (format : ArgumentFormat) (value : String) :
    Except ParseError Attribute :=
  a.addText (format.apply none value)

def addNamed (a : Attribute) (format : ArgumentFormat) (name : String)
    (value : Option String) : Except ParseError Attribute :=
  a.addText (format.named name value)

/-- The typed route: the argument that a value is, with its name as a label. -/
def addLiteral (a : Attribute) (name : Option String) (value : LiteralValue) :
    Except ParseError Attribute :=
  match value.toExpr with
  | .error e => .error e
  | .ok expr =>
    match name with
    | none => .ok (a.add ⟨none, expr⟩)
    | some text =>
      match Name.parseIdentifier .argumentName text with
      | .error e => .error e
      | .ok label => .ok (a.add ⟨some label, expr⟩)

end Attribute

end DeclScribe
