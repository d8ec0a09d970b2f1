import DeclScribe.Fragment.Literal
import DeclScribe.Fragment.Name

/-!
# Expressions

The expressions that can stand in a declaration: literals, names, member accesses, prefix
operators, `typeof`, `nameof` and assignments to a name. Printing is canonical; the only space it
puts in by need keeps two equal signs apart, which would otherwise read as one operator.
-/

set_option autoImplicit false

namespace DeclScribe

/-- Operators that stand before their operand. -/
inductive PrefixOp where
  | minus | plus | not | complement
deriving Repr, DecidableEq, Inhabited

def PrefixOp.sign : PrefixOp → Char
  | .minus => '-'
  | .plus => '+'
  | .not => '!'
  | .complement => '~'

/-- Whether the sign written twice is another operator. -/
def PrefixOp.doubles : PrefixOp → Bool
  | .minus => true
  | .plus => true
  | .not => false
  | .complement => false

inductive Expr where
  /-- A literal. -/
  | literal (value : Literal)
  /-- A name used as a value. -/
  | name (path : Name)
  /-- A predefined type, to access its members. -/
  | predefined (type : Predefined)
  /-- A member of a value or type. -/
  | member (receiver : Expr) (field : String)
  /-- An operator before its operand. -/
  | unary (op : PrefixOp) (operand : Expr)
  /-- An expression in parentheses. -/
  | paren (inner : Expr)
  /-- The type object of a type. -/
  | typeOf (type : TypeRef)
  /-- The name of an expression. -/
  | nameOf (inner : Expr)
  /-- An assignment. -/
  | assign (left right : Expr)
deriving Repr, DecidableEq, Inhabited

namespace Expr

def identifier (text : String) : Expr := .name (.identifier text)

/-- The spelling of an operator before an operand that is already spelled. -/
def printUnary (op : PrefixOp) (operand : String) : String :=
  if op.doubles && operand.toList.head? == some op.sign then
    op.sign.toString ++ " " ++ operand
  else op.sign.toString ++ operand

def print : Expr → String
  | .literal value => value.token
  | .name path => path.print
  | .predefined type => type.word
  | .member receiver field => receiver.print ++ "." ++ field
  | .unary op operand => printUnary op operand.print
  | .paren inner => "(" ++ inner.print ++ ")"
  | .typeOf type => "typeof(" ++ type.print ++ ")"
  | .nameOf inner => "nameof(" ++ inner.print ++ ")"
  | .assign left right => left.print ++ " = " ++ right.print

def literal? : Expr → Option Literal
  | .literal value => some value
  | _ => none

end Expr

end DeclScribe
