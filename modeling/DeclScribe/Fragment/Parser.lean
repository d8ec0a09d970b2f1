import DeclScribe.Fragment.Expr
import DeclScribe.Token.Lexer

/-!
# Parsing fragments

The grammar, over tokens:

* a name is an optional alias with `::`, then simple names with dots between them;
* a simple name is an identifier with optional type arguments in angle brackets;
* a type is a predefined type or a name, followed by any number of `?` and `[,]` suffixes;
* an expression is a prefix or postfix expression, or an identifier with `=` and an expression;
* a postfix expression is a primary one followed by member names with dots;
* a primary expression is a literal, a parenthesised expression, `typeof` of a type, `nameof` of an
  expression, a predefined type, or an identifier with an optional alias.

A parsing step takes the tokens ahead and returns what it read with the tokens that are left. The
type of the result says that these are fewer, which is why parsing ends. `stop` is the place where
the text ends, needed only to report that it ended too early.
-/

set_option autoImplicit false

namespace DeclScribe

namespace Parser

/-- The tokens left after something was read. -/
abbrev Fewer (ahead : List Token) := { left : List Token // left.length < ahead.length }

/-- The tokens left after something may have been read. -/
abbrev NoMore (ahead : List Token) := { left : List Token // left.length ≤ ahead.length }

/-- Whether the next token is of the given kind. -/
def nextIs (kind : TokenKind) : List Token → Bool
  | t :: _ => t.kind == kind
  | [] => false

/-- The error that something else stands ahead than what is needed. -/
def unmet (stop : Position) (what : Expectation) : List Token → ParseError
  | t :: _ => .expected what t.describe t.pos
  | [] => .expected what endOfInput stop

def expect (stop : Position) (kind : TokenKind) (what : Expectation) (ahead : List Token) :
    Except ParseError (Fewer ahead) :=
  match ahead with
  | t :: rest =>
    if t.kind = kind then .ok ⟨rest, by simp⟩ else .error (unmet stop what (t :: rest))
  | [] => .error (unmet stop what [])

/-- Whether the text of an identifier token is marked as an identifier although it may be a
reserved word. -/
def isVerbatim (lexeme : String) : Bool :=
  lexeme.toList.head? == some '@'

/-- Reads an identifier that is used in the given role. -/
def identifier (stop : Position) (role : NameRole) (ahead : List Token) :
    Except ParseError (String × Fewer ahead) :=
  match ahead with
  | t :: rest =>
    if t.kind = .identifier then
      if !isVerbatim t.lexeme && isReserved t.lexeme then
        .error (.reservedKeyword t.lexeme role t.pos)
      else .ok (t.lexeme, ⟨rest, by simp⟩)
    else .error (unmet stop .identifier (t :: rest))
  | [] => .error (unmet stop .identifier [])

/-- Reads the `?` and `[,]` suffixes of a type. -/
def typeSuffixes (stop : Position) (type : TypeRef) (ahead : List Token) :
    Except ParseError (TypeRef × NoMore ahead) :=
  match ahead with
  | [] => .ok (type, ⟨[], Nat.le_refl _⟩)
  | t :: rest =>
    if t.kind = .question then
      match typeSuffixes stop (.nullable type) rest with
      | .error e => .error e
      | .ok (whole, ⟨left, fewer⟩) => .ok (whole, ⟨left, by simp; omega⟩)
    else if t.kind = .leftBracket then
      let commas := rest.takeWhile fun u => u.kind == .comma
      match expect stop .rightBracket .closeBracket (rest.drop commas.length) with
      | .error e => .error e
      | .ok ⟨behind, shorter⟩ =>
        have : behind.length < rest.length := by
          simp only [List.length_drop] at shorter
          omega
        match typeSuffixes stop (.array type (commas.length + 1)) behind with
        | .error e => .error e
        | .ok (whole, ⟨left, fewer⟩) => .ok (whole, ⟨left, by simp; omega⟩)
    else .ok (type, ⟨t :: rest, Nat.le_refl _⟩)
termination_by ahead.length
decreasing_by
  · simp
  · simp
    omega

def predefined? (t : Token) : Option Predefined :=
  if t.kind = .identifier then Predefined.ofWord? t.lexeme else none

mutual

def simpleName (stop : Position) (ahead : List Token) :
    Except ParseError (Name × Fewer ahead) :=
  match identifier stop .name ahead with
  | .error e => .error e
  | .ok (text, ⟨[], fewer⟩) => .ok (.identifier text, ⟨[], fewer⟩)
  | .ok (text, ⟨t :: rest, fewer⟩) =>
    if t.kind = .less then
      match typeRef stop rest with
      | .error e => .error e
      | .ok (first, ⟨behind, shorter⟩) =>
        match moreArguments stop behind with
        | .error e => .error e
        | .ok (more, ⟨tail, noLonger⟩) =>
          match expect stop .greater .closeAngle tail with
          | .error e => .error e
          | .ok ⟨left, least⟩ =>
            .ok (.generic text (first :: more), ⟨left, by simp at fewer; omega⟩)
    else .ok (.identifier text, ⟨t :: rest, fewer⟩)
termination_by 4 * ahead.length + 1
decreasing_by all_goals (simp at fewer; omega)

/-- Reads the type arguments behind the first one. -/
def moreArguments (stop : Position) (ahead : List Token) :
    Except ParseError (List TypeRef × NoMore ahead) :=
  match ahead with
  | [] => .ok ([], ⟨[], Nat.le_refl _⟩)
  | t :: rest =>
    if t.kind = .comma then
      match typeRef stop rest with
      | .error e => .error e
      | .ok (type, ⟨behind, shorter⟩) =>
        match moreArguments stop behind with
        | .error e => .error e
        | .ok (more, ⟨left, noLonger⟩) => .ok (type :: more, ⟨left, by simp; omega⟩)
    else .ok ([], ⟨t :: rest, Nat.le_refl _⟩)
termination_by 4 * ahead.length
decreasing_by all_goals (simp; omega)

def qualifiedTail (stop : Position) (left : Name) (ahead : List Token) :
    Except ParseError (Name × NoMore ahead) :=
  match ahead with
  | [] => .ok (left, ⟨[], Nat.le_refl _⟩)
  | t :: rest =>
    if t.kind = .dot then
      match simpleName stop rest with
      | .error e => .error e
      | .ok (right, ⟨behind, shorter⟩) =>
        match qualifiedTail stop (.qualified left right) behind with
        | .error e => .error e
        | .ok (whole, ⟨tail, noLonger⟩) => .ok (whole, ⟨tail, by simp; omega⟩)
    else .ok (left, ⟨t :: rest, Nat.le_refl _⟩)
termination_by 4 * ahead.length
decreasing_by all_goals (simp; omega)

def name (stop : Position) (ahead : List Token) : Except ParseError (Name × Fewer ahead) :=
  match simpleName stop ahead with
  | .error e => .error e
  | .ok (first, ⟨[], fewer⟩) => .ok (first, ⟨[], fewer⟩)
  | .ok (first, ⟨t :: rest, fewer⟩) =>
    if t.kind = .doubleColon then
      match first with
      | .identifier qualifier =>
        match simpleName stop rest with
        | .error e => .error e
        | .ok (inner, ⟨behind, shorter⟩) =>
          match qualifiedTail stop (.aliased qualifier inner) behind with
          | .error e => .error e
          | .ok (whole, ⟨left, noLonger⟩) => .ok (whole, ⟨left, by simp at fewer; omega⟩)
      | other => .error (.expected .aliasIdentifier ("'" ++ other.print ++ "'") t.pos)
    else
      match qualifiedTail stop first (t :: rest) with
      | .error e => .error e
      | .ok (whole, ⟨left, noLonger⟩) =>
        .ok (whole, ⟨left, by simp at fewer noLonger; omega⟩)
termination_by 4 * ahead.length + 2
decreasing_by
  · omega
  all_goals (simp at fewer ⊢; omega)

def typeRef (stop : Position) (ahead : List Token) :
    Except ParseError (TypeRef × Fewer ahead) :=
  match ahead with
  | [] => .error (unmet stop .identifier [])
  | t :: rest =>
    match predefined? t with
    | some type =>
      match typeSuffixes stop (.predefined type) rest with
      | .error e => .error e
      | .ok (whole, ⟨left, noLonger⟩) => .ok (whole, ⟨left, by simp; omega⟩)
    | none =>
      match name stop (t :: rest) with
      | .error e => .error e
      | .ok (path, ⟨behind, fewer⟩) =>
        match typeSuffixes stop (.named path) behind with
        | .error e => .error e
        | .ok (whole, ⟨left, noLonger⟩) => .ok (whole, ⟨left, by simp at fewer ⊢; omega⟩)
termination_by 4 * ahead.length + 3

end

def literal? (t : Token) : Option Literal :=
  match t.kind with
  | .string => some ⟨.string, t.lexeme⟩
  | .char => some ⟨.char, t.lexeme⟩
  | .number => some ⟨.numeric, t.lexeme⟩
  | .identifier =>
    if t.lexeme = "true" then some ⟨.true, t.lexeme⟩
    else if t.lexeme = "false" then some ⟨.false, t.lexeme⟩
    else if t.lexeme = "null" then some ⟨.null, t.lexeme⟩
    else none
  | _ => none

/-- The operator that a token is before its operand. -/
def prefixOp? (t : Token) : Option PrefixOp :=
  match t.kind with
  | .minus => some .minus
  | .plus => some .plus
  | .bang => some .not
  | .tilde => some .complement
  | _ => none

/-- Reads an identifier as an expression, or one inside an alias. -/
def nameExpression (stop : Position) (ahead : List Token) :
    Except ParseError (Expr × Fewer ahead) :=
  match identifier stop .expression ahead with
  | .error e => .error e
  | .ok (text, ⟨[], fewer⟩) => .ok (.identifier text, ⟨[], fewer⟩)
  | .ok (text, ⟨t :: rest, fewer⟩) =>
    if t.kind = .doubleColon then
      match identifier stop .name rest with
      | .error e => .error e
      | .ok (inner, ⟨left, shorter⟩) =>
        .ok (.name (.aliased text (.identifier inner)), ⟨left, by simp at fewer; omega⟩)
    else .ok (.identifier text, ⟨t :: rest, fewer⟩)

def memberTail (stop : Position) (receiver : Expr) (ahead : List Token) :
    Except ParseError (Expr × NoMore ahead) :=
  match ahead with
  | [] => .ok (receiver, ⟨[], Nat.le_refl _⟩)
  | t :: rest =>
    if t.kind = .dot then
      match identifier stop .memberName rest with
      | .error e => .error e
      | .ok (field, ⟨behind, shorter⟩) =>
        match memberTail stop (.member receiver field) behind with
        | .error e => .error e
        | .ok (whole, ⟨left, noLonger⟩) => .ok (whole, ⟨left, by simp; omega⟩)
    else .ok (receiver, ⟨t :: rest, Nat.le_refl _⟩)
termination_by ahead.length
decreasing_by
  simp
  omega

/-- Reads `typeof` and its type. -/
def typeOf (stop : Position) (ahead : List Token) : Except ParseError (Expr × Fewer ahead) :=
  match expect stop .leftParen .openParen ahead with
  | .error e => .error e
  | .ok ⟨inside, fewer⟩ =>
    match typeRef stop inside with
    | .error e => .error e
    | .ok (type, ⟨behind, shorter⟩) =>
      match expect stop .rightParen .closeParen behind with
      | .error e => .error e
      | .ok ⟨left, least⟩ => .ok (.typeOf type, ⟨left, by omega⟩)

def nextPosition (stop : Position) : List Token → Position
  | t :: _ => t.pos
  | [] => stop

mutual

def expression (stop : Position) (ahead : List Token) :
    Except ParseError (Expr × Fewer ahead) :=
  match unary stop ahead with
  | .error e => .error e
  | .ok (left, ⟨[], fewer⟩) => .ok (left, ⟨[], fewer⟩)
  | .ok (left, ⟨t :: rest, fewer⟩) =>
    if t.kind = .equals then
      match left with
      | .name (.identifier target) =>
        match expression stop rest with
        | .error e => .error e
        | .ok (right, ⟨behind, shorter⟩) =>
          .ok (.assign (.identifier target) right, ⟨behind, by simp at fewer; omega⟩)
      | other => .error (.invalidAssignmentTarget other.print (nextPosition stop ahead))
    else .ok (left, ⟨t :: rest, fewer⟩)
termination_by 4 * ahead.length + 2
decreasing_by
  · omega
  · simp at fewer
    omega

/-- Reads an expression that is no assignment. -/
def unary (stop : Position) (ahead : List Token) : Except ParseError (Expr × Fewer ahead) :=
  match ahead with
  | [] => .error (unmet stop .expression [])
  | t :: rest =>
    match prefixOp? t with
    | some op =>
      match unary stop rest with
      | .error e => .error e
      | .ok (operand, ⟨left, fewer⟩) => .ok (.unary op operand, ⟨left, by simp; omega⟩)
    | none =>
      match primary stop (t :: rest) with
      | .error e => .error e
      | .ok (receiver, ⟨behind, fewer⟩) =>
        match memberTail stop receiver behind with
        | .error e => .error e
        | .ok (whole, ⟨left, noLonger⟩) => .ok (whole, ⟨left, by simp at fewer ⊢; omega⟩)
termination_by 4 * ahead.length + 1
decreasing_by all_goals simp

/-- Reads an expression in parentheses up to the closing one. -/
def enclosed (stop : Position) (ahead : List Token) : Except ParseError (Expr × Fewer ahead) :=
  match expression stop ahead with
  | .error e => .error e
  | .ok (inner, ⟨behind, fewer⟩) =>
    match expect stop .rightParen .closeParen behind with
    | .error e => .error e
    | .ok ⟨left, shorter⟩ => .ok (inner, ⟨left, by omega⟩)
termination_by 4 * ahead.length + 3
decreasing_by omega

/-- Reads an expression without operators, assignments and member names. -/
def primary (stop : Position) (ahead : List Token) : Except ParseError (Expr × Fewer ahead) :=
  match ahead with
  | [] => .error (unmet stop .expression [])
  | t :: rest =>
    match literal? t with
    | some value => .ok (.literal value, ⟨rest, by simp⟩)
    | none =>
      if t.kind = .leftParen then
        match enclosed stop rest with
        | .error e => .error e
        | .ok (inner, ⟨left, fewer⟩) => .ok (.paren inner, ⟨left, by simp; omega⟩)
      else if t.kind = .identifier then
        if t.lexeme = "typeof" then
          match typeOf stop rest with
          | .error e => .error e
          | .ok (whole, ⟨left, fewer⟩) => .ok (whole, ⟨left, by simp; omega⟩)
        else if t.lexeme = "nameof" ∧ nextIs .leftParen rest then
          match enclosed stop rest.tail with
          | .error e => .error e
          | .ok (inner, ⟨left, fewer⟩) =>
            .ok (.nameOf inner, ⟨left, by simp at fewer ⊢; omega⟩)
        else
          match predefined? t with
          | some type => .ok (.predefined type, ⟨rest, by simp⟩)
          | none => nameExpression stop (t :: rest)
      else .error (unmet stop .expression (t :: rest))
termination_by 4 * ahead.length
decreasing_by
  · simp
    omega
  · cases rest with
    | nil => simp_all [nextIs]
    | cons _ _ =>
      simp
      omega

end

end Parser

end DeclScribe
