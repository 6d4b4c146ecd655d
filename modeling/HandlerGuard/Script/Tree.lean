import HandlerGuard.Text.Basic

/-!
Syntax trees of script text.

Only what later questions ask for has a constructor of its own: names, calls, conditionals and spread
elements. Everything else is a node of some kind with its parts in the order they are visited. Every
node carries the range of text it was read from, and parentheses are nodes of their own.
-/
namespace HandlerGuard.Script

/-- The kinds of node that the reading of patterns and operators tells apart. -/
inductive NodeKind where
  | literal
  | stringLiteral
  /-- A name that stands for itself, such as the name of a property. -/
  | label
  | template
  | member
  | optionalChain
  | construction
  | dynamicImport
  | parenthesized
  | array
  | elision
  | object
  /-- A key and a value, in a literal or in a pattern. -/
  | property
  /-- A property that is only a name, perhaps with an initial value. -/
  | shorthand
  | function
  | arrow
  | classDefinition
  | unary
  | await
  | binary
  /-- The question whether an object has a private name. -/
  | privateLookup
  /-- A conjunction or a disjunction. -/
  | connective
  /-- A choice of the second operand where the first is missing. -/
  | coalescence
  | assignment
  | compoundAssignment
  | sequence
  /-- An expression with a type asserted of it. -/
  | assertion
  /-- An expression with type arguments. -/
  | instantiation
  | arrayPattern
  | objectPattern
  /-- A pattern with an initial value. -/
  | defaulted
  /-- A pattern with a type. -/
  | annotated
  | rest
  | markup
  | typeExpression
  /-- A type with a question mark after it. -/
  | optionalType
  /-- A type of arrays, or of tuples. -/
  | listType
  | expressionStatement
  | statement
  | declaration
  | part
deriving DecidableEq, Repr, Inhabited

/-- A syntax tree. -/
inductive Tree where
  /-- A name that refers to or introduces a binding. -/
  | identifier (span : Span) (name : Text)
  /-- A call; `optional` tells that it is skipped where the callee is missing. -/
  | call (span : Span) (callee : Tree) (typeArguments arguments : List Tree) (optional : Bool)
  | conditional (span : Span) (test consequent alternate : Tree)
  | spread (span : Span) (argument : Tree)
  | node (span : Span) (kind : NodeKind) (children : List Tree)
deriving Repr, Inhabited

namespace Tree

/-- The range of text the tree was read from. -/
def span : Tree → Span
  | identifier s _ => s
  | call s _ _ _ _ => s
  | conditional s _ _ _ => s
  | spread s _ => s
  | node s _ _ => s

def hasKind (t : Tree) (kind : NodeKind) : Bool :=
  match t with
  | node _ k _ => k = kind
  | _ => false

def isIdentifier : Tree → Bool
  | identifier _ _ => true
  | _ => false

def isSpread : Tree → Bool
  | spread _ _ => true
  | _ => false

/-- The tree is a spread element whose argument is an array or object literal. -/
def spreadsLiteral : Tree → Bool
  | spread _ (node _ .array _) => true
  | spread _ (node _ .object _) => true
  | _ => false

/-- Whether what remains without parentheses and type assertions is a name or a member. -/
def isPlace : Tree → Bool
  | identifier _ _ => true
  | node _ .member _ => true
  | node _ .parenthesized [inner] => isPlace inner
  | node _ .assertion (inner :: _) => isPlace inner
  | _ => false

/-- Whether the tree may stand where a value is stored, and is not a pattern: a name, a member, either
of them in parentheses or with a type asserted. -/
def isSimpleTarget : Tree → Bool
  | identifier _ _ => true
  | node _ .member _ => true
  | node _ .parenthesized [inner] => isSimpleTarget inner
  | node _ .assertion (inner :: _) => isPlace inner
  | _ => false

mutual

/-- The names that a binding pattern introduces. -/
def boundNames : Tree → List Text
  | identifier _ name => [name]
  | node _ .arrayPattern children => boundNamesOf children
  | node _ .objectPattern children => boundNamesOf children
  | node _ .property [_, value] => boundNames value
  | node _ .defaulted (pattern :: _) => boundNames pattern
  | node _ .annotated (pattern :: _) => boundNames pattern
  | node _ .rest (pattern :: _) => boundNames pattern
  | _ => []

/-- The names that some binding patterns introduce. -/
def boundNamesOf : List Tree → List Text
  | [] => []
  | t :: rest => boundNames t ++ boundNamesOf rest

end

end Tree

end HandlerGuard.Script
