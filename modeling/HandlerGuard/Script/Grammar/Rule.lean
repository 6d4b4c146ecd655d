import HandlerGuard.Script.Grammar.Basic

namespace HandlerGuard.Script

/-- Where a statement stands. -/
inductive Place where
  /-- In a list of statements. -/
  | list
  /-- As the body of another statement. -/
  | body
deriving DecidableEq, Repr

/-- What can be read anywhere inside something else. -/
inductive Rule where
  /-- An expression without commas; `returnTypes` tells that an arrow function may have a return
  type. -/
  | assignment (returnTypes : Bool)
  /-- An expression whose operators bind tighter than `least`. -/
  | binary (least : Nat)
  /-- An expression without binary operators. -/
  | unary
  /-- An expression that may be called or assigned to. -/
  | leftHand
  /-- What `new` is applied to. -/
  | constructed
  /-- A binding pattern. -/
  | pattern
  /-- A type. -/
  | type
  /-- A type without `|` and `&`. -/
  | typeOperand
  /-- An element or a fragment after its `<`; `child` tells that it stands inside another. -/
  | element (child : Bool)
  /-- A statement or a declaration. -/
  | statement (place : Place)
deriving DecidableEq, Repr

abbrev Grammar := Rule → Parser Tree

namespace Parser

def assignment (g : Grammar) : Parser Tree := g (.assignment true)

/-- A node with the given parts, from `start` to the last token read. -/
def nodeFrom (start : Nat) (kind : NodeKind) (children : List Tree) : Parser Tree := do
  return .node (← spanFrom start) kind children

/-- An expression, with commas. It is not bound by the rules for decorators. -/
def expression (g : Grammar) : Parser Tree := do
  let start ← here
  match ← within ({ · with decorator := false }) (separated "," (assignment g)) with
  | [one] => return one
  | several => nodeFrom start .sequence several

/-- A type after a colon, where types may be written. -/
def typeAnnotation (g : Grammar) : Parser (List Tree) := do
  if (← context).types then
    if ← accept ":" then return [← g .type] else return []
  else return []

end Parser

end HandlerGuard.Script
