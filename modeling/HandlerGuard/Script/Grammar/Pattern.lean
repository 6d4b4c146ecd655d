import HandlerGuard.Script.Grammar.Name

namespace HandlerGuard.Script.Parser

/-- An initial value after `=`. -/
def initializer (g : Grammar) : Parser (List Tree) := do
  if ← accept "=" then return [← withIn (assignment g)] else return []

/-- A pattern with what may follow it where types may be written: a type and, if it is optional, a
question mark. -/
def annotatedPattern (g : Grammar) (optional : Bool) : Parser Tree := do
  let start ← here
  let p ← g .pattern
  if (← context).types && optional then
    let _ ← accept "?"
  match ← typeAnnotation g with
  | [] => return p
  | annotation => nodeFrom start .annotated (p :: annotation)

/-- A pattern with what may follow it and perhaps an initial value. -/
def patternWithDefault (g : Grammar) : Parser Tree := do
  let start ← here
  let p ← annotatedPattern g true
  match ← initializer g with
  | [] => return p
  | value => nodeFrom start .defaulted (p :: value)

/-- What takes the rest of a list, after its pattern. It has no initial value. -/
def restFrom (g : Grammar) (start : Nat) (parts : List Tree) : Parser Tree := do
  if ← sees "=" then
    note
    let _ ← initializer g
  nodeFrom start .rest parts

/-- A pattern after three dots inside another pattern. -/
def restPattern (g : Grammar) : Parser Tree := do
  let start ← here
  expect "..."
  let p ← g .pattern
  restFrom g start [p]

/-- A bounded number of patterns up to `close`. What follows three dots stands last, and no comma
follows it except in declarations of things defined elsewhere. -/
def patternsWithin (close : String) (item rest : Parser Tree) : Nat → Parser (List Tree)
  | 0 => fail
  | n + 1 => do
      if ← sees close then return []
      else if ← sees "..." then
        let p ← rest
        if ← accept "," then
          if ← sees close then
            noteIf !(← context).ambient
            return [p]
          else
            note
            let others ← patternsWithin close item rest n
            return p :: others
        else if ← sees close then return [p]
        else fail
      else
        let p ← item
        if ← accept "," then
          let others ← patternsWithin close item rest n
          return p :: others
        else if ← sees close then return [p]
        else fail

/-- Patterns up to `close`. -/
def patterns (close : String) (item rest : Parser Tree) : Parser (List Tree) := do
  patternsWithin close item rest (← budget)

def patternProperty (g : Grammar) : Parser Tree := do
  let start ← here
  let t ← current
  if t.isBindingName then
    let key ← propertyKey g
    if ← accept ":" then
      let value ← patternWithDefault g
      nodeFrom start .property [key, value]
    else
      checkBinding t
      let name := Tree.identifier ⟨t.start, t.stop⟩ t.text
      match ← initializer g with
      | [] => return name
      | value => nodeFrom start .defaulted (name :: value)
  else
    let key ← propertyKey g
    expect ":"
    let value ← patternWithDefault g
    nodeFrom start .property [key, value]

/-- What follows three dots in an object pattern: a name. -/
def namedRest (g : Grammar) : Parser Tree := do
  let p ← restPattern g
  match p with
  | .node _ .rest (target :: _) => if target.isIdentifier then return p else fail
  | _ => fail

/-- A binding pattern: a name, an object pattern or an array pattern. -/
def pattern (g : Grammar) : Parser Tree := do
  let start ← here
  if ← accept "\x7b" then
    let properties ← patterns "\x7d" (patternProperty g) (namedRest g)
    expect "\x7d"
    nodeFrom start .objectPattern properties
  else if ← accept "[" then
    let hole : Parser Tree := do nodeFrom (← here) .elision []
    let item : Parser Tree := do if ← sees "," then hole else patternWithDefault g
    let elements ← patterns "]" item (restPattern g)
    expect "]"
    nodeFrom start .arrayPattern elements
  else bindingName

/-- Takes an expression that only a name or a member, perhaps in parentheses or with a type asserted,
can be. -/
def takeSimpleTarget (t : Tree) : Parser Unit :=
  if t.isSimpleTarget then pure () else fail

mutual

/-- Takes an expression as the target of an assignment: a pattern or a simple target. The rest of an
object goes to a simple target. -/
def takeTarget : Tree → Parser Unit
  | .node span .array elements => do
      takeElements elements
      noteIf (elements.getLast?.any Tree.isSpread && (← state).trailing.contains span.start)
  | .node span .object properties => do
      takeElements properties
      noteIf (properties.any Tree.spreadsLiteral)
      noteIf (properties.getLast?.any Tree.isSpread && (← state).trailing.contains span.start)
  | t => takeSimpleTarget t

/-- Takes the elements of an array or object literal as parts of a pattern. A spread element stands
last. -/
def takeElements : List Tree → Parser Unit
  | [] => pure ()
  | .spread _ target :: others => do
      takeTarget target
      if others.isEmpty then pure () else fail
  | element :: others => do
      takeElement element
      takeElements others

/-- Takes an element of an array or object literal as part of a pattern. A plain assignment gives an
initial value. -/
def takeElement : Tree → Parser Unit
  | .node _ .elision _ => pure ()
  | .node _ .assignment _ => pure ()
  | .node _ .compoundAssignment _ => fail
  | .node span .shorthand _ =>
      modify fun s => { s with initialized := s.initialized.filter (· != span.start) }
  | .node _ .property [_, value] => takeElement value
  | t => takeTarget t

end

end HandlerGuard.Script.Parser
