import HandlerGuard.Script.Grammar.Class

namespace HandlerGuard.Script.Parser

def spreadElement (g : Grammar) : Parser Tree := do
  let start ← here
  expect "..."
  let argument ← assignment g
  return .spread (← spanFrom start) argument

/-- An argument or an element: an expression or a spread element. -/
def element (g : Grammar) : Parser Tree := do
  if ← sees "..." then spreadElement g else assignment g

/-- Remembers that the literal that starts at `start` ends in a comma. -/
def noteTrailing (start : Nat) (comma : Bool) : Parser Unit :=
  if comma then modify fun s => { s with trailing := start :: s.trailing } else pure ()

def arrayLiteral (g : Grammar) : Parser Tree := do
  let start ← here
  expect "["
  let item : Parser Tree := do
    if ← sees "," then nodeFrom (← here) .elision [] else element g
  let (elements, comma) ← withIn (commaList "]" item)
  noteTrailing start comma
  expect "]"
  nodeFrom start .array elements

/-- A property that is only a name, perhaps with an initial value that only a pattern may hold. -/
def shorthandRest (g : Grammar) (start : Nat) (name : Tree) : Parser Tree := do
  if ← accept "=" then
    let value ← withIn (assignment g)
    modify fun s => { s with initialized := start :: s.initialized }
    nodeFrom start .shorthand [name, value]
  else nodeFrom start .shorthand [name]

def objectMethod (g : Grammar) (asynchronous generator : Bool)
    (check : FunctionParts → Parser Unit) : Parser Tree := do
  let start ← here
  let parts ← functionRest g .plain asynchronous generator true
  check parts
  methodFrom start parts

def property (g : Grammar) : Parser Tree := do
  let start ← here
  let found ← modifiers false false
  if ← accessorWord "get" then
    allowModifiers found []
    let key ← propertyKey g
    let value ← objectMethod g false false checkGetter
    nodeFrom start .property [key, value]
  else if ← accessorWord "set" then
    allowModifiers found []
    let key ← propertyKey g
    let value ← objectMethod g false false checkSetter
    nodeFrom start .property [key, value]
  else
    let generator ← accept "*"
    let t ← current
    let refers ← refers t
    let key ← propertyKey g
    if generator || (← seesOneOf ["(", "<"]) then
      allowModifiers found ["async"]
      let value ← objectMethod g (hasModifier found ["async"]) generator fun _ => pure ()
      nodeFrom start .property [key, value]
    else
      allowModifiers found []
      if refers && !(← sees ":") then
        shorthandRest g start (.identifier ⟨t.start, t.stop⟩ t.text)
      else
        expect ":"
        let value ← withIn (assignment g)
        nodeFrom start .property [key, value]

def objectLiteral (g : Grammar) : Parser Tree := do
  let start ← here
  expect "\x7b"
  let item : Parser Tree := do
    if ← sees "..." then spreadElement g else property g
  let (properties, comma) ← withIn (commaList "\x7d" item)
  noteTrailing start comma
  expect "\x7d"
  nodeFrom start .object properties

def template (g : Grammar) (tagged : Bool) : Parser Tree := do
  let start ← here
  let parts ← templateParts (withIn (expression g)) tagged
  nodeFrom start .template parts

def regexLiteral : Parser Tree := do
  startRegex
  if (← current).kind = .regex then literal else fail

end HandlerGuard.Script.Parser
