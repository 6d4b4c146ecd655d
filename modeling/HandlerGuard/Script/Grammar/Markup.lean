import HandlerGuard.Script.Grammar.Literal

namespace HandlerGuard.Script.Parser

/-- A name in markup, which may have hyphens but no escapes; its text. -/
def markupName : Parser Text := do
  extendMarkupName
  let t ← current
  if t.isWord then
    noteIf t.escaped
    advance
    return t.text
  else fail

/-- A bounded number of further names after points. They have no hyphens. -/
def markupMembers : Nat → Parser (List Text)
  | 0 => fail
  | n + 1 => do
      if ← accept "." then
        let name ← markupName
        noteIf (name.contains '-')
        let others ← markupMembers n
        return name :: others
      else return []

/-- The name of an element: a name, two with a colon between them, or several with points. -/
def elementName : Parser Text := do
  let first ← markupName
  if ← accept ":" then
    let second ← markupName
    return first ++ ':' :: second
  else
    let others ← markupMembers (← budget)
    return Text.join ['.'] (first :: others)

/-- An expression in braces, whose opening brace is already read. Only a child may be empty. -/
def embedded (g : Grammar) (child : Bool) : Parser (List Tree) := do
  if ← sees "\x7d" then
    noteIf !child
    expectBeforeMarkup "\x7d" child
    return []
  else
    let value ← expression g
    expectBeforeMarkup "\x7d" child
    return [value]

def attributeValue (g : Grammar) : Parser (List Tree) := do
  if (← current).kind = .string then return [← stringLiteral]
  else if ← accept "\x7b" then embedded g false
  else if ← accept "<" then return [← g (.element false)]
  else fail

def tagAttribute (g : Grammar) : Parser Tree := do
  let start ← here
  if ← accept "\x7b" then
    expect "..."
    let value ← expression g
    expect "\x7d"
    nodeFrom start .markup [value]
  else
    let _ ← markupName
    if ← accept ":" then
      let _ ← markupName
    if ← sees "=" then
      advanceToAttribute
      let value ← attributeValue g
      nodeFrom start .markup value
    else nodeFrom start .markup []

/-- A bounded number of children, up to the `</` of the closing tag, which is read. -/
def children (g : Grammar) : Nat → Parser (List Tree)
  | 0 => fail
  | n + 1 => do
      let t ← current
      if t.kind = .markupText then
        advanceMarkup
        children g n
      else if t.is "<" then
        bump
        if ← accept "/" then return []
        else
          let child ← g (.element true)
          let others ← children g n
          return child :: others
      else if t.is "\x7b" then
        bump
        if ← accept "..." then
          let value ← expression g
          expectBeforeMarkup "\x7d" true
          let others ← children g n
          return value :: others
        else
          let values ← embedded g true
          let others ← children g n
          return values ++ others
      else fail

/-- An element or a fragment after its `<`. The closing tag has the name of the opening one. -/
def markupElement (g : Grammar) (child : Bool) : Parser Tree := do
  let start := (← state).before - 1
  if ← sees ">" then
    advanceMarkup
    let parts ← children g (← budget)
    expectBeforeMarkup ">" child
    nodeFrom start .markup parts
  else
    let name ← elementName
    let arguments ← if (← context).types then optionalTypeArguments g else pure []
    let attributes ← untilStop (do return (← seesOneOf ["<", ">", "/"]) || (← current).isEnd)
      (tagAttribute g)
    if ← accept "/" then
      expectBeforeMarkup ">" child
      nodeFrom start .markup (arguments ++ attributes)
    else
      expectBeforeMarkup ">" true
      let parts ← children g (← budget)
      let closing ← elementName
      noteIf (closing != name)
      expectBeforeMarkup ">" child
      nodeFrom start .markup (arguments ++ attributes ++ parts)

end HandlerGuard.Script.Parser
