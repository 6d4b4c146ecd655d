import HandlerGuard.Script.Grammar.Function

namespace HandlerGuard.Script.Parser

/-- What the tokens at hand tell. -/
inductive Guess where
  | yes
  | no
  | undecided
deriving DecidableEq, Repr

/-- An answer that is read and then taken back. -/
def guessAhead (p : Parser Guess) : Parser Guess := fun c s =>
  match p c s with
  | .found answer s' => .found answer { s with notArrows := s'.notArrows }
  | .failed known => .found .no { s with notArrows := known }

/-- The guess for a parenthesis, whose next token is current. -/
def guessParenthesis : Parser Guess := do
  let second ← current
  if second.is ")" then
    advance
    if ← sees ":" then return if (← context).types then .undecided else .no
    else if ← seesOneOf ["=>", "\x7b"] then return .yes
    else return .no
  else if second.isOneOf ["[", "\x7b", "..."] then return .undecided
  else if second.isOneOf modifierWords && !second.is "async" && (← following).isName then
    if (← following).is "as" then return .no else return .yes
  else if !(second.isBindingName || second.is "this") then return .no
  else
    advance
    let third ← current
    if third.is ":" then return .yes
    else if third.is "?" then
      advance
      if ← seesOneOf [":", ",", "=", ")"] then return .yes else return .no
    else if third.isOneOf [",", "=", ")"] then return .undecided
    else return .no

/-- The guess for an angle bracket, whose next token is current. -/
def guessAngle : Parser Guess := do
  let second ← current
  if !(second.isBindingName || second.is "const") then return .no
  else if (← context).markup then
    if second.is "const" then advance
    let name ← current
    if !name.isBindingName then return .no
    else
      advance
      if ← sees "extends" then
        advance
        let t ← current
        if t.isOneOf ["=", ">", "/"] then return .no
        else if t.isWord then return .undecided
        else return .yes
      else if ← seesOneOf [",", "="] then return .yes
      else return .no
  else if (← context).types then return .undecided
  else return .no

/-- Whether an arrow function with parameters in parentheses starts here. -/
def guessArrow : Parser Guess := do
  let t ← current
  if t.isOneOf ["(", "<", "async"] then
    guessAhead do
      if t.is "async" then
        advance
        let next ← current
        if next.newline || !next.isOneOf ["(", "<"] then return .no
        else
          advance
          if next.is "(" then guessParenthesis else guessAngle
      else
        advance
        if t.is "(" then guessParenthesis else guessAngle
  else return .no

/-- The head of an arrow function with parameters in parentheses, up to its arrow. -/
structure ArrowHead where
  start : Nat
  asynchronous : Bool
  typed : Bool
  parts : List Tree

/-- The arrow, on the line of what stands before it. -/
def arrow : Parser Unit := do
  noteIf (← current).newline
  expect "=>"

/-- Reads the head of an arrow function with parameters in parentheses. -/
def arrowHead (g : Grammar) : Parser ArrowHead := do
  let start ← here
  let asynchronous ← accept "async"
  let c ← context
  let (parts, typed) ←
    within ({ · with awaitAllowed := c.awaitAllowed || asynchronous, inOperator := true }) do
      let typeParams ← typeParameters g
      let (this, params) ← parameters g .plain
      noteIf !this.isEmpty
      let result ← returnAnnotation g
      return (typeParams ++ params ++ result, !result.isEmpty)
  arrow
  return ⟨start, asynchronous, typed, parts⟩

/-- The body of an arrow function: statements in braces or an expression. -/
def arrowBody (g : Grammar) (asynchronous returnTypes : Bool) : Parser Tree :=
  within ({ · with awaitAllowed := asynchronous, yieldAllowed := false }) do
    if ← sees "\x7b" then withIn (functionBody g) else g (.assignment returnTypes)

def arrowFrom (g : Grammar) (head : ArrowHead) (returnTypes : Bool) : Parser Tree := do
  let body ← arrowBody g head.asynchronous returnTypes
  nodeFrom head.start .arrow (head.parts ++ [body])

/-- Remembers that no arrow function starts at `start`, and goes back to the given state. -/
def notAnArrow (start : Nat) (back : State) : Parser (Option Tree) := do
  let s ← state
  modify fun _ => { back with notArrows := start :: s.notArrows }
  return none

/-- An arrow function where the tokens leave it open. Where return types are not allowed, one with a
return type needs a colon after it, else the type was the other half of a conditional. -/
def possibleArrow (g : Grammar) (returnTypes : Bool) : Parser (Option Tree) := do
  let back ← state
  let start := back.token.start
  if back.notArrows.contains start then return none
  else
    match ← attempt (arrowHead g) with
    | none => notAnArrow start back
    | some head =>
        if !returnTypes && head.typed then
          match ← attempt (arrowFrom g head returnTypes) with
          | none => notAnArrow start back
          | some f => if ← sees ":" then return some f else notAnArrow start back
        else return some (← arrowFrom g head returnTypes)

/-- An arrow function with parameters in parentheses, if one starts here. -/
def parenthesizedArrow? (g : Grammar) (returnTypes : Bool) : Parser (Option Tree) := do
  match ← guessArrow with
  | .no => return none
  | .undecided => possibleArrow g returnTypes
  | .yes =>
      let head ← arrowHead g
      return some (← arrowFrom g head true)

/-- An arrow function with a single parameter, which is read, after the tokens from `start` on. -/
def simpleArrow (g : Grammar) (start : Nat) (parameter : Tree) (asynchronous returnTypes : Bool) :
    Parser Tree := do
  arrow
  arrowFrom g ⟨start, asynchronous, false, [parameter]⟩ returnTypes

/-- Whether `async`, a name and an arrow stand here, on one line as far as the name. -/
def seesAsyncArrow : Parser Bool := do
  if ← sees "async" then
    ahead do
      advance
      let t ← current
      if t.newline || !t.isBindingName then return false
      else
        advance
        let t ← current
        return t.is "=>" && !t.newline
  else return false

/-- An asynchronous arrow function with a single parameter, if one starts here. -/
def asyncArrow? (g : Grammar) (returnTypes : Bool) : Parser (Option Tree) := do
  if ← seesAsyncArrow then
    let start ← here
    bump
    let parameter ← within ({ · with awaitAllowed := true }) bindingName
    return some (← simpleArrow g start parameter true returnTypes)
  else return none

end HandlerGuard.Script.Parser
