import HandlerGuard.Script.Grammar.Expression

namespace HandlerGuard.Script.Parser

/-- An expression in parentheses after a keyword. -/
def condition (g : Grammar) : Parser Tree := do
  expect "("
  let e ← expression g
  expect ")"
  return e

def body (g : Grammar) : Parser Tree := g (.statement .body)

def block (g : Grammar) : Parser Tree := do
  let start ← here
  let list ← statementsInBraces g
  nodeFrom start .statement list

/-- Where variables are declared. -/
inductive VariablePlace where
  | statement
  | loop
deriving DecidableEq, Repr

/-- Whether a declared variable lacks an initial value that it needs: patterns and constants do, unless
they are defined elsewhere. -/
def lacksValue (constant ambient : Bool) : Tree → Bool
  | .node _ .defaulted _ => false
  | .node _ .annotated (pattern :: _) => !ambient && (constant || !pattern.isIdentifier)
  | pattern => !ambient && (constant || !pattern.isIdentifier)

/-- A declared variable: a pattern, a type and an initial value. A variable that is said to be given a
value later has a type and no initial value. -/
def declarator (g : Grammar) : Parser Tree := do
  let start ← here
  let p ← pattern g
  let c ← context
  let t ← current
  let later := c.types && p.isIdentifier && t.is "!" && !t.newline
  if later then bump
  if c.types then
    let _ ← accept "?"
  let annotation ← typeAnnotation g
  noteIf (later && annotation.isEmpty)
  let target ← if annotation.isEmpty then pure p else nodeFrom start .annotated (p :: annotation)
  if ← accept "=" then
    noteIf later
    let value ← assignment g
    nodeFrom start .defaulted [target, value]
  else return target

/-- The declared variables after their keyword. -/
def declarators (g : Grammar) (constant : Bool) (place : VariablePlace) : Parser (List Tree) := do
  let list ← separated "," (declarator g)
  if place = .statement then
    let ambient := (← context).ambient
    noteIf (list.any (lacksValue constant ambient))
  return list

/-- A statement that declares variables. Only `var` may be the body of another statement. -/
def variableStatement (g : Grammar) (place : Place) : Parser Tree := do
  let start ← here
  let t ← current
  noteIf (place = .body && !t.is "var")
  bump
  let list ← declarators g (t.is "const") .statement
  semicolon
  nodeFrom start .declaration list

/-- Whether a loop that begins with `let` and the given token declares a variable. -/
def continuesLet (t : Token) : Bool := (t.isWord && !t.is "in") || t.isOneOf ["[", "\x7b"]

/-- Whether a variable that is disposed of at the end of its scope is declared here. -/
def seesUsing : Parser Bool := do
  if ← sees "using" then
    let t ← following
    return !t.newline && t.isBindingName
  else return false

/-- Whether a variable that is asynchronously disposed of is declared here. -/
def seesAwaitUsing : Parser Bool := do
  if ← sees "await" then
    ahead do
      advance
      let t ← current
      if t.is "using" && !t.newline then
        advance
        let t ← current
        return !t.newline && t.isBindingName
      else return false
  else return false

/-- The variables declared with `using`, each with an initial value unless a loop gives it one. -/
def usingDeclarators (g : Grammar) (place : VariablePlace) : Parser (List Tree) := do
  let _ ← accept "await"
  expect "using"
  separated "," do
    let start ← here
    let name ← bindingName
    let annotation ← typeAnnotation g
    let target ←
      if annotation.isEmpty then pure name else nodeFrom start .annotated (name :: annotation)
    if ← accept "=" then
      let value ← assignment g
      nodeFrom start .defaulted [target, value]
    else
      noteIf (place = .statement)
      return target

/-- A statement that declares variables with `using`. -/
def usingStatement (g : Grammar) (place : Place) : Parser Tree := do
  let start ← here
  noteIf (place = .body)
  let list ← usingDeclarators g .statement
  semicolon
  nodeFrom start .declaration list

def expressionStatementOf (start : Nat) (e : Tree) : Parser Tree := do
  semicolon
  nodeFrom start .expressionStatement [e]

/-- A statement that is an expression, or one with a label. -/
def expressionOrLabelled (g : Grammar) : Parser Tree := do
  let start ← here
  let e ← expression g
  if e.isIdentifier && (← sees ":") then
    bump
    let inner ← body g
    nodeFrom start .statement [inner]
  else expressionStatementOf start e

def connectives : List String := ["&&", "||", "??"]

/-- A statement that begins with `let`, which may also be a name: before an operator that is no
connective, or before a point or a parenthesis, where nothing has to end the statement. -/
def letStatement (g : Grammar) (place : Place) : Parser Tree := do
  let start ← here
  let next ← following
  if next.isOneOf assignmentOperators ||
      ((precedence? false next).isSome && !next.isOneOf connectives) then
    let e ← assignment g
    expressionStatementOf start e
  else if next.isOneOf [".", "("] then
    let e ← expression g
    nodeFrom start .expressionStatement [e]
  else if (place = .body && !next.is "[") || next.is ";" then
    let e ← reference
    expressionStatementOf start e
  else variableStatement g place

def ifStatement (g : Grammar) : Parser Tree := do
  let start ← here
  expect "if"
  let test ← condition g
  let yes ← body g
  let no ← if ← accept "else" then pure [← body g] else pure []
  nodeFrom start .statement (test :: yes :: no)

def doStatement (g : Grammar) : Parser Tree := do
  let start ← here
  expect "do"
  let inner ← body g
  expect "while"
  let test ← condition g
  let _ ← accept ";"
  nodeFrom start .statement [inner, test]

def whileStatement (g : Grammar) : Parser Tree := do
  let start ← here
  expect "while"
  let test ← condition g
  let inner ← body g
  nodeFrom start .statement [test, inner]

/-- A loop with a start, a test and a step, after its start. Variables that need an initial value have
one, and it waits for nothing. -/
def countingLoop (g : Grammar) (start : Nat) (initial : List Tree) (waits : Bool) : Parser Tree := do
  expect ";"
  let test ← if ← sees ";" then pure [] else pure [← withIn (expression g)]
  expect ";"
  let step ← if ← sees ")" then pure [] else pure [← withIn (expression g)]
  expect ")"
  noteIf waits
  let inner ← body g
  nodeFrom start .statement (initial ++ test ++ step ++ [inner])

def iteratingLoop (g : Grammar) (start : Nat) (target : Tree) (waits : Bool) : Parser Tree := do
  let overKeys ← sees "in"
  noteIf (overKeys && waits)
  bump
  let source ← withIn (if overKeys then expression g else assignment g)
  expect ")"
  let inner ← body g
  nodeFrom start .statement [target, source, inner]

/-- A loop after the declaration of its variables. Those that are disposed of are not keys. -/
def declaredLoop (g : Grammar) (start : Nat) (waits constant disposed : Bool)
    (read : Parser (List Tree)) : Parser Tree := do
  let inner ← here
  let list ← withoutIn read
  let declared ← nodeFrom inner .declaration list
  if ← seesOneOf ["in", "of"] then
    noteIf (disposed && (← sees "in"))
    iteratingLoop g start declared waits
  else
    let ambient := (← context).ambient
    noteIf (list.any (lacksValue constant ambient))
    countingLoop g start [declared] waits

def expressionLoop (g : Grammar) (start : Nat) (waits : Bool) : Parser Tree := do
  let first ← current
  let next ← following
  let target ← withoutIn (expression g)
  if ← seesOneOf ["in", "of"] then
    takeTarget target
    if ← sees "of" then
      noteIf (!waits && first.is "async" && !first.escaped && next.is "of")
      noteIf (first.is "let" && next.is "of")
    iteratingLoop g start target waits
  else countingLoop g start [target] waits

/-- Whether `using` declares the variable of a loop; before `of` it is a name, except after `await`. -/
def seesLoopUsing : Parser Bool := do
  let t ← following
  if ← sees "using" then return !t.newline && t.isBindingName && !t.is "of"
  else return (← sees "await") && t.is "using" && !t.newline

/-- A loop with `for`. -/
def forStatement (g : Grammar) : Parser Tree := do
  let start ← here
  expect "for"
  let waits ← if ← sees "await" then
      noteIf !(← context).awaitAllowed
      bump
      pure true
    else pure false
  expect "("
  let t ← current
  if t.is ";" then countingLoop g start [] waits
  else if t.isOneOf ["const", "var"] then
    declaredLoop g start waits (t.is "const") false do
      bump
      declarators g (t.is "const") .loop
  else if t.is "let" && continuesLet (← following) then
    declaredLoop g start waits false false do
      bump
      declarators g false .loop
  else if ← seesLoopUsing then declaredLoop g start waits false true (usingDeclarators g .loop)
  else expressionLoop g start waits

/-- A jump to a label or out of the enclosing statement. -/
def jump : Parser Tree := do
  let start ← here
  bump
  if ← mayEnd then
    semicolon
    nodeFrom start .statement []
  else
    let label ← reference
    semicolon
    nodeFrom start .statement [label]

def returnStatement (g : Grammar) : Parser Tree := do
  let start ← here
  noteIf !(← context).returnAllowed
  bump
  if ← mayEnd then
    semicolon
    nodeFrom start .statement []
  else
    let value ← withIn (expression g)
    semicolon
    nodeFrom start .statement [value]

/-- A statement with the members of an object in scope. -/
def withStatement (g : Grammar) : Parser Tree := do
  let start ← here
  expect "with"
  let object ← condition g
  let inner ← body g
  nodeFrom start .statement [object, inner]

/-- A case of a choice. It declares no variable that is disposed of. -/
def switchCase (g : Grammar) : Parser Tree := do
  let start ← here
  let test ← if ← accept "default" then pure [] else
      expect "case"
      pure [← expression g]
  expect ":"
  let list ← untilStop (seesOneOf ["case", "default", "\x7d"]) do
    noteIf ((← seesUsing) || (← seesAwaitUsing))
    if (← current).isEnd then fail else g (.statement .list)
  nodeFrom start .part (test ++ list)

def switchStatement (g : Grammar) : Parser Tree := do
  let start ← here
  expect "switch"
  let subject ← condition g
  expect "\x7b"
  let cases ← untilStop (sees "\x7d") (switchCase g)
  expect "\x7d"
  nodeFrom start .statement (subject :: cases)

/-- A raised error, whose value starts on the same line. -/
def throwStatement (g : Grammar) : Parser Tree := do
  let start ← here
  bump
  noteIf (← current).newline
  let value ← expression g
  semicolon
  nodeFrom start .statement [value]

def catchClause (g : Grammar) : Parser Tree := do
  let start ← here
  expect "catch"
  let parameter ← if ← accept "(" then
      let p ← annotatedPattern g false
      expect ")"
      pure [p]
    else pure []
  let inner ← block g
  nodeFrom start .part (parameter ++ [inner])

/-- A block with what handles its errors and what runs after it, of which one is there. -/
def tryStatement (g : Grammar) : Parser Tree := do
  let start ← here
  expect "try"
  let inner ← block g
  let handler ← if ← sees "catch" then pure [← catchClause g] else pure []
  let final ← if ← accept "finally" then pure [← block g] else pure []
  noteIf (handler.isEmpty && final.isEmpty)
  nodeFrom start .statement (inner :: handler ++ final)

/-- A declared function. As the body of a statement it is neither asynchronous nor a generator. -/
def functionStatement (g : Grammar) (place : Place) : Parser Tree := do
  let (f, special) ← functionFrom g .required
  noteIf (place = .body && special)
  return f

/-- A declared class, which is not the body of a statement. -/
def classStatement (g : Grammar) (place : Place) (start : Nat) (marks : List Tree) : Parser Tree := do
  noteIf (place = .body)
  classFrom g start marks

end HandlerGuard.Script.Parser
