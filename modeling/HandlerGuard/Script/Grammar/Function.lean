import HandlerGuard.Script.Grammar.Pattern

namespace HandlerGuard.Script.Parser

/-- What kind of function a parameter list belongs to. -/
inductive Owner where
  | plain
  | method
  | constructor
deriving DecidableEq, Repr

/-- A parameter with its decorators and modifiers. -/
def parameter (g : Grammar) (owner : Owner) : Parser Tree := do
  let start ← here
  let types := (← context).types
  let marks ← decorators g
  noteIf (!marks.isEmpty && !(types && owner != .plain))
  let found ← modifiers false false
  if types then
    if owner = .constructor then
      allowModifiers found ["readonly", "public", "private", "protected", "override"]
    else allowModifiers found ["readonly"]
  else allowModifiers found []
  let p ← patternWithDefault g
  if marks.isEmpty then return p else nodeFrom start .part (marks ++ [p])

/-- A parameter that takes the rest of the arguments. It is not optional. -/
def restParameter (g : Grammar) : Parser Tree := do
  let start ← here
  expect "..."
  let p ← g .pattern
  if (← context).types && (← accept "?") then note
  let annotation ← typeAnnotation g
  restFrom g start (p :: annotation)

/-- The parameter `this`, which only states a type. A comma may follow it. -/
def thisParameter (g : Grammar) : Parser (List Tree) := do
  if (← context).types && (← sees "this") then
    let start ← here
    bump
    let annotation ← typeAnnotation g
    let p ← nodeFrom start .part annotation
    let _ ← accept ","
    return [p]
  else return []

/-- A parameter list, the parameter `this` apart. -/
def parameters (g : Grammar) (owner : Owner) : Parser (List Tree × List Tree) := do
  expect "("
  let this ← thisParameter g
  let list ← patterns ")" (parameter g owner) (restParameter g)
  expect ")"
  return (this, list)

/-- A type that may also say what the function asserts of a parameter. -/
def returnType (g : Grammar) : Parser Tree := do
  let start ← here
  let named ← attempt do
    let name ← anyName
    let t ← current
    if t.is "is" && !t.newline then
      bump
      return name
    else fail
  let type ← g .type
  match named with
  | some _ => nodeFrom start .typeExpression [type]
  | none => return type

/-- A return type after a colon, where types may be written. -/
def returnAnnotation (g : Grammar) : Parser (List Tree) := do
  if (← context).types then
    if ← accept ":" then return [← returnType g] else return []
  else return []

def typeParameter (g : Grammar) : Parser Tree := do
  let start ← here
  let found ← modifiers true false
  allowModifiers found ["in", "out", "const"]
  let name ← bindingName
  let bound ← if ← accept "extends" then pure [← g .type] else pure []
  let preset ← if ← accept "=" then pure [← g .type] else pure []
  nodeFrom start .part (name :: bound ++ preset)

/-- The type parameters, where types may be written. A list of them is not empty. -/
def typeParameters (g : Grammar) : Parser (List Tree) := do
  if (← context).types && (← sees "<") then
    bump
    let (list, _) ← commaList ">" (typeParameter g)
    noteIf list.isEmpty
    expect ">"
    return list
  else return []

/-- Whether a statement is only a string: such statements at the front are directives. -/
def isDirective : Tree → Bool
  | .node _ .expressionStatement [.node _ .stringLiteral _] => true
  | _ => false

def statementsInBraces (g : Grammar) : Parser (List Tree) := do
  expect "\x7b"
  let list ← untilStop (sees "\x7d") do
    if (← current).isEnd then fail else g (.statement .list)
  expect "\x7d"
  return list

def functionBody (g : Grammar) : Parser Tree := do
  let start ← here
  let list ← within ({ · with returnAllowed := true }) (statementsInBraces g)
  nodeFrom start .part list

/-- What follows the name of a function. -/
structure FunctionParts where
  /-- The parameters, without `this`. -/
  params : List Tree
  hasBody : Bool
  /-- Everything, in the order it is written. -/
  trees : List Tree

/-- What follows the name of a function: type parameters, parameters, return type and body. The body
may only be missing where types may be written and it is not needed. -/
def functionRest (g : Grammar) (owner : Owner) (asynchronous generator needsBody : Bool) :
    Parser FunctionParts :=
  within ({ · with inOperator := true, awaitAllowed := asynchronous, yieldAllowed := generator }) do
    let typeParams ← typeParameters g
    let (this, params) ← parameters g owner
    noteIf (owner = .constructor && !this.isEmpty)
    let result ← returnAnnotation g
    if ← sees "\x7b" then
      let body ← functionBody g
      return ⟨params, true, typeParams ++ this ++ params ++ result ++ [body]⟩
    else if (← context).types && !needsBody then
      semicolon
      return ⟨params, false, typeParams ++ this ++ params ++ result⟩
    else fail

/-- Notes a parameter of a method that reads a property. -/
def checkGetter (parts : FunctionParts) : Parser Unit :=
  noteIf (parts.params.any (!·.hasKind .rest))

/-- Notes unless a method that writes a property has one parameter, which is no rest and, where types
may be written, has no initial value. -/
def checkSetter (parts : FunctionParts) : Parser Unit := do
  let types := (← context).types
  match parts.params with
  | [p] => noteIf (p.hasKind .rest || (types && p.hasKind .defaulted))
  | _ => note

/-- The node of a method that starts at `start`. -/
def methodFrom (start : Nat) (parts : FunctionParts) : Parser Tree :=
  nodeFrom start .function parts.trees

/-- Whether a function starts here, perhaps after `async` on the same line. -/
def seesFunction : Parser Bool := do
  if ← sees "function" then return true
  else if ← sees "async" then
    let t ← following
    return t.is "function" && !t.newline
  else return false

/-- What kind of function is read, for its name. -/
inductive Naming where
  /-- The name is required. -/
  | required
  /-- The name may be missing. -/
  | free
  /-- The name belongs to the function itself. -/
  | own
deriving DecidableEq, Repr

def functionName (naming : Naming) (asynchronous generator : Bool) : Parser (List Tree) := do
  if (← current).isBindingName then
    let name ←
      if naming = .own then
        within ({ · with awaitAllowed := asynchronous, yieldAllowed := generator }) bindingName
      else bindingName
    return [name]
  else
    noteIf (naming = .required)
    return []

/-- A function from its first word on; also whether it is asynchronous or a generator. -/
def functionFrom (g : Grammar) (naming : Naming) : Parser (Tree × Bool) := do
  let start ← here
  let asynchronous ← accept "async"
  expect "function"
  let generator ← accept "*"
  let name ← functionName naming asynchronous generator
  let parts ← functionRest g .plain asynchronous generator (naming = .own)
  return (← nodeFrom start .function (name ++ parts.trees), asynchronous || generator)

end HandlerGuard.Script.Parser
