import HandlerGuard.Script.Grammar.Statement

namespace HandlerGuard.Script.Parser

/-- A type with a name. The word `intrinsic` alone is a type here. -/
def typeAlias (g : Grammar) (start : Nat) : Parser Tree := do
  expect "type"
  let name ← bindingName
  let typeParams ← typeParameters g
  expect "="
  let value ←
    if (← sees "intrinsic") && !(← following).is "." then
      let inner ← here
      bump
      typeFrom inner []
    else g .type
  semicolon
  nodeFrom start .declaration (name :: typeParams ++ [value])

/-- Whether an expression is a name with further names after points. -/
def isEntityName : Tree → Bool
  | .identifier _ _ => true
  | .node _ .member [object, .node _ .label _] => isEntityName object
  | .node _ .instantiation (object :: _) => isEntityName object
  | _ => false

/-- A bounded number of clauses that say what an interface extends. There is one at most, and it holds
only names. -/
def interfaceBases (g : Grammar) (seen : Bool) : Nat → Parser (List Tree)
  | 0 => fail
  | n + 1 => do
      if ← accept "extends" then
        noteIf seen
        let bases ← separated "," (extended g)
        noteIf (bases.any fun base => !(base.head?.any isEntityName))
        let others ← interfaceBases g true n
        return bases.flatten ++ others
      else if ← accept "implements" then
        note
        let bases ← separated "," (typeReference g)
        let others ← interfaceBases g seen n
        return bases ++ others
      else return []

def interface (g : Grammar) (start : Nat) : Parser Tree := do
  expect "interface"
  let name ← bindingName
  let typeParams ← typeParameters g
  let bases ← interfaceBases g false (← budget)
  let members ← typeMembers g
  nodeFrom start .declaration (name :: typeParams ++ bases ++ members)

/-- The name of a member of an enumeration: a word or a string, perhaps in brackets. -/
def enumName : Parser Tree := do
  let t ← current
  if t.kind = .string then stringLiteral
  else if t.is "[" then
    bump
    let t ← current
    let key ← if t.kind = .templateWhole then literal else stringLiteral
    expect "]"
    return key
  else anyName

def enumMember (g : Grammar) : Parser Tree := do
  let start ← here
  let name ← enumName
  let value ← initializer g
  nodeFrom start .part (name :: value)

def enumeration (g : Grammar) (start : Nat) : Parser Tree := do
  expect "enum"
  let name ← bindingName
  expect "\x7b"
  let (members, _) ← commaList "\x7d" (enumMember g)
  expect "\x7d"
  nodeFrom start .declaration (name :: members)

def namespaceBody (g : Grammar) : Parser (List Tree) := do
  if ← sees "\x7b" then statementsInBraces g
  else
    semicolon
    return []

/-- A namespace, whose name may have points, or a module named by a string. -/
def namespaceFrom (g : Grammar) (start : Nat) : Parser Tree := do
  if ← sees "global" then
    bump
    let list ← statementsInBraces g
    nodeFrom start .declaration list
  else
    let isModule ← sees "module"
    bump
    if isModule && (← current).kind = .string then
      let name ← stringLiteral
      let list ← namespaceBody g
      nodeFrom start .declaration (name :: list)
    else
      let name ← bindingName
      let others ← if ← accept "." then separated "." bindingName else pure []
      let list ← statementsInBraces g
      nodeFrom start .declaration (name :: others ++ list)

/-- The words that can only start a declaration together with what follows them. -/
def declarationWords : List String :=
  ["interface", "type", "module", "namespace", "declare", "enum", "private", "protected", "public",
    "abstract", "accessor", "static", "readonly", "global"]

/-- Whether a declaration starts here, after a bounded number of modifiers. -/
def startsDeclarationWithin : Nat → Parser Bool
  | 0 => fail
  | n + 1 => do
      let t ← current
      if t.isOneOf ["var", "let", "const", "function", "class", "enum"] then return true
      else if t.isOneOf ["interface", "type"] then
        advance
        let next ← current
        return next.isBindingName && !next.newline
      else if t.isOneOf ["module", "namespace"] then
        advance
        let next ← current
        return !next.newline && (next.isBindingName || next.kind = .string)
      else if
          t.isOneOf
            ["abstract", "accessor", "async", "declare", "private", "protected", "public",
              "readonly"] then
        advance
        if (← current).newline then return false else startsDeclarationWithin n
      else if t.is "static" then
        advance
        startsDeclarationWithin n
      else if t.is "global" then
        advance
        let next ← current
        return next.is "\x7b" || next.isBindingName || next.is "export"
      else if t.is "import" then
        advance
        let next ← current
        return next.kind = .string || next.is "*" || next.is "\x7b" || next.isWord
      else if t.is "export" then
        advance
        let next ← current
        return next.isOneOf ["=", "*", "\x7b", "default", "as", "@"]
      else return false

def startsDeclaration : Parser Bool := do
  let n ← budget
  ahead (startsDeclarationWithin n)

/-- An import that only gives a name to something, after its name: another module or a member of a
namespace. -/
def importEquals (start : Nat) (name : Tree) : Parser Tree := do
  if !(← context).types then fail
  expect "="
  if ← accept "require" then
    expect "("
    let source ← stringLiteral
    expect ")"
    semicolon
    nodeFrom start .declaration [name, source]
  else
    let target ← dottedName
    semicolon
    nodeFrom start .declaration [name, target]

/-- An import that only gives a name to something. -/
def namingImport (start : Nat) : Parser Tree := do
  expect "import"
  if (← sees "type") && (← following).isBindingName && !(← following).is "=" then bump
  let name ← bindingName
  importEquals start name

/-- A declaration after its decorators and modifiers. Only classes have decorators, and a function that
is only declared has no body. -/
def declarationRest (g : Grammar) (start : Nat) (marks : List Tree) (found : List Text) :
    Parser Tree := do
  let t ← current
  noteIf (!marks.isEmpty && !t.is "class")
  if t.is "class" then
    allowModifiers found ["declare", "abstract"]
    classFrom g start marks
  else if t.is "type" then
    allowModifiers found ["declare"]
    typeAlias g start
  else if t.is "interface" then
    allowModifiers found ["declare"]
    interface g start
  else if t.is "enum" then
    allowModifiers found ["declare", "const"]
    enumeration g start
  else if t.isOneOf ["module", "namespace", "global"] then
    allowModifiers found ["declare"]
    namespaceFrom g start
  else if t.is "import" then
    allowModifiers found ["declare"]
    namingImport start
  else if t.isOneOf ["var", "let", "const"] then
    allowModifiers found ["declare"]
    variableStatement g .list
  else if t.is "function" then
    allowModifiers found ["declare", "async"]
    let asynchronous := hasModifier found ["async"]
    bump
    let generator ← accept "*"
    let name ← functionName .required asynchronous generator
    let parts ← functionRest g .plain asynchronous generator false
    noteIf (parts.hasBody && hasModifier found ["declare"])
    nodeFrom start .function (name ++ parts.trees)
  else fail

/-- The modifiers of a declaration, of which `const` is one only before `enum`. -/
def declarationModifiers : Parser (List Text) := do
  let plain ← modifiers false false
  if (← sees "const") && (← following).is "enum" then
    bump
    return plain ++ ["const".toList]
  else return plain

/-- A declaration with its modifiers, after its decorators. -/
def declaration (g : Grammar) (start : Nat) (marks : List Tree) : Parser Tree := do
  let found ← declarationModifiers
  if hasModifier found ["declare"] then
    within ({ · with ambient := true }) (declarationRest g start marks found)
  else declarationRest g start marks found

/-- A declaration as a statement, in which nothing is waited for unless it is asynchronous. -/
def declarationStatement (g : Grammar) (start : Nat) : Parser Tree := do
  let found ← declarationModifiers
  let ambient := (← context).ambient || hasModifier found ["declare"]
  within ({ · with ambient, awaitAllowed := hasModifier found ["async"] })
    (declarationRest g start [] found)

end HandlerGuard.Script.Parser
