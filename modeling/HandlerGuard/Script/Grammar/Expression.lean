import HandlerGuard.Script.Grammar.Arrow
import HandlerGuard.Script.Grammar.Markup

namespace HandlerGuard.Script.Parser

def classExpression (g : Grammar) : Parser Tree := do
  let start ← here
  let marks ← decorators g
  classFrom g start marks

/-- An expression in parentheses, which is not empty and has no comma at its end. -/
def parenthesized (g : Grammar) : Parser Tree := do
  let start ← here
  expect "("
  let first ← here
  let (items, comma) ← within ({ · with inOperator := true, decorator := false })
    (commaList ")" (assignment g))
  if comma then fail
  match items with
  | [] => fail
  | [one] =>
      expect ")"
      nodeFrom start .parenthesized [one]
  | several =>
      let inner ← nodeFrom first .sequence several
      expect ")"
      nodeFrom start .parenthesized [inner]

def callArguments (g : Grammar) : Parser (List Tree) := do
  expect "("
  let (list, _) ← within ({ · with inOperator := true, decorator := false })
    (commaList ")" (element g))
  expect ")"
  return list

/-- The arguments of a dynamic import: a source and perhaps options. -/
def importArguments (g : Grammar) (start : Nat) : Parser Tree := do
  expect "("
  let parts ← withIn do
    let source ← assignment g
    if ← accept "," then
      if ← sees ")" then return [source]
      else
        let options ← assignment g
        let _ ← accept ","
        return [source, options]
    else return [source]
  expect ")"
  nodeFrom start .dynamicImport parts

/-- What begins with `import` inside an expression: the properties of the module or a dynamic
import. -/
def importExpression (g : Grammar) : Parser Tree := do
  let start ← here
  bump
  if ← accept "." then
    if ← sees "meta" then
      bump
      nodeFrom start .part []
    else if ← seesOneOf ["source", "defer"] then
      bump
      importArguments g start
    else fail
  else importArguments g start

/-- The object above, of which a member is taken or which is called. -/
def superExpression : Parser Tree := do
  let start ← here
  bump
  noteIf !(← seesOneOf [".", "[", "("])
  nodeFrom start .part []

/-- A construction, or the question what is being constructed. -/
def newExpression (g : Grammar) : Parser Tree := do
  let start ← here
  bump
  if ← accept "." then
    if ← sees "target" then
      bump
      nodeFrom start .part []
    else fail
  else
    let callee ← g .constructed
    noteIf (callee.hasKind .dynamicImport)
    noteIf (← sees "?.")
    let (callee, typeArguments) :=
      match callee with
      | .node _ .instantiation (inner :: types) => (inner, types)
      | other => (other, [])
    let arguments ← if ← sees "(" then callArguments g else pure []
    nodeFrom start .construction (callee :: typeArguments ++ arguments)

def primary (g : Grammar) : Parser Tree := do
  let t ← current
  if t.kind = .word then
    if ← seesFunction then return (← functionFrom g .own).1
    else if t.isOneOf ["true", "false", "null", "this"] then
      bump
      return .node ⟨t.start, t.stop⟩ .literal []
    else if t.is "class" then classExpression g
    else if t.is "new" then newExpression g
    else if t.is "super" then superExpression
    else if t.is "import" then importExpression g
    else reference
  else if t.kind = .string then stringLiteral
  else if t.kind = .number then literal
  else if t.isTemplate then template g false
  else if t.is "(" then parenthesized g
  else if t.is "[" then arrayLiteral g
  else if t.is "\x7b" then objectLiteral g
  else if t.isOneOf ["/", "/="] then regexLiteral
  else if t.is "@" then classExpression g
  else fail

def precedence? (types : Bool) (t : Token) : Option Nat :=
  if t.is "??" then some 1
  else if t.is "||" then some 2
  else if t.is "&&" then some 3
  else if t.is "|" then some 4
  else if t.is "^" then some 5
  else if t.is "&" then some 6
  else if t.isOneOf ["==", "!=", "===", "!=="] then some 7
  else if t.isOneOf ["<", ">", "<=", ">=", "instanceof", "in"] then some 8
  else if types && t.isOneOf ["as", "satisfies"] then some 8
  else if t.isOneOf ["<<", ">>", ">>>"] then some 9
  else if t.isOneOf ["+", "-"] then some 10
  else if t.isOneOf ["*", "/", "%"] then some 11
  else if t.is "**" then some 12
  else none

/-- Whether an operator that ends type arguments stands here. Where `in` is an operator it does not end
them. -/
def seesBinaryOperator : Parser Bool := do
  let t ← current
  let c ← context
  if t.is "in" && c.inOperator then return false else return (precedence? c.types t).isSome

/-- Whether an expression may start here, or go on with an operator. -/
def startsExpression : Parser Bool := do
  let t ← current
  if t.isPlainName || t.isLiteral || t.isTemplate || t.kind = .privateName then return true
  else if
      t.isOneOf
        ["(", "[", "\x7b", "function", "class", "new", "/", "/=", "this", "super", "+", "-", "~", "!",
          "delete", "typeof", "void", "++", "--", "<", "await", "yield", "@"] then
    return true
  else if t.is "import" then return (← following).isOneOf ["(", "<", "."]
  else return (precedence? false t).isSome

/-- Whether type arguments may end before the current token. -/
def endsTypeArguments : Parser Bool := do
  let t ← current
  if t.is "(" || t.isTemplate then return true
  else if t.isOneOf ["<", ">", "+", "-"] then return false
  else if t.newline then return true
  else if ← seesBinaryOperator then return true
  else return !(← startsExpression)

/-- Type arguments of an expression, if what stands here can only be that. -/
def expressionTypeArguments? (g : Grammar) : Parser (Option (List Tree)) := do
  if (← context).types && (← seesOneOf ["<", "<<"]) then
    attempt do
      splitAngle
      expect "<"
      let (list, _) ← commaList ">" (within ({ · with noConditionalType := false }) (g .type))
      if (← state).rest.head? = some '=' then fail
      expect ">"
      if list.isEmpty then fail
      if ← endsTypeArguments then return list else fail
  else return none

/-- An expression, the start of its text, and whether part of it is skipped where something is
missing. -/
structure Chain where
  start : Nat
  tree : Tree
  optional : Bool

def Chain.member (chain : Chain) (parts : List Tree) (optional : Bool) : Parser Chain := do
  let tree ← nodeFrom chain.start .member (chain.tree :: parts)
  return { chain with tree, optional := chain.optional || optional }

def namedMember (chain : Chain) (optional : Bool) : Parser Chain := do
  if (← current).kind = .privateName then
    let name ← privateName
    chain.member [name] optional
  else
    let name ← anyName
    chain.member [name] optional

def computedMember (g : Grammar) (chain : Chain) (optional : Bool) : Parser Chain := do
  expect "["
  let key ← withIn (expression g)
  expect "]"
  chain.member [key] optional

def taggedTemplate (g : Grammar) (chain : Chain) : Parser Chain := do
  noteIf chain.optional
  let (tag, types) :=
    match chain.tree with
    | .node _ .instantiation (inner :: types) => (inner, types)
    | other => (other, [])
  let piece ← template g true
  let tree ← nodeFrom chain.start .part (tag :: types ++ [piece])
  return { chain with tree }

/-- Whether `?.` here takes a member. -/
def takesOptionalMember : Parser Bool := do
  if ← sees "?." then
    let t ← following
    return t.isWord || t.kind = .privateName || t.is "[" || t.isTemplate
  else return false

/-- A bounded number of members, tagged templates, assertions and type arguments. -/
def memberRest (g : Grammar) (chain : Chain) : Nat → Parser Chain
  | 0 => fail
  | n + 1 => do
      let t ← current
      let c ← context
      if t.is "." then
        bump
        let chain ← namedMember chain false
        memberRest g chain n
      else if ← takesOptionalMember then
        bump
        let chain := { chain with optional := true }
        if ← sees "[" then
          let chain ← computedMember g chain true
          memberRest g chain n
        else if (← current).isTemplate then
          let chain ← taggedTemplate g chain
          memberRest g chain n
        else
          let chain ← namedMember chain true
          memberRest g chain n
      else if t.is "[" && !c.decorator then
        let chain ← computedMember g chain false
        memberRest g chain n
      else if t.isTemplate then
        let chain ← taggedTemplate g chain
        memberRest g chain n
      else if c.types && t.is "!" && !t.newline then
        bump
        let tree ← nodeFrom chain.start .assertion [chain.tree]
        memberRest g { chain with tree } n
      else
        match ← expressionTypeArguments? g with
        | some types =>
            let tree ← nodeFrom chain.start .instantiation (chain.tree :: types)
            memberRest g { chain with tree } n
        | none => return chain

/-- The chain called with the arguments that stand here. -/
def callFrom (g : Grammar) (chain : Chain) (types : List Tree) (optional : Bool) :
    Parser Chain := do
  let (callee, types) :=
    match chain.tree with
    | .node _ .instantiation (inner :: inherited) =>
        if optional then (chain.tree, types) else (inner, inherited)
    | other => (other, types)
  let arguments ← callArguments g
  let span ← spanFrom chain.start
  return { chain with
           tree := .call span callee types arguments optional
           optional := chain.optional || optional }

/-- A bounded number of calls, with members and the like between them. -/
def callRest (g : Grammar) (chain : Chain) : Nat → Parser Chain
  | 0 => fail
  | n + 1 => do
      let chain ← memberRest g chain (← budget)
      if ← accept "?." then
        let types ← expressionTypeArguments? g
        let chain ← callFrom g chain (types.getD []) true
        callRest g chain n
      else if ← sees "(" then
        let chain ← callFrom g chain [] false
        callRest g chain n
      else return chain

/-- An expression that may be called or assigned to. -/
def leftHandSide (g : Grammar) : Parser Tree := do
  let start ← here
  let first ← primary g
  let chain ← callRest g ⟨start, first, false⟩ (← budget)
  if chain.optional then nodeFrom start .optionalChain [chain.tree] else return chain.tree

/-- What `new` is applied to. It is not skipped where something is missing. -/
def constructed (g : Grammar) : Parser Tree := do
  let start ← here
  let first ← primary g
  let chain ← memberRest g ⟨start, first, false⟩ (← budget)
  noteIf chain.optional
  return chain.tree

/-- An expression with `++` or `--`, or none. -/
def update (g : Grammar) : Parser Tree := do
  let start ← here
  if ← seesOneOf ["++", "--"] then
    bump
    let target ← g .unary
    takeSimpleTarget target
    nodeFrom start .part [target]
  else if (← context).markup && (← sees "<") then
    bump
    g (.element false)
  else
    let target ← leftHandSide g
    let t ← current
    if t.isOneOf ["++", "--"] && !t.newline then
      takeSimpleTarget target
      bump
      nodeFrom start .part [target]
    else return target

/-- An expression with a type in angle brackets before it. -/
def typeAssertion (g : Grammar) : Parser Tree := do
  let start ← here
  expect "<"
  let type ← g .type
  expect ">"
  let value ← g .unary
  nodeFrom start .assertion [value, type]

/-- Whether a word that is an operator in some contexts is one here: it is followed by an operand on the
same line. -/
def hasOperand : Parser Bool := do
  let t ← following
  return !t.newline && (t.isLiteral || (t.isWord && !t.isOneOf ["in", "instanceof"]))

/-- An expression without binary operators. Where nothing can be waited for, a word that waits for
something is a fault. -/
def unary (g : Grammar) : Parser Tree := do
  let start ← here
  let t ← current
  let c ← context
  if t.isOneOf ["+", "-", "~", "!", "delete", "typeof", "void"] then
    bump
    let value ← g .unary
    nodeFrom start .unary [value]
  else if t.is "await" && (c.awaitAllowed || (← hasOperand)) then
    noteIf !c.awaitAllowed
    bump
    let value ← g .unary
    nodeFrom start .await [value]
  else if t.is "<" && !c.markup then
    if c.types then typeAssertion g else fail
  else update g

/-- Whether coalescence is mixed with other connectives without parentheses; an operand that begins with
a parenthesis is not asked. -/
def mixesConnectives (left right : Tree) (leftEnclosed rightEnclosed : Bool) : Bool :=
  if right.hasKind .connective || right.hasKind .coalescence then
    right.hasKind .connective && !rightEnclosed
  else left.hasKind .connective && !leftEnclosed

/-- A bounded number of binary operators that bind tighter than `least`, after the first operand. A
power has no unary operator on its left without parentheses. `enclosed` tells that the first operand
begins with a parenthesis. -/
def binaryRest (g : Grammar) (start : Nat) (enclosed : Bool) (left : Tree) (least : Nat) :
    Nat → Parser Tree
  | 0 => fail
  | n + 1 => do
      joinAngle
      let t ← current
      let c ← context
      match precedence? c.types t with
      | none => return left
      | some strength =>
          if (if t.is "**" then strength < least else strength ≤ least) then return left
          else if t.is "in" && !c.inOperator then return left
          else if c.types && t.isOneOf ["as", "satisfies"] then
            if t.newline then return left
            else
              bump
              let type ← g .type
              let tree ← nodeFrom start .assertion [left, type]
              binaryRest g start enclosed tree least n
          else
            bump
            let rightEnclosed ← sees "("
            let right ← g (.binary strength)
            noteIf (t.is "??" && mixesConnectives left right enclosed rightEnclosed)
            noteIf (t.is "**" && (left.hasKind .unary || left.hasKind .await))
            let kind : NodeKind :=
              if t.is "??" then .coalescence
              else if t.isOneOf ["&&", "||"] then .connective
              else .binary
            let tree ← nodeFrom start kind [left, right]
            binaryRest g start enclosed tree least n

/-- An expression whose operators bind tighter than `least`. A private name is looked up in an object,
which is no such question itself. -/
def binary (g : Grammar) (least : Nat) : Parser Tree := do
  let start ← here
  let enclosed ← sees "("
  let first ←
    if (← current).kind = .privateName && (← context).inOperator then
      let name ← privateName
      expect "in"
      let right ← g (.binary 8)
      if right.hasKind .privateLookup then fail
      nodeFrom start .privateLookup [name, right]
    else unary g
  binaryRest g start enclosed first least (← budget)

/-- What a generator yields. Elsewhere this is a fault. -/
def yieldExpression (g : Grammar) : Parser Tree := do
  let start ← here
  noteIf !(← context).yieldAllowed
  bump
  let t ← current
  if t.newline then nodeFrom start .part []
  else if t.is "*" then
    bump
    let value ← assignment g
    nodeFrom start .part [value]
  else if t.isOneOf [")", "]", "\x7d", ",", ";", ":"] || t.isEnd then
    nodeFrom start .part []
  else
    let value ← assignment g
    nodeFrom start .part [value]

def assignmentOperators : List String :=
  ["=", "+=", "-=", "*=", "/=", "%=", "**=", "<<=", ">>=", ">>>=", "&=", "|=", "^=", "&&=", "||=",
    "??="]

def assignmentRest (g : Grammar) (start : Nat) (target : Tree) (returnTypes : Bool) :
    Parser Tree := do
  let kind : NodeKind := if ← sees "=" then .assignment else .compoundAssignment
  takeTarget target
  bump
  let value ← g (.assignment returnTypes)
  nodeFrom start kind [target, value]

def conditionalRest (g : Grammar) (start : Nat) (test : Tree) (returnTypes : Bool) :
    Parser Tree := do
  if ← accept "?" then
    let consequent ← withIn (g (.assignment false))
    expect ":"
    let alternate ← g (.assignment returnTypes)
    return .conditional (← spanFrom start) test consequent alternate
  else return test

def assignmentExpression (g : Grammar) (returnTypes : Bool) : Parser Tree := do
  let start ← here
  if (← sees "yield") && ((← context).yieldAllowed || (← hasOperand)) then yieldExpression g
  else
    match ← parenthesizedArrow? g returnTypes with
    | some f => return f
    | none =>
        match ← asyncArrow? g returnTypes with
        | some f => return f
        | none =>
            let left ← binary g 0
            let t ← current
            if left.isIdentifier && t.is "=>" then simpleArrow g start left false returnTypes
            else if t.isOneOf assignmentOperators then assignmentRest g start left returnTypes
            else conditionalRest g start left returnTypes

end HandlerGuard.Script.Parser
