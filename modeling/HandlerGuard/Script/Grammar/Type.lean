import HandlerGuard.Script.Grammar.Function
import HandlerGuard.Script.Grammar.Relexing

namespace HandlerGuard.Script.Parser

def typeFrom (start : Nat) (children : List Tree) : Parser Tree :=
  nodeFrom start .typeExpression children

/-- Type arguments between angle brackets, of which there is at least one. -/
def typeArguments (g : Grammar) : Parser (List Tree) := do
  expect "<"
  let (list, _) ← commaList ">" (within ({ · with noConditionalType := false }) (g .type))
  noteIf list.isEmpty
  expect ">"
  return list

def optionalTypeArguments (g : Grammar) : Parser (List Tree) := do
  if ← sees "<" then typeArguments g else return []

/-- The type arguments of a reference, if there are any: they stand on the same line, and a function type
may follow their bracket at once. -/
def referenceArguments (g : Grammar) : Parser (List Tree) := do
  let t ← current
  if !t.newline && t.isOneOf ["<", "<<"] then
    splitAngle
    typeArguments g
  else return []

def dottedName : Parser Tree := do
  let start ← here
  let names ← separated "." anyName
  nodeFrom start .part names

def typeReference (g : Grammar) : Parser Tree := do
  let start ← here
  let name ← dottedName
  let arguments ← referenceArguments g
  typeFrom start (name :: arguments)

def startsType : Parser Bool := do
  let t ← current
  if t.isName || t.kind = .number || t.kind = .string || t.isTemplate then return true
  else if
      t.isOneOf
        ["void", "null", "this", "typeof", "\x7b", "[", "<", "|", "&", "new", "true", "false", "*",
          "?", "!", "...", "import", "function"] then
    return true
  else if t.is "-" then return (← following).kind = .number
  else if t.is "(" then
    ahead do
      bump
      let t ← current
      return t.isOneOf [")", "...", "\x7b", "["] || t.isWord || t.isOneOf ["(", "<", "|", "&", "-"] ||
        t.kind = .number || t.kind = .string || t.isTemplate
  else return false

/-- Moves past what may start a parameter; whether there was one. -/
def skipParameterStart (g : Grammar) : Parser Bool := do
  if (← current).isOneOf modifierWords then
    let _ ← modifiers false false
  let t ← current
  if t.isName || t.is "this" then
    advance
    return true
  else if t.isOneOf ["[", "\x7b"] then
    let before := (← state).flawed
    let _ ← g .pattern
    return (← state).flawed = before
  else return false

/-- Whether the bracket here opens the parameters of a function type. -/
def opensFunctionType (g : Grammar) : Parser Bool :=
  ahead do
    bump
    if ← seesOneOf [")", "..."] then return true
    else if ← skipParameterStart g then
      if ← seesOneOf [":", ",", "?", "="] then return true
      else if ← accept ")" then sees "=>"
      else return false
    else return false

/-- Whether a function type or a constructor type starts here. -/
def startsFunctionType (g : Grammar) : Parser Bool := do
  let t ← current
  if t.isOneOf ["<", "new"] then return true
  else if t.is "(" then opensFunctionType g
  else if t.is "abstract" then return (← following).is "new"
  else return false

/-- A function type or a constructor type. Its result may also stand after a colon. -/
def functionType (g : Grammar) : Parser Tree := do
  let start ← here
  let _ ← accept "abstract"
  let builds ← accept "new"
  let typeParams ← typeParameters g
  let (this, params) ← parameters g .plain
  noteIf (builds && !this.isEmpty)
  if !(← accept ":") then expect "=>"
  let result ← returnType g
  typeFrom start (typeParams ++ this ++ params ++ [result])

/-- What may end a member of an object type: a comma or a semicolon. -/
def memberEnd : Parser Unit := do
  if ← accept "," then return ()
  else
    let _ ← accept ";"
    return ()

def opensIndexSignature : Parser Bool := do
  if ← sees "[" then
    ahead do
      bump
      let t ← current
      if t.isOneOf ["...", "["] then return true
      else if t.isOneOf modifierWords then
        advance
        let next ← current
        if next.isName || next.isOneOf [":", ","] then return true
        else if ← accept "?" then seesOneOf [":", ",", "]"]
        else return false
      else if !t.isName then return false
      else
        advance
        if ← seesOneOf [":", ","] then return true
        else if ← accept "?" then seesOneOf [":", ",", "]"]
        else return false
  else return false

def indexSignature (g : Grammar) : Parser Tree := do
  let start ← here
  expect "["
  let name ← anyName
  let keyType ← typeAnnotation g
  if keyType.isEmpty then fail
  expect "]"
  let valueType ← typeAnnotation g
  if valueType.isEmpty then fail
  memberEnd
  typeFrom start (name :: keyType ++ valueType)

def signature (g : Grammar) : Parser (List Tree) := do
  let typeParams ← typeParameters g
  let (this, params) ← parameters g .plain
  let result ← returnAnnotation g
  return typeParams ++ this ++ params ++ result

/-- The signature of what `new` makes, which has no parameter `this`. -/
def constructSignature (g : Grammar) : Parser (List Tree) := do
  let typeParams ← typeParameters g
  let (this, params) ← parameters g .plain
  noteIf !this.isEmpty
  let result ← returnAnnotation g
  return typeParams ++ params ++ result

/-- The signature of what reads or writes a property. It has no type parameters, and what writes has no
return type. -/
def accessorSignature (g : Grammar) (writes : Bool) : Parser (List Tree) := do
  let (this, params) ← parameters g .plain
  let result ← returnAnnotation g
  noteIf (writes && !result.isEmpty)
  return this ++ params ++ result

def typeMember (g : Grammar) : Parser Tree := do
  let start ← here
  if ← seesOneOf ["(", "<"] then
    let parts ← signature g
    memberEnd
    typeFrom start parts
  else if (← sees "new") && (← following).isOneOf ["(", "<"] then
    bump
    let parts ← constructSignature g
    memberEnd
    typeFrom start parts
  else
    let found ← modifiers false false
    allowModifiers found ["readonly"]
    let writes ← sees "set"
    if ← accessorOf ["get", "set"] then
      let key ← propertyKey g
      let parts ← accessorSignature g writes
      memberEnd
      typeFrom start (key :: parts)
    else if ← opensIndexSignature then indexSignature g
    else
      let key ← propertyKey g
      let _ ← accept "?"
      if ← seesOneOf ["(", "<"] then
        let parts ← signature g
        memberEnd
        typeFrom start (key :: parts)
      else
        let annotation ← typeAnnotation g
        memberEnd
        typeFrom start (key :: annotation)

def typeMembers (g : Grammar) : Parser (List Tree) := do
  expect "\x7b"
  let list ← within ({ · with noConditionalType := false })
    (untilStop (sees "\x7d") do if (← current).isEnd then fail else typeMember g)
  expect "\x7d"
  return list

def opensMappedType : Parser Bool :=
  ahead do
    bump
    if ← seesOneOf ["+", "-"] then
      bump
      sees "readonly"
    else
      let _ ← accept "readonly"
      if ← accept "[" then
        if (← current).isBindingName then
          advance
          sees "in"
        else return false
      else return false

/-- A mapped type. A semicolon may end it. -/
def mappedType (g : Grammar) : Parser Tree := do
  let start ← here
  expect "\x7b"
  if ← seesOneOf ["+", "-"] then
    bump
    expect "readonly"
  else
    let _ ← accept "readonly"
  expect "["
  let name ← bindingName
  expect "in"
  let keys ← g .type
  let renamed ← if ← accept "as" then pure [← g .type] else pure []
  expect "]"
  if ← seesOneOf ["+", "-"] then
    bump
    expect "?"
  else
    let _ ← accept "?"
  let annotation ← typeAnnotation g
  let _ ← accept ";"
  expect "\x7d"
  typeFrom start (name :: keys :: renamed ++ annotation)

def namesTupleElement : Parser Bool :=
  ahead do
    let _ ← accept "..."
    if (← current).isWord then
      advance
      if ← accept "?" then sees ":" else sees ":"
    else return false

/-- An element of a tuple type. The name of an optional element has the question mark, and the rest of
the elements is not optional. -/
def tupleElement (g : Grammar) : Parser Tree := do
  let start ← here
  if ← namesTupleElement then
    let rest ← accept "..."
    let name ← anyName
    let optional ← accept "?"
    noteIf (rest && optional)
    expect ":"
    let type ← g .type
    noteIf (type.hasKind .optionalType)
    typeFrom start [name, type]
  else
    let _ ← accept "..."
    g .type

/-- A template whose substitutions are read by `item`, of which several may stand together; a malformed
escape in a piece is a fault unless the template is tagged. -/
def templateWithin (item : Parser Tree) (tagged : Bool) : Nat → Parser (List Tree)
  | 0 => fail
  | n + 1 => do
      let value ← item
      if ← sees "\x7d" then
        continueTemplate
        let t ← current
        noteIf (t.escaped && !tagged)
        if t.kind = .templateTail then
          advance
          return [value]
        else if t.kind = .templateMiddle then
          advance
          let others ← templateWithin item tagged n
          return value :: others
        else fail
      else
        let others ← templateWithin item tagged n
        return value :: others

def templateParts (item : Parser Tree) (tagged : Bool) : Parser (List Tree) := do
  let t ← current
  noteIf (t.escaped && !tagged)
  if t.kind = .templateWhole then
    advance
    return []
  else if t.kind = .templateHead then
    advance
    templateWithin item tagged (← budget)
  else fail

/-- The type of something imported: from a source and perhaps with attributes. -/
def importType (g : Grammar) : Parser Tree := do
  let start ← here
  expect "import"
  expect "("
  let source ← stringLiteral
  let options ← if ← accept "," then
      if !(← sees "\x7b") then fail
      let options ← assignment g
      let _ ← accept ","
      pure [options]
    else pure []
  expect ")"
  let member ← if ← accept "." then pure [← dottedName] else pure []
  let arguments ← referenceArguments g
  typeFrom start (source :: options ++ member ++ arguments)

def typeQuery (g : Grammar) : Parser Tree := do
  let start ← here
  expect "typeof"
  if ← sees "import" then
    let type ← importType g
    typeFrom start [type]
  else
    let name ← dottedName
    let arguments ← if (← current).newline then pure [] else optionalTypeArguments g
    typeFrom start (name :: arguments)

/-- Whether `asserts` here says what a function asserts. -/
def assertsSomething : Parser Bool :=
  ahead do
    advance
    let t ← current
    return !t.newline && (t.isName || t.is "this")

def assertionType (g : Grammar) : Parser Tree := do
  let start ← here
  expect "asserts"
  let _ ← anyName
  let type ← if ← accept "is" then pure [← g .type] else pure []
  typeFrom start type

/-- The words that are types by themselves, unless a point follows them. -/
def typeWords : List String :=
  ["any", "bigint", "boolean", "never", "number", "object", "string", "symbol", "undefined", "unknown"]

/-- The tokens before which a question mark is a type of its own. -/
def unknownTypeEnds : List String := [",", "\x7d", ")", ">", "=", "|"]

def plainType (g : Grammar) : Parser Tree := do
  let start ← here
  let t ← current
  if t.kind = .string || t.kind = .number || t.isOneOf ["true", "false"] then
    advance
    typeFrom start []
  else if t.isTemplate then
    let parts ← templateParts (g .type) false
    typeFrom start parts
  else if t.is "-" then
    bump
    if (← current).kind = .number then
      advance
      typeFrom start []
    else fail
  else if t.is "this" then
    bump
    let t ← current
    if t.is "is" && !t.newline then
      bump
      let type ← g .type
      typeFrom start [type]
    else typeFrom start []
  else if t.is "typeof" then typeQuery g
  else if t.is "\x7b" then
    if ← opensMappedType then mappedType g
    else
      let members ← typeMembers g
      typeFrom start members
  else if t.is "[" then
    bump
    let (elements, _) ← commaList "]" (tupleElement g)
    expect "]"
    nodeFrom start .listType elements
  else if t.is "(" then
    bump
    let type ← g .type
    expect ")"
    typeFrom start [type]
  else if t.is "import" then importType g
  else if t.is "asserts" then
    if ← assertsSomething then assertionType g else typeReference g
  else if t.isOneOf ["?", "!"] then
    bump
    if t.is "?" && (← seesOneOf unknownTypeEnds) then typeFrom start []
    else
      let type ← g .type
      typeFrom start [type]
  else if t.isOneOf ["null", "void"] || (t.isOneOf typeWords && !(← following).is ".") then
    bump
    typeFrom start []
  else typeReference g

/-- A bounded number of suffixes of a type: brackets, perhaps around an index, and marks. -/
def typeSuffixes (g : Grammar) (start : Nat) (type : Tree) : Nat → Parser Tree
  | 0 => fail
  | n + 1 => do
      let t ← current
      if t.newline then return type
      else if t.is "!" then
        bump
        let present ← typeFrom start [type]
        typeSuffixes g start present n
      else if t.is "?" then
        if ← ahead do bump; startsType then return type
        else
          bump
          let optional ← nodeFrom start .optionalType [type]
          typeSuffixes g start optional n
      else if t.is "[" then
        bump
        if ← startsType then
          let index ← g .type
          expect "]"
          let indexed ← typeFrom start [type, index]
          typeSuffixes g start indexed n
        else
          expect "]"
          let array ← nodeFrom start .listType [type]
          typeSuffixes g start array n
      else return type

/-- A type parameter that is inferred, perhaps with a bound. -/
def inferredType (g : Grammar) : Parser Tree := do
  let start ← here
  expect "infer"
  let name ← bindingName
  let bound ← attempt do
    expect "extends"
    let bound ← within ({ · with noConditionalType := true }) (g .type)
    if (← context).noConditionalType then return bound
    else if ← sees "?" then fail
    else return bound
  typeFrom start (name :: bound.toList)

/-- A type without `|` and `&`. Only arrays and tuples can be read-only. -/
def typeOperand (g : Grammar) : Parser Tree := do
  let start ← here
  let t ← current
  if t.isOneOf ["keyof", "unique", "readonly"] then
    bump
    let type ← g .typeOperand
    noteIf (t.is "readonly" && !type.hasKind .listType)
    typeFrom start [type]
  else if ← sees "infer" then inferredType g
  else
    within ({ · with noConditionalType := false }) do
      let type ← plainType g
      typeSuffixes g start type (← budget)

/-- Types joined by an operator, which may also stand in front of the first. -/
def joinedTypes (operator : String) (item : Parser Tree) : Parser Tree := do
  let start ← here
  let leading ← accept operator
  let types ← separated operator item
  match types with
  | [one] => if leading then typeFrom start [one] else return one
  | several => typeFrom start several

def type (g : Grammar) : Parser Tree := do
  let start ← here
  if ← startsFunctionType g then functionType g
  else
    let type ← joinedTypes "|" (joinedTypes "&" (typeOperand g))
    let t ← current
    if !(← context).noConditionalType && !t.newline && t.is "extends" then
      bump
      let bound ← within ({ · with noConditionalType := true }) (g .type)
      expect "?"
      let yes ← within ({ · with noConditionalType := false }) (g .type)
      expect ":"
      let no ← within ({ · with noConditionalType := false }) (g .type)
      typeFrom start [type, bound, yes, no]
    else return type

end HandlerGuard.Script.Parser
