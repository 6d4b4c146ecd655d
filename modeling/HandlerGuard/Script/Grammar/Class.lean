import HandlerGuard.Script.Grammar.Type

namespace HandlerGuard.Script.Parser

/-- A token that is the given name, as a word or as a string. -/
def names (t : Token) (name : String) : Bool :=
  (t.isWord || t.kind = .string) && t.text = name.toList

/-- Notes the keys that no member may have: a private name that is `constructor`, or one with a modifier
that says from where the member is seen. -/
def checkMemberKey (t : Token) (found : List Text) : Parser Unit :=
  noteIf (t.kind = .privateName && (t.text = "constructor".toList || hasModifier found accessWords))

/-- Notes `prototype` as the key of a static member, unless it is defined elsewhere. -/
def checkStaticKey (t : Token) (found : List Text) : Parser Unit := do
  let ambient := (← context).ambient
  noteIf (!ambient && hasModifier found ["static"] && names t "prototype")

def staticBlock (g : Grammar) : Parser Tree := do
  let start ← here
  bump
  let list ←
    within ({ · with awaitAllowed := true, yieldAllowed := false, returnAllowed := false })
      (statementsInBraces g)
  nodeFrom start .part list

/-- Notes a method without a body that has decorators, and one with a body that is abstract. -/
def checkBody (parts : FunctionParts) (marks : List Tree) (found : List Text) : Parser Unit :=
  noteIf (if parts.hasBody then hasModifier found ["abstract"] else !marks.isEmpty)

def methodRest (g : Grammar) (marks : List Tree) (found : List Text) (generator : Bool) :
    Parser Tree := do
  let start ← here
  allowModifiers found (accessWords ++ ["static", "abstract", "override", "async"])
  let parts ← functionRest g .method (hasModifier found ["async"]) generator false
  checkBody parts marks found
  methodFrom start parts

def memberValue (g : Grammar) : Parser (List Tree) :=
  within ({ · with inOperator := true, awaitAllowed := false, yieldAllowed := false }) do
    if ← accept "=" then return [← assignment g] else return []

/-- A member that holds a value, after its key. An abstract one has no initial value. -/
def fieldRest (g : Grammar) (found : List Text) : Parser (List Tree) := do
  let annotation ← typeAnnotation g
  let value ← memberValue g
  semicolon
  noteIf (hasModifier found ["abstract"] && !value.isEmpty)
  return annotation ++ value

/-- A method or a field, after its decorators and modifiers. -/
def methodOrField (g : Grammar) (start : Nat) (marks : List Tree) (found : List Text) :
    Parser Tree := do
  let generator ← accept "*"
  let t ← current
  checkMemberKey t found
  let key ← memberKey g
  let optional ← accept "?"
  if generator || (← seesOneOf ["(", "<"]) then
    checkStaticKey t found
    noteIf (!hasModifier found ["static"] && names t "constructor")
    let value ← methodRest g marks found generator
    nodeFrom start .part (marks ++ [key, value])
  else
    let later ← accept "!"
    noteIf (optional && later)
    noteIf (names t "constructor")
    if hasModifier found ["accessor"] then
      allowModifiers found (accessWords ++ ["accessor", "static", "abstract", "override"])
      noteIf optional
    else checkStaticKey t found
    let parts ← fieldRest g found
    nodeFrom start .part (marks ++ key :: parts)

/-- A method that reads or writes a property, after its first word. -/
def accessor (g : Grammar) (start : Nat) (marks : List Tree) (found : List Text)
    (check : FunctionParts → Parser Unit) : Parser Tree := do
  forbidModifiers found ["async", "declare", "readonly"]
  let t ← current
  checkMemberKey t found
  checkStaticKey t found
  noteIf (!hasModifier found ["static"] && names t "constructor")
  let key ← memberKey g
  let inner ← here
  let parts ← functionRest g .method false false false
  check parts
  checkBody parts marks found
  let value ← methodFrom inner parts
  nodeFrom start .part (marks ++ [key, value])

/-- Whether the constructor of the class is written here. -/
def seesConstructor (found : List Text) : Parser Bool := do
  if hasModifier found ["static"] || !names (← current) "constructor" then return false
  else return (← following).is "("

/-- The constructor of the class. It has no decorators and does not wait. -/
def constructorMember (g : Grammar) (start : Nat) (marks : List Tree) (found : List Text) :
    Parser Tree := do
  forbidModifiers found ["async"]
  noteIf !marks.isEmpty
  let key ← propertyKey g
  let inner ← here
  let parts ← functionRest g .constructor false false false
  let value ← methodFrom inner parts
  nodeFrom start .part [key, value]

def classMember (g : Grammar) : Parser Tree := do
  let start ← here
  let marks ← decorators g
  let found ← modifiers true true
  forbidModifiers found ["const"]
  if (← sees "static") && (← following).is "\x7b" then
    noteIf (!marks.isEmpty || !found.isEmpty)
    staticBlock g
  else if ← accessorWord "get" then accessor g start marks found checkGetter
  else if ← accessorWord "set" then accessor g start marks found checkSetter
  else if ← seesConstructor found then constructorMember g start marks found
  else if ← opensIndexSignature then
    noteIf !marks.isEmpty
    allowModifiers found ["readonly", "static"]
    indexSignature g
  else if hasModifier found ["declare"] then
    within ({ · with ambient := true }) (methodOrField g start marks found)
  else methodOrField g start marks found

def classMembers (g : Grammar) : Parser (List Tree) := do
  expect "\x7b"
  let list ← untilStop (sees "\x7d") do
    let start ← here
    if ← accept ";" then nodeFrom start .part []
    else if (← current).isEnd then fail
    else classMember g
  expect "\x7d"
  return list

def extended (g : Grammar) : Parser (List Tree) := do
  let base ← g .leftHand
  match base with
  | .node _ .instantiation _ => return [base]
  | _ => return base :: (← optionalTypeArguments g)

/-- A bounded number of clauses that say what a class extends and implements. Each stands once, and
`extends` comes first; what stands after the first base is passed over. -/
def heritageWithin (g : Grammar) (extendsSeen implementsSeen : Bool) : Nat → Parser (List Tree)
  | 0 => fail
  | n + 1 => do
      if ← accept "extends" then
        noteIf (extendsSeen || implementsSeen)
        let bases ← separated "," (extended g)
        let others ← heritageWithin g true implementsSeen n
        return bases.headD [] ++ others
      else if ← accept "implements" then
        noteIf implementsSeen
        let bases ← separated "," do
          let start ← here
          let name ← dottedName
          let arguments ← optionalTypeArguments g
          typeFrom start (name :: arguments)
        let others ← heritageWithin g extendsSeen true n
        return bases ++ others
      else return []

def classFrom (g : Grammar) (start : Nat) (marks : List Tree) : Parser Tree := do
  expect "class"
  let t ← current
  let name ← if t.isBindingName && !t.is "implements" then pure [← bindingName] else pure []
  let typeParams ← typeParameters g
  let heritage ← heritageWithin g false false (← budget)
  let members ← classMembers g
  nodeFrom start .classDefinition (marks ++ name ++ typeParams ++ heritage ++ members)

end HandlerGuard.Script.Parser
