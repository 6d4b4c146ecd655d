import HandlerGuard.Script.Grammar.Rule

namespace HandlerGuard.Script.Parser

def anyName : Parser Tree := do
  let start ← here
  if (← current).isWord then
    advance
    nodeFrom start .label []
  else fail

/-- A name after `#`. -/
def privateName : Parser Tree := do
  let start ← here
  if (← current).kind = .privateName then
    advance
    nodeFrom start .label []
  else fail

def refers (t : Token) : Parser Bool := do
  let c ← context
  return t.isName || (t.is "yield" && !c.yieldAllowed) || (t.is "await" && !c.awaitAllowed)

def reference : Parser Tree := do
  let t ← current
  if ← refers t then
    advance
    return .identifier ⟨t.start, t.stop⟩ t.text
  else fail

/-- Notes a fault if a token that introduces a binding is an operator here. -/
def checkBinding (t : Token) : Parser Unit := do
  let c ← context
  noteIf ((t.is "yield" && c.yieldAllowed) || (t.is "await" && c.awaitAllowed))

/-- A name that introduces a binding. `yield` and `await` are none where they are operators. -/
def bindingName : Parser Tree := do
  let t ← current
  if t.isBindingName then
    checkBinding t
    advance
    return .identifier ⟨t.start, t.stop⟩ t.text
  else fail

def stringLiteral : Parser Tree := do
  let start ← here
  if (← current).kind = .string then
    advance
    nodeFrom start .stringLiteral []
  else fail

def literal : Parser Tree := do
  let start ← here
  advance
  nodeFrom start .literal []

def computedKey (g : Grammar) : Parser Tree := do
  let start ← here
  expect "["
  let key ← withIn (assignment g)
  expect "]"
  nodeFrom start .part [key]

/-- The key of a property: a string, a number, a key in brackets or any word. -/
def propertyKey (g : Grammar) : Parser Tree := do
  let t ← current
  if t.kind = .string then stringLiteral
  else if t.kind = .number then literal
  else if t.is "[" then computedKey g
  else anyName

/-- The key of a class member, which may be a private name. -/
def memberKey (g : Grammar) : Parser Tree := do
  if (← current).kind = .privateName then privateName else propertyKey g

/-- Whether a token may be the key of a property and needs no brackets. -/
def isPlainKey (t : Token) : Bool := t.isWord || t.kind = .string || t.kind = .number

/-- The decorators that stand here. None of them is skipped where something is missing. -/
def decorators (g : Grammar) : Parser (List Tree) :=
  untilStop (do return !(← sees "@")) do
    let start ← here
    bump
    let e ← within ({ · with decorator := true }) (g .leftHand)
    noteIf (e.hasKind .optionalChain)
    nodeFrom start .part [e]

def modifierWords : List String :=
  ["abstract", "accessor", "async", "const", "declare", "default", "export", "in", "out", "override",
    "private", "protected", "public", "readonly", "static"]

/-- The words that say from where a member is seen. -/
def accessWords : List String := ["private", "protected", "public"]

def isModifier (m : Text) (words : List String) : Bool := words.any fun word => m = word.toList

/-- Some of the modifiers are among the given words. -/
def hasModifier (found : List Text) (words : List String) : Bool := found.any (isModifier · words)

/-- The modifiers that a modifier must not follow. None follows itself, and of those that say from where
a member is seen there is only one. -/
def mustPrecede (m : Text) : List String :=
  if isModifier m accessWords then
    accessWords ++ ["override", "static", "accessor", "readonly", "async"]
  else if isModifier m ["static"] then ["static", "readonly", "async", "accessor", "override"]
  else if isModifier m ["override"] then ["override", "readonly", "accessor", "async", "declare"]
  else if isModifier m ["abstract"] then ["abstract", "override", "accessor"]
  else if isModifier m ["export"] then ["export", "declare", "abstract", "async"]
  else [String.ofList m]

def followsModifier : Parser Bool := do
  let t ← current
  return isPlainKey t || t.kind = .privateName || t.isOneOf ["[", "\x7b", "*", "..."]

/-- Whether the current word is a modifier by what follows it. Only `static` may stand at the end of
a line. -/
def modifies : Parser Bool :=
  ahead do
    let sameLine := !(← sees "static")
    advance
    if sameLine && (← current).newline then return false else followsModifier

/-- The modifier that stands here. `const` is one only where it is permitted, and `static` is none
before a block. -/
def modifier? (permitConst inClass seenStatic : Bool) : Parser (Option Text) := do
  let t ← current
  if !t.isOneOf modifierWords then return none
  else if t.is "const" && !permitConst then return none
  else if t.is "static" && (seenStatic || (inClass && (← following).is "\x7b")) then return none
  else if ← modifies then
    bump
    return some t.text
  else return none

/-- A bounded number of modifiers after those seen, which are in order. -/
def modifiersWithin (permitConst inClass : Bool) (seen : List Text) : Nat → Parser (List Text)
  | 0 => fail
  | n + 1 => do
      match ← modifier? permitConst inClass (seen.contains "static".toList) with
      | some m =>
          noteIf (hasModifier seen (mustPrecede m))
          modifiersWithin permitConst inClass (m :: seen) n
      | none => return seen.reverse

def modifiers (permitConst inClass : Bool) : Parser (List Text) := do
  modifiersWithin permitConst inClass [] (← budget)

/-- Notes a fault unless all modifiers are among the allowed ones. -/
def allowModifiers (found : List Text) (allowed : List String) : Parser Unit :=
  noteIf (found.any (!isModifier · allowed))

/-- Notes a fault if some of the modifiers are among the given ones. -/
def forbidModifiers (found : List Text) (forbidden : List String) : Parser Unit :=
  noteIf (hasModifier found forbidden)

/-- Moves past `get` or `set` if a key follows it. -/
def accessorWord (word : String) : Parser Bool := do
  if ← sees word then
    let follows ← ahead do
      advance
      let t ← current
      return isPlainKey t || t.kind = .privateName || t.is "["
    if follows then
      bump
      return true
    else return false
  else return false

/-- Moves past the first of the given words if a key follows it. -/
def accessorOf : List String → Parser Bool
  | [] => return false
  | word :: others => do
      if ← accessorWord word then return true else accessorOf others

end HandlerGuard.Script.Parser
