import HandlerGuard.Script.Grammar.Declaration

namespace HandlerGuard.Script.Parser

def wordOrString : Parser Token := do
  let t ← current
  if t.kind = .string then
    advance
    return t
  else if t.isWord then
    advance
    return t
  else fail

/-- A name that a module exports: any word, or a string whose characters are all whole. -/
def exportedName : Parser Token := do
  let t ← wordOrString
  noteIf (t.kind = .string && t.escaped)
  return t

/-- An attribute of an import; its key. -/
def importAttribute : Parser (Tree × Text) := do
  let start ← here
  let t ← wordOrString
  expect ":"
  let value ← stringLiteral
  return (← nodeFrom start .part [value], t.text)

def hasDuplicate : List Text → Bool
  | [] => false
  | t :: rest => rest.contains t || hasDuplicate rest

/-- The attributes of an import, each with a key of its own. -/
def importAttributes : Parser (List Tree) := do
  let t ← current
  if t.is "with" || (t.is "assert" && !t.newline) then
    bump
    expect "\x7b"
    let (list, _) ← commaList "\x7d" importAttribute
    noteIf (hasDuplicate (list.map Prod.snd))
    expect "\x7d"
    return list.map Prod.fst
  else return []

/-- The source of an import or an export, with its attributes. -/
def moduleSource : Parser (List Tree) := do
  let source ← stringLiteral
  let attributes ← importAttributes
  return source :: attributes

/-- Whether the current token may be a name that a module exports. -/
def seesExportedName : Parser Bool := do
  let t ← current
  return t.isWord || t.kind = .string

/-- The names of a specifier whose first name is read: another one may follow after `as`. -/
def renamed (t : Token) : Parser (Token × Token) := do
  if ← accept "as" then
    let last ← exportedName
    return (t, last)
  else return (t, t)

/-- The names of an import or export specifier: the one in the module it comes from and the one it
has here. Where types may be written, `type` may stand before them, unless it stands before all of
them, and may itself be a name. -/
def specifierNames (typeOnly : Bool) : Parser (Token × Token) := do
  let first ← exportedName
  if first.isWord && first.text = "type".toList && (← context).types then
    if ← sees "as" then
      let firstAs ← exportedName
      if ← sees "as" then
        let secondAs ← exportedName
        if ← seesExportedName then
          noteIf (typeOnly || first.escaped)
          let last ← exportedName
          return (firstAs, last)
        else return (first, secondAs)
      else if ← seesExportedName then
        let last ← exportedName
        return (first, last)
      else
        noteIf (typeOnly || first.escaped)
        return (firstAs, firstAs)
    else if ← seesExportedName then
      noteIf (typeOnly || first.escaped)
      let second ← exportedName
      renamed second
    else return (first, first)
  else renamed first

def importSpecifier (typeOnly : Bool) : Parser Tree := do
  let start ← here
  let (_, t) ← specifierNames typeOnly
  if t.kind = .word && !t.isReserved then
    nodeFrom start .part [.identifier ⟨t.start, t.stop⟩ t.text]
  else fail

def importedNames (typeOnly : Bool) : Parser (List Tree) := do
  if ← accept "*" then
    expect "as"
    return [← bindingName]
  else
    expect "\x7b"
    let (list, _) ← commaList "\x7d" (importSpecifier typeOnly)
    expect "\x7d"
    return list

/-- An import after its first name, if it has one. -/
def importRest (start : Nat) (typeOnly : Bool) (first : List Tree) : Parser Tree := do
  let names ←
    if first.isEmpty then importedNames typeOnly
    else if ← accept "," then pure (first ++ (← importedNames typeOnly))
    else pure first
  expect "from"
  let source ← moduleSource
  semicolon
  nodeFrom start .declaration (names ++ source)

/-- Whether `type` after `import` stands before what is imported. -/
def importsType : Parser Bool := do
  if (← context).types && (← sees "type") then
    ahead do
      advance
      let t ← current
      if t.isOneOf ["\x7b", "*"] then return true
      else if t.is "from" then
        advance
        seesOneOf ["from", "="]
      else return t.isBindingName
  else return false

/-- Whether a word after `import` says in which phase the module is imported. -/
def importsPhase : Parser Bool := do
  if ← sees "defer" then return (← following).is "*"
  else if ← sees "source" then
    ahead do
      advance
      let t ← current
      if t.is "from" then
        advance
        sees "from"
      else return t.isBindingName
  else return false

def importDeclaration (start : Nat) : Parser Tree := do
  expect "import"
  if (← current).kind = .string then
    let source ← moduleSource
    semicolon
    nodeFrom start .declaration source
  else
    let typeOnly ← importsType
    if typeOnly then bump
    else if ← importsPhase then bump
    let t ← current
    if t.isBindingName then
      let name ← bindingName
      if ← sees "=" then importEquals start name else importRest start typeOnly [name]
    else importRest start typeOnly []

/-- Remembers exported names. A name is exported once, unless types may be written. -/
def recordExports (names : List Text) : Parser Unit := do
  let s ← state
  noteIf (!(← context).types && hasDuplicate (names ++ s.exports))
  modify fun s => { s with exports := names ++ s.exports }

/-- The words that cannot be exported under their own name from this module. -/
def unexportableWords : List String :=
  ["implements", "interface", "let", "package", "private", "protected", "public", "static"]

/-- Whether the token cannot refer to a binding of this module in an export. -/
def unexportable (t : Token) : Bool :=
  t.kind = .string || t.isReserved || t.isOneOf unexportableWords

/-- Exported names in braces, with or without a source. A source is a literal after `from`. -/
def exportNames (start : Nat) (typeOnly : Bool) : Parser Tree := do
  expect "\x7b"
  let (list, _) ← commaList "\x7d" (specifierNames typeOnly)
  expect "\x7d"
  recordExports (list.map (·.2.text))
  if (← accept "from") && (← current).isLiteral then
    let source ← moduleSource
    semicolon
    nodeFrom start .declaration source
  else
    noteIf (list.any fun names => unexportable names.1)
    semicolon
    nodeFrom start .declaration []

/-- Everything of another module, perhaps under one name. -/
def exportAll (start : Nat) : Parser Tree := do
  expect "*"
  if ← accept "as" then
    let t ← exportedName
    recordExports [t.text]
  expect "from"
  let source ← moduleSource
  semicolon
  nodeFrom start .declaration source

/-- The decorators here, after those that stand before `export`. They stand in one of the two places. -/
def moreDecorators (g : Grammar) (marks : List Tree) : Parser (List Tree) := do
  let more ← decorators g
  noteIf (!marks.isEmpty && !more.isEmpty)
  return marks ++ more

/-- The default export: a function, a class, an interface or an expression. Only a class has
decorators. -/
def exportDefault (g : Grammar) (start : Nat) (marks : List Tree) : Parser Tree := do
  expect "default"
  recordExports ["default".toList]
  let inner ← here
  let marks ← moreDecorators g marks
  let t ← current
  let next ← following
  if t.is "class" then
    let value ← classFrom g inner marks
    nodeFrom start .declaration [value]
  else if t.is "abstract" && next.is "class" && !next.newline then
    bump
    let value ← classFrom g inner marks
    nodeFrom start .declaration [value]
  else
    noteIf !marks.isEmpty
    let value ←
      if ← seesFunction then pure (← functionFrom g .free).1
      else if t.is "interface" && !next.newline then interface g inner
      else
        let e ← assignment g
        semicolon
        pure e
    nodeFrom start .declaration [value]

def declaredNames : Tree → List Text
  | .node _ .declaration list => Tree.boundNamesOf list
  | .node _ .function (.identifier _ name :: _) => [name]
  | .node _ .classDefinition parts =>
      (parts.filterMap fun
        | .identifier _ name => some name
        | _ => none).take 1
  | _ => []

def exportDeclaration (g : Grammar) (start : Nat) (marks : List Tree) : Parser Tree := do
  let inner ← here
  let marks ← moreDecorators g marks
  let declared ←
    if (← context).types then declaration g inner marks
    else
      let t ← current
      noteIf (!marks.isEmpty && !t.is "class")
      if t.is "class" then classFrom g inner marks
      else if t.isOneOf ["var", "let", "const"] then variableStatement g .list
      else if ← seesFunction then functionStatement g .list
      else fail
  recordExports (declaredNames declared)
  nodeFrom start .declaration [declared]

/-- An export of something that is no declaration, if one stands after `export`. -/
def plainExport? (g : Grammar) (start : Nat) : Parser (Option Tree) := do
  let t ← current
  let next ← following
  let types := (← context).types
  if types && t.is "=" then
    bump
    let value ← assignment g
    semicolon
    return some (← nodeFrom start .declaration [value])
  else if types && t.is "as" && next.is "namespace" then
    bump
    bump
    let name ← anyName
    semicolon
    return some (← nodeFrom start .declaration [name])
  else if t.is "*" then return some (← exportAll start)
  else if t.is "\x7b" then return some (← exportNames start false)
  else if types && t.is "type" && next.is "\x7b" then
    bump
    return some (← exportNames start true)
  else if types && t.is "type" && next.is "*" then
    bump
    return some (← exportAll start)
  else return none

def exportStatement (g : Grammar) (start : Nat) (marks : List Tree) : Parser Tree := do
  expect "export"
  if ← sees "default" then exportDefault g start marks
  else
    match ← plainExport? g start with
    | some tree =>
        noteIf !marks.isEmpty
        return tree
    | none => exportDeclaration g start marks

end HandlerGuard.Script.Parser
