import HandlerGuard.Script.Grammar.Basic

namespace HandlerGuard.Script.Parser

/-- Reads the current token anew as the given lexeme, which starts where the token starts. -/
def replaceToken (found : Lexeme) : Parser Unit :=
  modify fun s =>
    { s with
      token :=
        { s.token with
          kind := found.kind
          text := found.text
          stop := found.offset
          escaped := found.escaped }
      rest := found.rest
      flawed := s.flawed || !found.sound }

/-- The operators that begin with `>`, without it. -/
def angleTails : List Text := [">>=", ">>", ">=", ">", "="].map String.toList

/-- Joins a `>` with what follows it to the longest operator. -/
def joinAngle : Parser Unit := do
  let s ← state
  if s.token.is ">" then
    match angleTails.find? (·.isPrefixOf s.rest) with
    | some tail =>
        replaceToken ⟨.punctuator, '>' :: tail, s.rest.drop tail.length, s.token.stop + tail.length,
          true, false⟩
    | none => pure ()
  else pure ()

/-- Cuts an operator that begins with `<` after its first character. -/
def splitAngle : Parser Unit := do
  let s ← state
  match s.token.text with
  | '<' :: c :: tail =>
      if s.token.kind = .punctuator then
        replaceToken ⟨.punctuator, ['<'], (c :: tail) ++ s.rest, s.token.start + 1, true, false⟩
      else pure ()
  | _ => pure ()

/-- Reads on the template after a substitution, which the current brace closes. -/
def continueTemplate : Parser Unit := do
  let s ← state
  if s.token.is "\x7d" then replaceToken (readTemplateOn s.token.stop s.rest) else fail

/-- Reads the current `/` or `/=` as the start of a regular expression. -/
def startRegex : Parser Unit := do
  let s ← state
  let body := if s.token.is "/=" then '=' :: s.rest else s.rest
  replaceToken (regexChars false false (s.token.start + 1) body)

/-- What may follow the first part of a name in markup: more parts, joined by hyphens. -/
def isMarkupNamePart (c : Char) : Bool := c = '-' || isNamePart c

def extendMarkupName : Parser Unit := do
  let s ← state
  if s.token.isWord && s.rest.head? = some '-' then
    let tail := s.rest.takeWhile isMarkupNamePart
    replaceToken ⟨.word, s.token.text ++ tail, s.rest.drop tail.length,
      s.token.stop + Text.byteLength tail, true, s.token.escaped⟩
  else pure ()

/-- The token between tags: a bracket, a brace, the end or text. Text holds no closing bracket or
brace. -/
def readMarkupChild (offset : Nat) (t : Text) : Lexed :=
  let token (kind : TokenKind) (text : Text) (stop : Nat) : Token :=
    ⟨kind, text, offset, stop, false, false⟩
  match t with
  | [] => ⟨token .ended [] offset, [], true⟩
  | c :: rest =>
      if c = '<' || c = '\x7b' then ⟨token .punctuator [c] (offset + 1), rest, true⟩
      else
        let text := t.takeWhile fun x => x != '<' && x != '\x7b'
        ⟨token .markupText text (offset + Text.byteLength text), t.drop text.length,
          text.all fun x => x != '>' && x != '\x7d'⟩

def advanceMarkup : Parser Unit := fun c s =>
  moveTo (readMarkupChild s.token.stop s.rest) c s

/-- Moves past a punctuator that must be there to the next token between tags, or of the script if the
markup ends. -/
def expectBeforeMarkup (s : String) (child : Bool) : Parser Unit := do
  if ← sees s then
    if child then advanceMarkup else bump
  else fail

/-- A string in markup, which has no escapes and may hold line breaks. -/
def readMarkupString (quote : Char) (offset : Nat) (t : Text) : Lexeme :=
  let content := t.takeWhile (· != quote)
  let stop := offset + Text.byteLength content
  match t.drop content.length with
  | _ :: rest => ⟨.string, content, rest, stop + 1, true, false⟩
  | [] => ⟨.unknown, [], [], stop, false, false⟩

/-- Moves past the `=` of an attribute to its value. -/
def advanceToAttribute : Parser Unit := do
  let s ← state
  let gap := skipGap .between false s.token.stop s.rest
  match gap.rest with
  | c :: rest =>
      if c = '"' || c = '\'' then
        let found := readMarkupString c (gap.offset + 1) rest
        moveTo ⟨⟨found.kind, found.text, gap.offset, found.offset, gap.newline, false⟩, found.rest,
          found.sound⟩
      else advance
  | [] => advance

end HandlerGuard.Script.Parser
