import HandlerGuard.Text.Basic

namespace HandlerGuard.Script

/-- The kinds of token. -/
inductive TokenKind where
  /-- A name or a keyword; the text is the name with its escapes decoded. -/
  | word
  /-- A name after `#`. -/
  | privateName
  /-- An operator or a bracket. -/
  | punctuator
  | number
  /-- A string; the text is its value, with its escapes decoded. -/
  | string
  /-- A template without substitutions. -/
  | templateWhole
  /-- A template up to its first substitution. -/
  | templateHead
  /-- A template between two substitutions. -/
  | templateMiddle
  /-- A template after its last substitution. -/
  | templateTail
  | regex
  /-- Text between markup tags. -/
  | markupText
  /-- The end of the text. -/
  | ended
  /-- What is no token. -/
  | unknown
deriving DecidableEq, Repr, Inhabited

/-- A token with its place in the text. -/
structure Token where
  kind : TokenKind
  text : Text
  start : Nat
  stop : Nat
  /-- A line break stands between the token before and this one. -/
  newline : Bool
  /-- A word that is written with escapes, a piece of a template with a malformed escape, or a string
  whose value holds half of a surrogate pair. -/
  escaped : Bool
deriving DecidableEq, Repr, Inhabited

/-- The words that are never names. `await` and `yield` are names where the context allows. -/
def reservedWords : List Text :=
  ["await", "break", "case", "catch", "class", "const", "continue", "debugger", "default", "delete",
    "do", "else", "enum", "export", "extends", "false", "finally", "for", "function", "if", "import",
    "in", "instanceof", "new", "null", "return", "super", "switch", "this", "throw", "true", "try",
    "typeof", "var", "void", "while", "with", "yield"].map String.toList

/-- The words that are names and have a meaning of their own in some places. -/
def contextualWords : List Text :=
  ["abstract", "accessor", "any", "as", "assert", "asserts", "async", "bigint", "boolean",
    "constructor", "declare", "defer", "from", "get", "global", "implements", "infer", "interface",
    "intrinsic", "is", "keyof", "let", "meta", "module", "namespace", "never", "number", "object", "of",
    "out", "override", "package", "private", "protected", "public", "readonly", "require", "satisfies",
    "set", "source", "static", "string", "symbol", "target", "type", "undefined", "unique", "unknown",
    "using"].map String.toList

/-- The punctuators, each before those it begins with. Those that begin with `>` are read one
character at a time and joined where an operator is expected. -/
def punctuators : List Text :=
  ["...", "=>", "===", "==", "=", "!==", "!=", "!", "++", "+=", "+", "--", "-=", "-", "**=", "**",
    "*=", "*", "/=", "/", "%=", "%", "&&=", "&&", "&=", "&", "||=", "||", "|=", "|", "^=", "^", "~",
    "??=", "??", "?.", "?", ":", ";", ",", "(", ")", "[", "]", "\x7b", "\x7d", "@", ".", "<<=", "<<",
    "<=", "<", ">"].map String.toList

namespace Token

def is (t : Token) (s : String) : Bool :=
  (t.kind = .word || t.kind = .punctuator) && t.text = s.toList

/-- The token is one of the given keywords or punctuators. -/
def isOneOf (t : Token) (ss : List String) : Bool := ss.any t.is

def isWord (t : Token) : Bool := t.kind = .word

def isReserved (t : Token) : Bool := t.kind = .word && reservedWords.contains t.text

def isName (t : Token) : Bool := t.kind = .word && !reservedWords.contains t.text

def isPlainName (t : Token) : Bool := t.isName && !contextualWords.contains t.text

/-- A word that may name a binding in some context. -/
def isBindingName (t : Token) : Bool := t.isName || t.is "yield" || t.is "await"

/-- The first or only piece of a template. -/
def isTemplate (t : Token) : Bool := t.kind = .templateWhole || t.kind = .templateHead

def isLiteral (t : Token) : Bool :=
  t.kind = .number || t.kind = .string || t.kind = .regex || t.is "true" || t.is "false" ||
    t.is "null"

def isEnd (t : Token) : Bool := t.kind = .ended

end Token

end HandlerGuard.Script
