import HandlerGuard.Json.Reader
import HandlerGuard.Settings.Layer
import HandlerGuard.Text.Blank
import HandlerGuard.Toml.Quoted

/-!
Settings from environment variables.

The name of a variable, without what it begins with, is a path of keys with underscores or dots between
them. Its value is read as a truth value, a number, a text, a list or a table; whatever cannot be read
so is a text as a whole.
-/
namespace HandlerGuard

/-- Names of variables and their values. -/
abbrev Environment := List (Text × Text)

namespace Environment

def isBlank (c : Char) : Bool :=
  c = ' ' || c = '\t' || c = '\n' || c = '\x0c' || c = '\r'

/-- A character that ends an unquoted value. -/
def isSeparator (c : Char) : Bool :=
  c = ',' || c = '\x7b' || c = '\x7d' || c = '[' || c = ']'

/-- A character of an unquoted key of a table. -/
def isKeyChar (c : Char) : Bool := c.isAlphanum || c = '_' || c = '-'

def skipBlanks (t : Text) : Text := t.dropWhile isBlank

/-- A decimal with a point, as far as the fraction: its digits and how many of them are behind the
point, and what follows. -/
def readPoint (t : Text) : Option (Text × Nat × Text) :=
  let whole := t.takeWhile Char.isDigit
  let (fraction, rest) :=
    match t.drop whole.length with
    | '.' :: rest =>
        let fraction := rest.takeWhile Char.isDigit
        (fraction, rest.drop fraction.length)
    | rest => ([], rest)
  if whole.isEmpty && fraction.isEmpty then none else some (whole ++ fraction, fraction.length, rest)

/-- The sign in front, whether it is a minus, and what follows it. -/
def splitSign : Text → Bool × Text
  | '+' :: rest => (false, rest)
  | '-' :: rest => (true, rest)
  | t => (false, t)

def float? (t : Text) : Option Binary64 := do
  let (negative, body) := splitSign t
  let (digits, places, rest) ← readPoint body
  let (exponent, rest) ← Json.readExponent rest
  if rest.isEmpty then
    some (Binary64.ofDecimal negative (Json.ofDigits digits) (exponent.getD 0 - (places : Int)))
  else none

/-- The number that digits write, if there are any and nothing else. -/
def digits? (t : Text) : Option Nat :=
  if !t.isEmpty && t.all Char.isDigit then some (Json.ofDigits t) else none

/-- The whole number of 64 bits that a text is, without a sign or with a plus. -/
def natural? (t : Text) : Option Nat := do
  let n ←
    match t with
    | '+' :: rest => digits? rest
    | _ => digits? t
  if n < UInt64.size then some n else none

/-- The whole number of 64 bits with a sign that a text is. -/
def integer? (t : Text) : Option Int := do
  let (negative, body) := splitSign t
  let n ← digits? body
  let n : Int := if negative then -(n : Int) else n
  if Int64.minValue.toInt ≤ n ∧ n ≤ Int64.maxValue.toInt then some n else none

def plainValue (t : Text) : Value :=
  let float := if t.contains '.' then float? t else none
  match float, natural? t, integer? t with
  | some x, _, _ => .float x
  | none, some n, _ => .natural n
  | none, none, some n => .integer n
  | none, none, none => .text t

/-- Why a text cannot be read as a value. -/
inductive ValueFault where
  /-- It is no value, and so is a text as a whole. -/
  | malformed
  /-- An escape whose place, counted in characters, is no boundary when counted in bytes. -/
  | splitCharacter
deriving DecidableEq, Repr

/-- What stands before the closing quote, escapes as they are written, and what follows it. -/
def readRaw : Text → Option (Text × Text)
  | [] => none
  | '"' :: rest => some ([], rest)
  | '\\' :: c :: rest => (readRaw rest).map fun (raw, after) => ('\\' :: c :: raw, after)
  | c :: rest => (readRaw rest).map fun (raw, after) => (c :: raw, after)

/-- The text that `raw` writes, from `rest` on. At the first escape so many bytes of the text before it
are kept as there are characters before it; `kept` is what is kept and what follows it. `fuel` bounds
the number of steps. -/
def unescape (raw : Text) : Nat → Option Text → Text → Except ValueFault Text
  | 0, _, _ => .error .malformed
  | _ + 1, kept, [] => .ok (kept.getD raw)
  | fuel + 1, kept, c :: rest =>
      if c = '\\' then
        match raw.takeBytes? (raw.length - (rest.length + 1)), Toml.readEscape rest with
        | none, _ => .error .splitCharacter
        | some lead, some (decoded, rest) => unescape raw fuel (some (kept.getD lead ++ [decoded])) rest
        | some _, none => .error .malformed
      else if Toml.isPlain c then unescape raw fuel (kept.map (· ++ [c])) rest
      else .error .malformed

/-- A string after its opening quote, and what follows it. -/
def readString (t : Text) : Except ValueFault (Text × Text) :=
  match readRaw t with
  | some (raw, rest) => (unescape raw (raw.length + 1) none raw).map fun s => (s, rest)
  | none => .error .malformed

/-- A key of a table, and what follows it. -/
def readKey : Text → Except ValueFault (Text × Text)
  | '"' :: rest => readString rest
  | t =>
      let key := t.takeWhile isKeyChar
      if key.isEmpty then .error .malformed else .ok (key, t.drop key.length)

mutual

/-- A value with blanks around it, and what follows it. `fuel` bounds the number of steps. -/
def readValue : Nat → Text → Except ValueFault (Value × Text)
  | 0, _ => .error .malformed
  | fuel + 1, t =>
      let found : Except ValueFault (Value × Text) :=
        match skipBlanks t with
        | 't' :: 'r' :: 'u' :: 'e' :: rest => .ok (.bool true, rest)
        | 'f' :: 'a' :: 'l' :: 's' :: 'e' :: rest => .ok (.bool false, rest)
        | '\x7b' :: rest => (readFields fuel [] rest).map fun (es, rest) => (.table es, rest)
        | '[' :: rest => (readItems fuel rest).map fun (items, rest) => (.list items, rest)
        | '"' :: rest => (readString rest).map fun (s, rest) => (.text s, rest)
        | '\'' :: c :: '\'' :: rest => .ok (.character c, rest)
        | '\'' :: _ => .error .malformed
        | body =>
            let plain := body.takeWhile (!isSeparator ·)
            .ok (plainValue (Text.trim plain), body.drop plain.length)
      found.map fun (value, rest) => (value, skipBlanks rest)

/-- The items of a list, its closing bracket, and what follows it. A comma may end the list. -/
def readItems : Nat → Text → Except ValueFault (List Value × Text)
  | 0, _ => .error .malformed
  | fuel + 1, t =>
      match t with
      | ']' :: rest => .ok ([], rest)
      | _ => do
          let (item, rest) ← readValue fuel t
          match rest with
          | ',' :: rest =>
              let (items, rest) ← readItems fuel rest
              .ok (item :: items, rest)
          | ']' :: rest => .ok ([item], rest)
          | _ => .error .malformed

/-- The entries of a table after those read, its closing brace, and what follows it. A comma may end
the table. -/
def readFields : Nat → List (Text × Value) → Text → Except ValueFault (List (Text × Value) × Text)
  | 0, _, _ => .error .malformed
  | fuel + 1, entries, t =>
      match t with
      | '\x7d' :: rest => .ok (entries, rest)
      | _ => do
          let (key, rest) ← readKey (skipBlanks t)
          match skipBlanks rest with
          | '=' :: rest =>
              let (value, rest) ← readValue fuel rest
              let entries := insertEntry key value entries
              match rest with
              | ',' :: rest => readFields fuel entries rest
              | '\x7d' :: rest => .ok (entries, rest)
              | _ => .error .malformed
          | _ => .error .malformed

end

/-- The value that a text is; none if an escape in it has no place. -/
def parseValue? (t : Text) : Option Value :=
  match readValue (t.length + 2) t with
  | .ok (value, []) => some value
  | .error .splitCharacter => none
  | _ => some (.text t)

/-- The keys of settings whose names are not in lower case. -/
def mixedCaseKeys : List Text := ["functionName", "markupExtensions", "devBypass"].map String.toList

/-- The key in its own spelling: names of variables do not tell upper from lower case. -/
def settingKey (name : Text) : Text :=
  let lower := name.map Char.toLower
  (mixedCaseKeys.find? fun key => key.map Char.toLower = lower).getD lower

def variablePath? (name : Text) : Option (List Text) :=
  let name := name.trim
  let lead := name.take variablePrefix.length
  if lead.map Char.toLower = variablePrefix.map Char.toLower then
    let dotted := (name.drop variablePrefix.length).map fun c => if c = '_' then '.' else c
    let path := (settingKey dotted).trim.splitAll '.'
    if path.any List.isEmpty then none else some path
  else none

/-- The settings below and, above them, that of a variable, if it is one; none if its value has an
escape without a place. -/
def addVariable? (below : Setting) (entry : Text × Text) : Option Setting :=
  match variablePath? entry.1 with
  | none => some below
  | some path =>
      (parseValue? entry.2).map fun value =>
        below.merge (Setting.nest .environment path (Setting.ofValue .environment value))

/-- The settings of all variables, the later above the earlier; none if a value has an escape without a
place. -/
def settings? (environment : Environment) : Option Setting :=
  environment.foldlM addVariable? (.table .environment [])

end Environment

end HandlerGuard
