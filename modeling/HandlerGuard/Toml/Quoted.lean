import HandlerGuard.Json.Reader
import HandlerGuard.Toml.Blank

namespace HandlerGuard.Toml

def hexNumber? (digits : Text) : Option Nat :=
  digits.foldlM (fun n c => (Json.hexValue? c).map (n * 16 + ·)) 0

def charOfCode? (n : Nat) : Option Char := if n.isValidChar then some (Char.ofNat n) else none

/-- The character of an escape with so many digits, and what follows them. -/
def codeEscape? (count : Nat) (t : Text) : Option (Char × Text) := do
  let digits := t.take count
  if digits.length < count then none
  let n ← hexNumber? digits
  let c ← charOfCode? n
  some (c, t.drop count)

/-- The character of an escape after its backslash, and what follows it. -/
def readEscape : Text → Option (Char × Text)
  | 'b' :: rest => some ('\x08', rest)
  | 't' :: rest => some ('\t', rest)
  | 'n' :: rest => some ('\n', rest)
  | 'f' :: rest => some ('\x0c', rest)
  | 'r' :: rest => some ('\r', rest)
  | '"' :: rest => some ('"', rest)
  | '\\' :: rest => some ('\\', rest)
  | 'u' :: rest => codeEscape? 4 rest
  | 'U' :: rest => codeEscape? 8 rest
  | _ => none

/-- A string of one line after its opening quote, and what follows it. `fuel` bounds its length. -/
def readBasic : Nat → Text → Option (Text × Text)
  | 0, _ => none
  | _ + 1, [] => none
  | fuel + 1, c :: rest =>
      if c = '"' then some ([], rest)
      else if c = '\\' then do
        let (decoded, rest) ← readEscape rest
        let (tail, rest) ← readBasic fuel rest
        some (decoded :: tail, rest)
      else if isPlain c then do
        let (tail, rest) ← readBasic fuel rest
        some (c :: tail, rest)
      else none

/-- A string of one line after its opening apostrophe, and what follows it. -/
def readLiteral : Text → Option (Text × Text)
  | [] => none
  | c :: rest =>
      if c = '\'' then some ([], rest)
      else if isPlain c then (readLiteral rest).map fun (tail, rest) => (c :: tail, rest)
      else none

/-- The closing mark of a string over several lines at a run of `count` of its quotes: how many of
them belong to the string. Fewer than three do not close it, and no more than five may stand
together. -/
def closing? (count : Nat) : Option Nat := if 3 ≤ count ∧ count ≤ 5 then some (count - 3) else none

/-- What follows a backslash at the end of a line: the next character that is neither blank nor line
break. -/
def continuation? (t : Text) : Option Text :=
  (lineBreak? (skipBlanks t)).map fun rest =>
    rest.dropWhile fun c => isBlank c || c = '\n' || c = '\r'

/-- A string over several lines, without the opening quotes, and what follows it. `fuel` bounds its
length. -/
def readBasicLines : Nat → Text → Option (Text × Text)
  | 0, _ => none
  | _ + 1, [] => none
  | fuel + 1, c :: rest =>
      if c = '"' then
        let run := (c :: rest).takeWhile (· = '"')
        let after := (c :: rest).drop run.length
        if run.length < 3 then do
          let (tail, rest) ← readBasicLines fuel after
          some (run ++ tail, rest)
        else (closing? run.length).map fun kept => (List.replicate kept '"', after)
      else if c = '\\' then
        match continuation? rest with
        | some next => readBasicLines fuel next
        | none => do
            let (decoded, rest) ← readEscape rest
            let (tail, rest) ← readBasicLines fuel rest
            some (decoded :: tail, rest)
      else
        match lineBreak? (c :: rest) with
        | some next => do
            let (tail, rest) ← readBasicLines fuel next
            some ('\n' :: tail, rest)
        | none =>
            if isPlain c then do
              let (tail, rest) ← readBasicLines fuel rest
              some (c :: tail, rest)
            else none

/-- A string over several lines, without the opening apostrophes, and what follows it. `fuel` bounds
its length. -/
def readLiteralLines : Nat → Text → Option (Text × Text)
  | 0, _ => none
  | _ + 1, [] => none
  | fuel + 1, c :: rest =>
      if c = '\'' then
        let run := (c :: rest).takeWhile (· = '\'')
        let after := (c :: rest).drop run.length
        if run.length < 3 then do
          let (tail, rest) ← readLiteralLines fuel after
          some (run ++ tail, rest)
        else (closing? run.length).map fun kept => (List.replicate kept '\'', after)
      else
        match lineBreak? (c :: rest) with
        | some next => do
            let (tail, rest) ← readLiteralLines fuel next
            some ('\n' :: tail, rest)
        | none =>
            if isPlain c then do
              let (tail, rest) ← readLiteralLines fuel rest
              some (c :: tail, rest)
            else none

def dropLineBreak (t : Text) : Text := (lineBreak? t).getD t

/-- A string and what follows it; none if no string stands in front. -/
def readString : Text → Option (Text × Text)
  | '"' :: '"' :: '"' :: rest =>
      let body := dropLineBreak rest
      readBasicLines (body.length + 1) body
  | '\'' :: '\'' :: '\'' :: rest =>
      let body := dropLineBreak rest
      readLiteralLines (body.length + 1) body
  | '"' :: rest => readBasic (rest.length + 1) rest
  | '\'' :: rest => readLiteral rest
  | _ => none

def isBareKeyChar (c : Char) : Bool := c.isAlphanum || c = '_' || c = '-'

/-- A single key and what follows it. A key in quotes is of one line. -/
def readSimpleKey : Text → Option (Text × Text)
  | '"' :: rest => readBasic (rest.length + 1) rest
  | '\'' :: rest => readLiteral rest
  | t =>
      let key := t.takeWhile isBareKeyChar
      if key.isEmpty then none else some (key, t.drop key.length)

/-- Keys with dots between them, and what follows. `fuel` bounds the number of keys. -/
def readKeys : Nat → Text → Option (List Text × Text)
  | 0, _ => none
  | fuel + 1, t => do
      let (key, rest) ← readSimpleKey (skipBlanks t)
      match skipBlanks rest with
      | '.' :: others =>
          let (keys, others) ← readKeys fuel others
          some (key :: keys, others)
      | others => some ([key], others)

/-- How many keys stand together at most. -/
def keyLimit : Nat := 79

/-- Keys with dots between them, not too many, and what follows. -/
def readKeyPath (t : Text) : Option (List Text × Text) := do
  let (keys, rest) ← readKeys (t.length + 1) t
  if keys.length ≤ keyLimit then some (keys, rest) else none

end HandlerGuard.Toml
