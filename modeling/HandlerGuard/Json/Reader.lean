import HandlerGuard.Json.Number

namespace HandlerGuard.Json

def skipBlanks (t : Text) : Text :=
  t.dropWhile fun c => c = ' ' || c = '\t' || c = '\n' || c = '\r'

def hexValue? (c : Char) : Option Nat :=
  if c.isDigit then some (c.toNat - '0'.toNat)
  else if 'a' ≤ c ∧ c ≤ 'f' then some (c.toNat - 'a'.toNat + 10)
  else if 'A' ≤ c ∧ c ≤ 'F' then some (c.toNat - 'A'.toNat + 10)
  else none

/-- The number of four hexadecimal digits. -/
def hexFour? (a b c d : Char) : Option Nat := do
  let a ← hexValue? a
  let b ← hexValue? b
  let c ← hexValue? c
  let d ← hexValue? d
  some (((a * 16 + b) * 16 + c) * 16 + d)

def shortEscape? (c : Char) : Option Char :=
  if c = '"' || c = '\\' || c = '/' then some c
  else if c = 'b' then some '\x08'
  else if c = 'f' then some '\x0c'
  else if c = 'n' then some '\n'
  else if c = 'r' then some '\r'
  else if c = 't' then some '\t'
  else none

/-- The character of an escape with the code `high`, and what follows it. A code of the upper half of a
pair needs the lower half after it. -/
def codeEscape? (high : Nat) (rest : Text) : Option (Char × Text) :=
  if high < 0xD800 ∨ 0xDFFF < high then some (Char.ofNat high, rest)
  else if 0xDBFF < high then none
  else
    match rest with
    | '\\' :: 'u' :: a :: b :: c :: d :: others => do
        let low ← hexFour? a b c d
        if 0xDC00 ≤ low ∧ low ≤ 0xDFFF then
          some (Char.ofNat ((high - 0xD800) * 0x400 + (low - 0xDC00) + 0x10000), others)
        else none
    | _ => none

/-- A string after its opening quote, and what follows it. `fuel` bounds its length. -/
def readString : Nat → Text → Option (Text × Text)
  | 0, _ => none
  | _ + 1, [] => none
  | fuel + 1, c :: rest =>
      if c = '"' then some ([], rest)
      else if c = '\\' then
        match rest with
        | 'u' :: a :: b :: x :: d :: others => do
            let code ← hexFour? a b x d
            let (decoded, others) ← codeEscape? code others
            let (tail, others) ← readString fuel others
            some (decoded :: tail, others)
        | e :: others => do
            let decoded ← shortEscape? e
            let (tail, others) ← readString fuel others
            some (decoded :: tail, others)
        | [] => none
      else if c.toNat < 0x20 then none
      else do
        let (tail, others) ← readString fuel rest
        some (c :: tail, others)

mutual

/-- A value and what follows it. `fuel` bounds the number of steps, `depth` how deep lists and tables
may stand in one another. -/
def readValue : Nat → Nat → Text → Option (Value × Text)
  | 0, _, _ => none
  | fuel + 1, depth, t =>
      match skipBlanks t with
      | '"' :: rest => (readString (rest.length + 1) rest).map fun (s, others) => (.text s, others)
      | '[' :: rest =>
          match depth with
          | 0 => none
          | depth + 1 =>
              match skipBlanks rest with
              | ']' :: others => some (.list [], others)
              | _ => (readItems fuel depth rest).map fun (items, others) => (.list items, others)
      | '\x7b' :: rest =>
          match depth with
          | 0 => none
          | depth + 1 =>
              match skipBlanks rest with
              | '\x7d' :: others => some (.table [], others)
              | _ => (readFields fuel depth [] rest).map fun (entries, others) =>
                  (.table entries, others)
      | 'n' :: 'u' :: 'l' :: 'l' :: rest => some (.null, rest)
      | 't' :: 'r' :: 'u' :: 'e' :: rest => some (.bool true, rest)
      | 'f' :: 'a' :: 'l' :: 's' :: 'e' :: rest => some (.bool false, rest)
      | other => readNumber other

/-- The items of a list, its closing bracket, and what follows it. -/
def readItems : Nat → Nat → Text → Option (List Value × Text)
  | 0, _, _ => none
  | fuel + 1, depth, t => do
      let (item, rest) ← readValue fuel depth t
      match skipBlanks rest with
      | ',' :: others =>
          let (items, others) ← readItems fuel depth others
          some (item :: items, others)
      | ']' :: others => some ([item], others)
      | _ => none

/-- The entries of a table after those read, its closing brace, and what follows it. The last entry of
a key counts. -/
def readFields : Nat → Nat → List (Text × Value) → Text → Option (List (Text × Value) × Text)
  | 0, _, _, _ => none
  | fuel + 1, depth, entries, t => do
      match skipBlanks t with
      | '"' :: rest =>
          let (key, rest) ← readString (rest.length + 1) rest
          match skipBlanks rest with
          | ':' :: rest =>
              let (value, rest) ← readValue fuel depth rest
              let entries := insertEntry key value entries
              match skipBlanks rest with
              | ',' :: others => readFields fuel depth entries others
              | '\x7d' :: others => some (entries, others)
              | _ => none
          | _ => none
      | _ => none

end

/-- How deep lists and tables may stand in one another. -/
def depthLimit : Nat := 127

def parse? (t : Text) : Option Value := do
  let (value, rest) ← readValue (t.length + 1) depthLimit t
  if (skipBlanks rest).isEmpty then some value else none

end HandlerGuard.Json
