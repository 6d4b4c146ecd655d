import HandlerGuard.Toml.Document
import HandlerGuard.Toml.Moment
import HandlerGuard.Toml.Number
import HandlerGuard.Toml.Quoted

namespace HandlerGuard.Toml

/-- A value that is neither list nor table, and what follows it. -/
def readScalar (t : Text) : Option (Value × Text) :=
  match t with
  | '"' :: _ => (readString t).map fun (s, rest) => (.text s, rest)
  | '\'' :: _ => (readString t).map fun (s, rest) => (.text s, rest)
  | 't' :: 'r' :: 'u' :: 'e' :: rest => some (.bool true, rest)
  | 'f' :: 'a' :: 'l' :: 's' :: 'e' :: rest => some (.bool false, rest)
  | _ => (readMoment t).orElse fun _ => readNumber t

mutual

/-- A value and what follows it. `fuel` bounds the number of steps, `depth` how deep lists and tables
may stand in one another. -/
def readValue : Nat → Nat → Text → Option (Value × Text)
  | 0, _, _ => none
  | fuel + 1, depth, t =>
      match t with
      | '[' :: rest =>
          match depth with
          | 0 => none
          | depth + 1 => (readItems fuel depth rest).map fun (items, rest) => (.list items, rest)
      | '\x7b' :: rest =>
          match depth with
          | 0 => none
          | depth + 1 =>
              match skipBlanks rest with
              | '\x7d' :: others => some (.table [], others)
              | _ => (readFields fuel depth [] rest).map fun (entries, rest) =>
                  (.table (entriesToValues entries), rest)
      | _ => readScalar t

/-- The items of a list, its closing bracket, and what follows it. A comma may end the list. -/
def readItems : Nat → Nat → Text → Option (List Value × Text)
  | 0, _, _ => none
  | fuel + 1, depth, t =>
      match skipSpace t with
      | ']' :: rest => some ([], rest)
      | body => do
          let (item, rest) ← readValue fuel depth body
          match skipSpace rest with
          | ',' :: others =>
              let (items, others) ← readItems fuel depth others
              some (item :: items, others)
          | ']' :: others => some ([item], others)
          | _ => none

/-- The entries of a table in braces after those read, its closing brace, and what follows it. -/
def readFields : Nat → Nat → Entries → Text → Option (Entries × Text)
  | 0, _, _, _ => none
  | fuel + 1, depth, entries, t => do
      let (keys, rest) ← readKeyPath t
      match rest with
      | '=' :: rest =>
          let (value, rest) ← readValue fuel depth (skipBlanks rest)
          let entries ← addDotted value keys entries
          match skipBlanks rest with
          | ',' :: others => readFields fuel depth entries others
          | '\x7d' :: others => some (entries, others)
          | _ => none
      | _ => none

end

/-- How deep lists and tables may stand in one another. -/
def depthLimit : Nat := 79

/-- A line with a key and its value, and what follows it. -/
def readEntry (d : Document) (t : Text) : Option (Document × Text) := do
  let (keys, rest) ← readKeyPath t
  let rest ←
    match rest with
    | '=' :: rest => some (skipBlanks rest)
    | _ => none
  let (value, rest) ← readValue (rest.length + 1) depthLimit rest
  let rest ← endLine? rest
  let d ← d.addValue keys value
  some (d, rest)

/-- A header after its first bracket, and what follows it. -/
def readHeader (d : Document) (t : Text) : Option (Document × Text) :=
  match t with
  | '[' :: rest => do
      let (keys, rest) ← readKeyPath rest
      match rest with
      | ']' :: ']' :: rest =>
          let rest ← endLine? rest
          let d ← d.addHeader openNextTable keys
          some (d, rest)
      | _ => none
  | _ => do
      let (keys, rest) ← readKeyPath t
      match rest with
      | ']' :: rest =>
          let rest ← endLine? rest
          let d ← d.addHeader openTable keys
          some (d, rest)
      | _ => none

/-- The lines of a document. `fuel` bounds their number. -/
def readLines : Nat → Document → Text → Option Document
  | 0, _, _ => none
  | fuel + 1, d, t =>
      match skipSpace t with
      | [] => some d
      | '[' :: rest => do
          let (d, rest) ← readHeader d rest
          readLines fuel d rest
      | body => do
          let (d, rest) ← readEntry d body
          readLines fuel d rest

/-- The table that a document is. A byte order mark may stand in front. -/
def parse? (t : Text) : Option Value :=
  let body :=
    match t with
    | '\ufeff' :: rest => rest
    | _ => t
  (readLines (body.length + 1) Document.empty body).map Document.toValue

end HandlerGuard.Toml
