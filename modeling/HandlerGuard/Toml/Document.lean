import HandlerGuard.Settings.Value

/-!
The tables of a TOML document while it is read.

Headers and dotted keys make tables on their way. A table that a header only passed through may still
be given a header of its own, one that dotted keys made takes values from dotted keys only, and no
table is given twice.
-/
namespace HandlerGuard.Toml

/-- How a table came to be. -/
inductive Origin where
  /-- A header names it. -/
  | header
  /-- A header passes through it. -/
  | passage
  /-- A dotted key passes through it. -/
  | dotted
deriving DecidableEq, Repr

/-- What stands under a key while a document is read. -/
inductive Node where
  | value (v : Value)
  | table (origin : Origin) (entries : List (Text × Node))
  /-- Tables of one name, the last first. -/
  | tables (last : List (Text × Node)) (earlier : List (List (Text × Node)))
deriving Repr

abbrev Entries := List (Text × Node)

mutual

def Node.toValue : Node → Value
  | .value v => v
  | .table _ entries => .table (entriesToValues entries)
  | .tables last earlier =>
      .list (tablesToValues earlier ++ [.table (entriesToValues last)])

def entriesToValues : Entries → List (Text × Value)
  | [] => []
  | (key, node) :: rest => (key, node.toValue) :: entriesToValues rest

def tablesToValues : List Entries → List Value
  | [] => []
  | entries :: rest => tablesToValues rest ++ [.table (entriesToValues entries)]

end

def addNew (key : Text) (node : Node) (entries : Entries) : Option Entries :=
  match entries.lookup key with
  | some _ => none
  | none => some (entries ++ [(key, node)])

/-- Adds a value under dotted keys. The table that gets the value was made by dotted keys; on the way
to it tables that no header names are passed through, and of several tables of one name the last. -/
def addDotted (v : Value) : List Text → Entries → Option Entries
  | [], _ => none
  | [key], entries => addNew key (.value v) entries
  | key :: next :: keys, entries =>
      match entries.lookup key with
      | none =>
          (addDotted v (next :: keys) []).map fun inner => entries ++ [(key, .table .dotted inner)]
      | some (.table .dotted inner) =>
          (addDotted v (next :: keys) inner).map fun inner =>
            insertEntry key (.table .dotted inner) entries
      | some (.table .passage inner) =>
          if keys.isEmpty then none
          else
            (addDotted v (next :: keys) inner).map fun inner =>
              insertEntry key (.table .passage inner) entries
      | some (.tables last earlier) =>
          if keys.isEmpty then none
          else
            (addDotted v (next :: keys) last).map fun last =>
              insertEntry key (.tables last earlier) entries
      | some (.table .header _) => none
      | some (.value _) => none

/-- Changes the entries of the table under keys. Tables on the way are made where they are missing, and
of several tables of one name the last is meant. -/
def updateAt (change : Entries → Option Entries) : List Text → Entries → Option Entries
  | [], entries => change entries
  | key :: keys, entries =>
      match entries.lookup key with
      | none => (updateAt change keys []).map fun inner => entries ++ [(key, .table .passage inner)]
      | some (.table origin inner) =>
          (updateAt change keys inner).map fun inner => insertEntry key (.table origin inner) entries
      | some (.tables last earlier) =>
          (updateAt change keys last).map fun last => insertEntry key (.tables last earlier) entries
      | some (.value _) => none

def openTable (key : Text) (entries : Entries) : Option Entries :=
  match entries.lookup key with
  | none => some (entries ++ [(key, .table .header [])])
  | some (.table .passage inner) => some (insertEntry key (.table .header inner) entries)
  | some _ => none

/-- Adds a table to those of one name. -/
def openNextTable (key : Text) (entries : Entries) : Option Entries :=
  match entries.lookup key with
  | none => some (entries ++ [(key, .tables [] [])])
  | some (.tables last earlier) => some (insertEntry key (.tables [] (last :: earlier)) entries)
  | some _ => none

/-- A document while it is read: its entries and the path of the table that the next line belongs
to. -/
structure Document where
  entries : Entries
  path : List Text
deriving Repr

namespace Document

def empty : Document := ⟨[], []⟩

def addValue (d : Document) (keys : List Text) (v : Value) : Option Document := do
  let entries ← updateAt (addDotted v keys) d.path d.entries
  some { d with entries }

/-- Applies a change to the table that holds the last key of a header. -/
def addHeader (change : Text → Entries → Option Entries) (d : Document) (keys : List Text) :
    Option Document := do
  let key ← keys.getLast?
  let entries ← updateAt (change key) keys.dropLast d.entries
  some ⟨entries, keys⟩

def toValue (d : Document) : Value := .table (entriesToValues d.entries)

end Document

end HandlerGuard.Toml
