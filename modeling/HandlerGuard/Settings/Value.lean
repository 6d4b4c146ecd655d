import HandlerGuard.Decimal.Binary64

namespace HandlerGuard

/-- A value of a setting. -/
inductive Value where
  | null
  | bool (b : Bool)
  /-- A whole number that is not negative. -/
  | natural (n : Nat)
  /-- A whole number with a sign. -/
  | integer (n : Int)
  | float (x : Binary64)
  | text (t : Text)
  /-- A single character in apostrophes. -/
  | character (c : Char)
  | list (items : List Value)
  /-- Values under keys, each key once. -/
  | table (entries : List (Text × Value))
deriving Repr, Inhabited

namespace Value

def get? (v : Value) (key : Text) : Option Value :=
  match v with
  | table entries => entries.lookup key
  | _ => none

end Value

/-- The entries with one more, which replaces an earlier one of its key. -/
def insertEntry {α : Type} (key : Text) (value : α) : List (Text × α) → List (Text × α)
  | [] => [(key, value)]
  | (k, v) :: rest => if k = key then (key, value) :: rest else (k, v) :: insertEntry key value rest

end HandlerGuard
