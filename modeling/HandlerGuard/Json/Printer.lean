import HandlerGuard.Json.Quoted
import HandlerGuard.Settings.Value

namespace HandlerGuard.Json

def lineBreak (level : Nat) : Text := '\n' :: List.replicate (2 * level) ' '

def signed (n : Int) : Text :=
  if n < 0 then '-' :: Text.ofNat n.natAbs else Text.ofNat n.natAbs

mutual

def printAt (level : Nat) : Value → Text
  | .null => "null".toList
  | .bool b => if b then "true".toList else "false".toList
  | .natural n => Text.ofNat n
  | .integer n => signed n
  | .float x => x.toText
  | .text t => quote t
  | .character c => quote [c]
  | .list [] => "[]".toList
  | .list (item :: items) =>
      ['['] ++ lineBreak (level + 1) ++ printAt (level + 1) item ++ printItems (level + 1) items ++
        lineBreak level ++ [']']
  | .table [] => "\x7b\x7d".toList
  | .table ((key, value) :: entries) =>
      ['\x7b'] ++ lineBreak (level + 1) ++ quote key ++ ": ".toList ++ printAt (level + 1) value ++
        printEntries (level + 1) entries ++ lineBreak level ++ ['\x7d']

def printItems (level : Nat) : List Value → Text
  | [] => []
  | item :: items => [','] ++ lineBreak level ++ printAt level item ++ printItems level items

/-- The entries of a table after the first. -/
def printEntries (level : Nat) : List (Text × Value) → Text
  | [] => []
  | (key, value) :: entries =>
      [','] ++ lineBreak level ++ quote key ++ ": ".toList ++ printAt level value ++
        printEntries level entries

end

def print (v : Value) : Text := printAt 0 v

end HandlerGuard.Json
