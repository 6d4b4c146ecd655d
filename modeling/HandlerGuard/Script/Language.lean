import HandlerGuard.Text.Basic

namespace HandlerGuard

/-- A script language: whether it has types and whether it has markup. -/
inductive ScriptLanguage where
  | js
  | jsx
  | ts
  | tsx
deriving DecidableEq, Repr, Inhabited

namespace ScriptLanguage

def hasTypes : ScriptLanguage → Bool
  | js => false
  | jsx => false
  | ts => true
  | tsx => true

def hasMarkup : ScriptLanguage → Bool
  | js => false
  | jsx => true
  | ts => false
  | tsx => true

def ofExtension? (extension : Text) : Option ScriptLanguage :=
  if ["js", "mjs", "cjs"].any (extension = ·.toList) then some js
  else if extension = "jsx".toList then some jsx
  else if ["ts", "mts", "cts", "typescript"].any (extension = ·.toList) then some ts
  else if extension = "tsx".toList then some tsx
  else none

end ScriptLanguage

end HandlerGuard
