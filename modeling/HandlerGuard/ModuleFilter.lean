import HandlerGuard.ModuleId
import HandlerGuard.Target.Validation

namespace HandlerGuard

/-- What a module is to the search. -/
inductive FileKind where
  | plainModule (language : ScriptLanguage)
  | scriptBlock (language : ScriptLanguage)
  | otherMarkup
  | excluded
deriving DecidableEq, Repr

namespace FileKind

def language? : FileKind → Option ScriptLanguage
  | plainModule language => some language
  | scriptBlock language => some language
  | otherMarkup => none
  | excluded => none

def isProcessable (kind : FileKind) : Bool := kind.language?.isSome

end FileKind

/-- What tells which modules are looked at. -/
structure ModuleFilter where
  included : PatternSet
  excluded : PatternSet
  markupExtensions : List Text
  functionName : Text
deriving Repr

namespace ModuleFilter

def ofTarget (target : Target) : Except TargetError ModuleFilter := do
  let included ← Target.patternSet target.included
  let excluded ← Target.patternSet target.excluded
  .ok ⟨included, excluded, target.markupExtensions, target.functionName⟩

def kindOf (filter : ModuleFilter) (id : ModuleId) : FileKind :=
  match id.extension? with
  | none => .excluded
  | some extension =>
      if filter.markupExtensions.contains extension then
        if id.isScriptBlock then .scriptBlock (id.queryLanguage?.getD .js) else .otherMarkup
      else
        match ScriptLanguage.ofExtension? extension with
        | some language => .plainModule language
        | none => .excluded

def classify (filter : ModuleFilter) (id : Text) : FileKind :=
  if id.head? = some '\x00' then .excluded
  else
    let id := ModuleId.parse id
    if filter.included.contains id.path && !filter.excluded.contains id.path then filter.kindOf id
    else .excluded

def isCandidate (filter : ModuleFilter) (text : Text) : Bool := text.includes filter.functionName

/-- The language in which a module is searched: an error if the module is not looked at, none if its
text cannot hold a call. -/
def admission (filter : ModuleFilter) (id text : Text) : Except FileKind (Option ScriptLanguage) :=
  let kind := filter.classify id
  match kind.language? with
  | none => .error kind
  | some language => .ok (if filter.isCandidate text then some language else none)

end ModuleFilter

end HandlerGuard
