import HandlerGuard.Script.Language

namespace HandlerGuard

/-- A parameter of a query. -/
structure Param where
  key : Text
  value : Option Text
deriving DecidableEq, Repr

namespace Param

/-- The parameter that a text writes: what stands before and after its first `=`. -/
def ofText (t : Text) : Param :=
  let (key, value) := t.splitFirst '='
  ⟨key, value⟩

/-- The language that a parameter names: after `lang.` in the key, or as the value of `lang`. -/
def language? (p : Param) : Option ScriptLanguage :=
  if "lang.".toList.isPrefixOf p.key then ScriptLanguage.ofExtension? (p.key.drop 5)
  else if p.key = "lang".toList then p.value.bind ScriptLanguage.ofExtension?
  else none

def selectsScript (p : Param) : Bool :=
  p = ⟨"type".toList, some "script".toList⟩ || p = ⟨"setup".toList, some "true".toList⟩

end Param

/-- A path and perhaps a query. -/
structure ModuleId where
  path : Text
  query : Option Text
deriving DecidableEq, Repr

namespace ModuleId

/-- The id that a text writes: the query starts after the first `?`. -/
def parse (id : Text) : ModuleId :=
  let (path, query) := id.splitFirst '?'
  ⟨path.map fun c => if c = '\\' then '/' else c, query⟩

/-- What stands after the last dot of the last component of the path. -/
def extension? (id : ModuleId) : Option Text :=
  let name := (id.path.splitAll '/').getLastD []
  match name.splitAll '.' with
  | [] => none
  | [_] => none
  | parts => parts.getLast?

/-- The parameters of the query; empty ones are left out. -/
def params (id : ModuleId) : List Param :=
  match id.query with
  | none => []
  | some query => ((query.splitAll '&').filter (!·.isEmpty)).map Param.ofText

def isScriptBlock (id : ModuleId) : Bool := id.params.any Param.selectsScript

def queryLanguage? (id : ModuleId) : Option ScriptLanguage := id.params.findSome? Param.language?

end ModuleId

end HandlerGuard
