import HandlerGuard.CallSite.Guarding
import HandlerGuard.ModuleFilter
import HandlerGuard.SourceMap.Basic

namespace HandlerGuard

/-- Why a module is left as it is. -/
inductive SkipReason where
  | disabled
  | bypassed
  | filtered (kind : FileKind)
  | noCandidateText
  | parseFailed
  | noMatch
deriving DecidableEq, Repr

def SkipReason.message : SkipReason → Text
  | disabled => "transform disabled".toList
  | bypassed => "development bypass active".toList
  | filtered .otherMarkup => "markup without script block".toList
  | filtered _ => "excluded by filter".toList
  | noCandidateText => "target function not referenced".toList
  | parseFailed => "could not be parsed".toList
  | noMatch => "no rewritable call".toList

/-- A transformed module. -/
structure Output where
  code : Text
  map : SourceMap
  /-- The number of handlers that were put under the guard. -/
  guarded : Nat
  importInjected : Bool
deriving DecidableEq, Repr

/-- What became of a module. -/
inductive TransformResult where
  | unchanged (reason : SkipReason)
  | transformed (output : Output)
deriving DecidableEq, Repr

namespace Patch

/-- The output of a patch with so many guarded handlers. The import is added unless its marker is in
the text. -/
def result (p : Patch) (guarded : Nat) (target : Target) (id : Text) :
    Except EditError TransformResult :=
  if guarded = 0 then .ok (.unchanged .noMatch)
  else do
    let missing := !p.source.includes target.directive.marker
    let p ← if missing then p.injectImport target.directive.statement else .ok p
    let code ← p.render
    let mappings ← p.mappings target.hires
    .ok (.transformed ⟨code, ⟨id, p.source, mappings⟩, guarded, missing⟩)

end Patch

/-- What a module is built for. -/
inductive BuildMode where
  | development
  | production
deriving DecidableEq, Repr

def BuildMode.label : BuildMode → Text
  | development => "development".toList
  | production => "production".toList

/-- A target that can be worked with, ready for use. -/
structure Transformer where
  target : Target
  filter : ModuleFilter
  mode : BuildMode
deriving Repr

namespace Transformer

/-- The name under which the transformation is known to build tools. -/
def name : Text := "prerender-kit:transform".toList

def ofTarget (target : Target) (mode : BuildMode) : Except TargetError Transformer := do
  target.validate
  let filter ← ModuleFilter.ofTarget target
  .ok ⟨target, filter, mode⟩

/-- Nothing is done because of the mode. -/
def isBypassed (t : Transformer) : Bool := t.target.devBypass && t.mode = .development

/-- The calls in a module, or why it is left as it is. -/
def scan (t : Transformer) (id code : Text) : Except SkipReason (List CallSite) :=
  match t.filter.admission id code with
  | .error kind => .error (.filtered kind)
  | .ok none => .error .noCandidateText
  | .ok (some language) =>
      match Script.Program.parse? language code with
      | none => .error .parseFailed
      | some program => .ok (CallSite.find t.target code program)

/-- What becomes of a module. -/
def transform (t : Transformer) (id code : Text) : Except EditError TransformResult :=
  if !t.target.enabled then .ok (.unchanged .disabled)
  else if t.isBypassed then .ok (.unchanged .bypassed)
  else
    match t.scan id code with
    | .error reason => .ok (.unchanged reason)
    | .ok sites => do
        let (patch, count) := (Patch.ofText code).guardHandlers t.target sites
        let guarded ← count
        patch.result guarded t.target id

end Transformer

end HandlerGuard
