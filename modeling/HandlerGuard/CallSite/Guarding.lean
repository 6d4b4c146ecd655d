import HandlerGuard.CallSite.Basic
import HandlerGuard.Patch.Segment

namespace HandlerGuard

namespace Patch

/-- What stands in place of a handler: the guard, the handler itself and the fallback. -/
def guardedPieces (target : Target) (handler : Span) (key : Option Text) : List Piece :=
  [.inserted (target.guard ++ " ? ".toList), .copied handler,
    .inserted (" : ".toList ++ target.renderFallback key)]

def keyText (p : Patch) (site : CallSite) : Except EditError (Option Text) :=
  match site.key with
  | none => .ok none
  | some span => (p.read span).map some

def guardHandler (p : Patch) (target : Target) (site : CallSite) (handler : Span) :
    Except EditError Patch := do
  let key ← p.keyText site
  p.overwriteWith handler (guardedPieces target handler key)

/-- Puts the handlers of the guardable calls under the guard, one after the other, up to the first
that is refused: the patch reached, and how many handlers were put under the guard or why one was
refused. -/
def guardHandlers (p : Patch) (target : Target) : List CallSite → Patch × Except EditError Nat
  | [] => (p, .ok 0)
  | site :: rest =>
      if site.isGuardable then
        match site.handler with
        | none => p.guardHandlers target rest
        | some handler =>
            match p.guardHandler target site handler with
            | .ok next =>
                let (last, count) := next.guardHandlers target rest
                (last, count.map (· + 1))
            | .error e => (p, .error e)
      else p.guardHandlers target rest

/-- Puts the import in front, or after the first line if that begins with `#!`. -/
def injectImport (p : Patch) (statement : Text) : Except EditError Patch :=
  if "#!".toList.isPrefixOf p.source then
    let line := p.source.takeWhile (· ≠ '\n')
    let (stop, separator) :=
      if line.length < p.source.length then (Text.byteLength line + 1, [])
      else (Text.byteLength line, ['\n'])
    p.overwriteWith ⟨0, stop⟩ [.copied ⟨0, stop⟩, .inserted (separator ++ statement)]
  else .ok (p.prepend statement)

end Patch

end HandlerGuard
