import HandlerGuard.CallSite.Basic
import HandlerGuard.Position

namespace HandlerGuard

def CallStatus.note? : CallStatus → Option Text
  | guardable => none
  | tooFewArguments => some "too few arguments".toList
  | spreadArgument => some "spread handler".toList
  | alreadyGuarded => some "already guarded".toList
  | insideGuardedHandler => some "inside guarded handler".toList

namespace CallSite

def noKey : Text := "<spread>".toList

/-- The line that tells of a call; none if its ranges do not fit the text. -/
def line? (site : CallSite) (path : Text) (index : LineIndex) : Option Text := do
  let position ← index.position? site.span.start
  let key ← site.keyText index.text
  let note := (site.status.note?).elim [] fun note => " (".toList ++ note ++ [')']
  some
    (path ++ [':'] ++ Text.ofNat (position.line + 1) ++ [':'] ++ Text.ofNat (position.column + 1) ++
      [' '] ++ key.getD noKey ++ note)

end CallSite

end HandlerGuard
