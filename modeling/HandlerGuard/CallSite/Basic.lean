import HandlerGuard.Script.Program
import HandlerGuard.Target.Basic
import HandlerGuard.Text.Blank

namespace HandlerGuard

/-- What can be done about a call. -/
inductive CallStatus where
  | guardable
  | tooFewArguments
  /-- The handler is a spread element. -/
  | spreadArgument
  /-- The handler is under the guard. -/
  | alreadyGuarded
  /-- The call stands in the handler of another one that is, or is going to be, under the guard. -/
  | insideGuardedHandler
deriving DecidableEq, Repr

namespace CallStatus

/-- A call whose handler is, or is going to be, under the guard. -/
def guardsHandler : CallStatus → Bool
  | guardable => true
  | alreadyGuarded => true
  | _ => false

end CallStatus

/-- A call of the target function. -/
structure CallSite where
  callee : Text
  span : Span
  argumentCount : Nat
  /-- The range of the first argument, unless it is missing or a spread element. -/
  key : Option Span
  /-- The range of the second argument, unless it is missing or a spread element. -/
  handler : Option Span
  status : CallStatus
deriving DecidableEq, Repr

namespace CallSite

/-- The handler can be put under the guard. -/
def isGuardable (site : CallSite) : Bool := site.status = .guardable

/-- The range of an argument, unless it is missing or a spread element. -/
def argumentSpan : Option Script.Tree → Option Span
  | none => none
  | some (.spread _ _) => none
  | some argument => some argument.span

/-- Whether a handler is a conditional whose test is written like the guard. -/
def isGuarded (source guard : Text) : Script.Tree → Bool
  | .conditional _ test _ _ => (source.slice? test.span).any fun written => written.trim = guard
  | _ => false

/-- What can be done about a call with the given arguments. -/
def classify (source guard : Text) (inside : Bool) (arguments : List Script.Tree) : CallStatus :=
  if inside then .insideGuardedHandler
  else
    match arguments with
    | _ :: handler :: _ =>
        if handler.isSpread then .spreadArgument
        else if isGuarded source guard handler then .alreadyGuarded
        else .guardable
    | _ => .tooFewArguments

/-- Whether a call is one of the named function and is not skipped where the function is missing. -/
def isTarget (name : Text) (callee : Script.Tree) (optional : Bool) : Bool :=
  match callee with
  | .identifier _ found => !optional && found = name
  | _ => false

mutual

/-- The calls in a tree. `inside` tells that the tree stands in a guarded handler. -/
def ofTree (name guard source : Text) (inside : Bool) : Script.Tree → List CallSite
  | .identifier _ _ => []
  | .call span callee types arguments optional =>
      let others := ofTree name guard source inside callee ++ ofTrees name guard source inside types
      if isTarget name callee optional then
        let status := classify source guard inside arguments
        { callee := name
          span
          argumentCount := arguments.length
          key := argumentSpan arguments[0]?
          handler := argumentSpan arguments[1]?
          status } ::
          (others ++ ofArguments name guard source inside (inside || status.guardsHandler) arguments)
      else others ++ ofTrees name guard source inside arguments
  | .conditional _ test consequent alternate =>
      ofTree name guard source inside test ++ ofTree name guard source inside consequent ++
        ofTree name guard source inside alternate
  | .spread _ argument => ofTree name guard source inside argument
  | .node _ _ children => ofTrees name guard source inside children

def ofTrees (name guard source : Text) (inside : Bool) : List Script.Tree → List CallSite
  | [] => []
  | t :: rest => ofTree name guard source inside t ++ ofTrees name guard source inside rest

/-- The calls in the arguments of a call; `handlerInside` tells that the second of them is guarded. -/
def ofArguments (name guard source : Text) (inside handlerInside : Bool) :
    List Script.Tree → List CallSite
  | [] => []
  | [key] => ofTree name guard source inside key
  | key :: handler :: rest =>
      ofTree name guard source inside key ++ ofTree name guard source handlerInside handler ++
        ofTrees name guard source inside rest

end

def find (target : Target) (source : Text) (program : Script.Program) : List CallSite :=
  ofTrees target.functionName target.guard.trim source false program.statements

def keyText (site : CallSite) (source : Text) : Option (Option Text) :=
  match site.key with
  | none => some none
  | some span => (source.slice? span).map some

end CallSite

end HandlerGuard
