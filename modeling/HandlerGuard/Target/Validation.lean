import HandlerGuard.Glob.Matching
import HandlerGuard.Target.Basic
import HandlerGuard.Text.Blank
import HandlerGuard.Text.Identifier

/-!
Which targets can be worked with.

The names are plain identifiers, the fallback does not hold the name of the function, neither guard nor
marker is empty, the import holds its marker and binds the fallback, and every pattern can be read. The
first of these rules that fails is reported.
-/
namespace HandlerGuard

/-- A field that holds a name. -/
inductive NameField where
  | functionName
  | fallbackSymbol
deriving DecidableEq, Repr

def NameField.label : NameField → Text
  | functionName => "functionName".toList
  | fallbackSymbol => "fallback.symbol".toList

/-- A field that holds some text. -/
inductive TextField where
  | guard
  | importMarker
deriving DecidableEq, Repr

def TextField.label : TextField → Text
  | guard => "guard".toList
  | importMarker => "import.marker".toList

/-- Why a target cannot be worked with. -/
inductive TargetError where
  | invalidIdentifier (field : NameField) (value : Text)
  | reentrantFallback (fallback functionName : Text)
  | emptyField (field : TextField)
  | missingMarker (marker : Text)
  | fallbackNotImported (symbol : Text)
  | invalidGlob (pattern : Text) (fault : Glob.Fault)
deriving DecidableEq, Repr

namespace TargetError

def message : TargetError → Text
  | invalidIdentifier field value =>
      "invalid identifier for `".toList ++ field.label ++ "`: '".toList ++ value ++ ['\'']
  | reentrantFallback fallback functionName =>
      "fallback `".toList ++ fallback ++ "` contains the target function name `".toList ++
        functionName ++ ['\x60']
  | emptyField field => '\x60' :: field.label ++ "` must not be empty".toList
  | missingMarker marker =>
      "import statement does not contain its marker `".toList ++ marker ++ ['\x60']
  | fallbackNotImported symbol =>
      "import statement does not bind the fallback symbol `".toList ++ symbol ++ ['\x60']
  | invalidGlob pattern fault =>
      "invalid glob pattern '".toList ++ pattern ++ "': ".toList ++ Glob.errorMessage pattern fault

def code : TargetError → Text
  | invalidIdentifier _ _ => "prerender::config::invalid_identifier".toList
  | reentrantFallback _ _ => "prerender::config::reentrant_fallback".toList
  | emptyField _ => "prerender::config::empty_field".toList
  | missingMarker _ => "prerender::config::missing_marker".toList
  | fallbackNotImported _ => "prerender::config::fallback_not_imported".toList
  | invalidGlob _ _ => "prerender::config::invalid_glob".toList

def help : TargetError → Option Text
  | invalidIdentifier _ _ =>
      some "Use a plain identifier such as `usePrerenderData` (no dots, spaces or quotes)".toList
  | reentrantFallback _ _ =>
      some "Rename the fallback symbol so a second pass over the output cannot match it".toList
  | emptyField _ => none
  | missingMarker _ =>
      some "The marker must be a substring of the statement, usually the `from '...'` clause".toList
  | fallbackNotImported symbol =>
      some
        ("Set `import.statement` to an import that declares `".toList ++ symbol ++
          "`, e.g. `import \x7b __neverReachable as ".toList ++ symbol ++
          " \x7d from '...';`".toList)
  | invalidGlob _ _ => none

end TargetError

namespace Target

def patternSet (patterns : List Text) : Except TargetError PatternSet :=
  match PatternSet.ofPatterns patterns with
  | .ok set => .ok set
  | .error (pattern, fault) => .error (.invalidGlob pattern fault)

def require (condition : Bool) (error : TargetError) : Except TargetError Unit :=
  if condition then .ok () else .error error

/-- Accepts a target that can be worked with. -/
def validate (target : Target) : Except TargetError Unit := do
  require target.functionName.isIdentifier (.invalidIdentifier .functionName target.functionName)
  require target.fallback.symbol.isIdentifier
    (.invalidIdentifier .fallbackSymbol target.fallback.symbol)
  require (!(target.fallback.render []).includes target.functionName)
    (.reentrantFallback (target.fallback.render []) target.functionName)
  require (!target.guard.trim.isEmpty) (.emptyField .guard)
  require (!target.directive.marker.isEmpty) (.emptyField .importMarker)
  require (target.directive.statement.includes target.directive.marker)
    (.missingMarker target.directive.marker)
  require (target.directive.statement.includesIdentifier target.fallback.symbol)
    (.fallbackNotImported target.fallback.symbol)
  let _ ← patternSet target.included
  let _ ← patternSet target.excluded
  .ok ()

end Target

end HandlerGuard
