import HandlerGuard.Text.Basic

namespace HandlerGuard

/-- How the fallback is written. -/
inductive FallbackShape where
  /-- The bare symbol. -/
  | identifier
  /-- A call without arguments. -/
  | call
  /-- A call with the key. -/
  | keyedCall
deriving DecidableEq, Repr, Inhabited

/-- What stands in for a handler. -/
structure Fallback where
  symbol : Text
  shape : FallbackShape := .call
deriving DecidableEq, Repr

def Fallback.render (f : Fallback) (key : Text) : Text :=
  match f.shape with
  | .identifier => f.symbol
  | .call => f.symbol ++ "()".toList
  | .keyedCall => f.symbol ++ ['('] ++ key ++ [')']

/-- The import that provides the fallback, and the part of it that tells whether it is there. -/
structure ImportDirective where
  statement : Text
  marker : Text
deriving DecidableEq, Repr

/-- The import of the fallback under a name from a module. -/
def ImportDirective.ofModule (symbol source : Text) : ImportDirective where
  statement :=
    "import \x7b __neverReachable as ".toList ++ symbol ++ " \x7d from '".toList ++ source ++
      "';\n".toList
  marker := "from '".toList ++ source ++ ['\'']

/-- What is looked for and what is put in. -/
structure Target where
  functionName : Text
  guard : Text
  fallback : Fallback
  directive : ImportDirective
  /-- Patterns of the modules that are looked at. -/
  included : List Text
  /-- Patterns of the modules that are left alone. -/
  excluded : List Text
  /-- Extensions of files with markup around script blocks. -/
  markupExtensions : List Text
  /-- Nothing is done in development. -/
  devBypass : Bool
  enabled : Bool
  /-- Source maps hold every character. -/
  hires : Bool
deriving DecidableEq, Repr

namespace Target

def defaultSymbol : Text := "__neverReachable_prerender".toList

/-- The module that provides the default fallback. -/
def runtimeModule : Text := "#nuxt-prerender-kit/runtime".toList

/-- The target that is used unless something else is asked for. -/
def standard : Target where
  functionName := "usePrerenderData".toList
  guard := "import.meta.prerender".toList
  fallback := ⟨defaultSymbol, .call⟩
  directive := ImportDirective.ofModule defaultSymbol runtimeModule
  included := ["**/*.ts", "**/*.vue", "**/*.tsx", "**/*.jsx"].map String.toList
  excluded := ["**/node_modules/**".toList]
  markupExtensions := ["vue".toList]
  devBypass := true
  enabled := true
  hires := true

/-- The fallback for a call. A key is only repeated if it does not hold the name of the function. -/
def renderFallback (target : Target) (key : Option Text) : Text :=
  match target.fallback.shape, key with
  | .keyedCall, some key =>
      if key.includes target.functionName then target.fallback.symbol ++ "()".toList
      else target.fallback.render key
  | .keyedCall, none => target.fallback.symbol ++ "()".toList
  | _, _ => target.fallback.render []

end Target

end HandlerGuard
