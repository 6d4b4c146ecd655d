import HandlerGuard.LogFilter.Message
import HandlerGuard.LogFilter.Rule

namespace HandlerGuard

/-- The rules of a filter in their order. -/
structure LogFilter where
  /-- The rules that a message by itself decides. -/
  general : List LogRule
  /-- The rules that look at the spans around a message. -/
  inSpans : List LogRule
deriving DecidableEq, Repr

/-- The rule is for a message, whose only field is its text. -/
def LogRule.concerns (r : LogRule) (m : LogMessage) : Bool :=
  r.target.all (·.isPrefixOf m.component) && r.field.all (·.name = "message".toList)

namespace LogFilter

/-- The filter of some rules. A rule that is of both kinds counts twice. -/
def ofRules (rules : List LogRule) : LogFilter :=
  ⟨LogRule.arrange (rules.filter LogRule.isGeneral), LogRule.arrange (rules.filter LogRule.isScoped)⟩

/-- The filter that a text writes, with commas between the rules. -/
def parse? (t : Text) : Option LogFilter :=
  (((t.splitAll ',').filter (!·.isEmpty)).mapM LogRule.parse?).map ofRules

def render (f : LogFilter) : Text := Text.join [','] ((f.general ++ f.inSpans).map LogRule.render)

/-- The filter with one level for the components of this program. -/
def uniform (level : LogLevel) : LogFilter :=
  ofRules
    [{ target := some "prerender_transform".toList, level },
      { target := some "prerender_cli".toList, level }]

def variableName : Text := "RUST_LOG".toList

def ofFlags (verbose quiet : Bool) (environment : Environment) : LogFilter :=
  if verbose then uniform .debug
  else if quiet then uniform .error
  else ((environment.lookup variableName).bind parse?).getD (uniform .info)

/-- The first rule for a message allows its level. No message stands in a span, so the rules for spans do
not count. -/
def shows (f : LogFilter) (m : LogMessage) : Bool :=
  (f.general.find? (·.concerns m)).any fun rule => m.level.rank ≤ rule.level.rank

/-- Some rule allows messages of a level. -/
def reaches (f : LogFilter) (level : LogLevel) : Bool :=
  f.general.any fun rule => level.rank ≤ rule.level.rank

/-- Whether colours are asked for or ruled out; otherwise the terminal decides. -/
def colors? (environment : Environment) : Option Bool :=
  if (environment.lookup "NO_COLOR".toList).isSome then some false
  else if (environment.lookup "FORCE_COLOR".toList).isSome then some true
  else none

end LogFilter

end HandlerGuard
