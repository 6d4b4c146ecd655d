import HandlerGuard.Script.Grammar.Knot
import HandlerGuard.Script.Language

namespace HandlerGuard.Script

/-- A module: its statements, the directives at its front apart. -/
structure Program where
  directives : List Tree
  statements : List Tree
deriving Repr, Inhabited

def Parser.statements (g : Grammar) : Parser (List Tree) :=
  Parser.untilStop (do return (← Parser.current).isEnd) (g (.statement .list))

/-- The context at the top of a module: `await` is an operator, `yield` and `return` are not
allowed. -/
def Context.top (language : ScriptLanguage) (budget : Nat) : Context where
  types := language.hasTypes
  markup := language.hasMarkup
  budget := budget
  inOperator := true
  yieldAllowed := false
  awaitAllowed := true
  returnAllowed := false
  decorator := false
  ambient := false
  noConditionalType := false

/-- How often rules stand in one another at most, for so many characters. A rule that reads no token
of its own stands in a few others at most. -/
def depthFor (length : Nat) : Nat := 8 * length + 16

/-- The module that a text is, if it is one without any fault. -/
def Program.parse? (language : ScriptLanguage) (t : Text) : Option Program :=
  let (offset, body) := skipHashbang t
  let budget := t.length + 2
  match Parser.statements (Grammar.within (depthFor t.length)) (Context.top language budget)
      (State.start offset body) with
  | .found list s =>
      if s.flawed || !s.initialized.isEmpty then none
      else some ⟨list.takeWhile Parser.isDirective, list.dropWhile Parser.isDirective⟩
  | .failed _ => none

end HandlerGuard.Script
