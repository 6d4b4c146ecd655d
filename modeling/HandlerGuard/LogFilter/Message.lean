import HandlerGuard.Command.Notice
import HandlerGuard.LogFilter.Level

namespace HandlerGuard

/-- A message that the program logs. -/
structure LogMessage where
  /-- The component that it comes from. -/
  component : Text
  level : LogLevel
  text : Text
deriving DecidableEq, Repr

namespace LogMessage

/-- The colour of the name of a level. -/
def color : LogLevel → Nat
  | .off => Notice.usualColor
  | .error => 31
  | .warn => 33
  | .info => 32
  | .debug => 34
  | .trace => 35

/-- The name of the level, with blanks in front of the shorter ones. -/
def levelText (m : LogMessage) : Text :=
  let name := m.level.label.map Char.toUpper
  List.replicate (5 - name.length) ' ' ++ name

/-- The line of a message. There is no clock: the time, with which a line begins, is left out. -/
def render (colors : Bool) (m : LogMessage) : Text :=
  (if colors then Notice.style (color m.level) ++ m.levelText ++ Notice.style 0 else m.levelText) ++
    [' '] ++ m.text ++ ['\n']

end LogMessage

end HandlerGuard
