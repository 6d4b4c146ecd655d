import HandlerGuard.Settings.Environment

namespace HandlerGuard

/-- How much is logged. -/
inductive LogLevel where
  | off
  | error
  | warn
  | info
  | debug
  | trace
deriving DecidableEq, Repr

namespace LogLevel

def label : LogLevel → Text
  | off => "off".toList
  | error => "error".toList
  | warn => "warn".toList
  | info => "info".toList
  | debug => "debug".toList
  | trace => "trace".toList

def all : List LogLevel := [off, error, warn, info, debug, trace]

/-- The number of the level: the higher it is, the more is logged. -/
def rank (level : LogLevel) : Nat := all.idxOf level

/-- The level that a text names, in any case, or numbers. -/
def ofText? (t : Text) : Option LogLevel :=
  match all.find? fun level => level.label = t.map Char.toLower with
  | some level => some level
  | none => (Environment.natural? t).bind fun n => all[n]?

end LogLevel

end HandlerGuard
