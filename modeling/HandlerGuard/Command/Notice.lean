import HandlerGuard.Text.Basic

namespace HandlerGuard

/-- A line for the user. -/
inductive Notice where
  | success (message : Text)
  | info (message : Text)
  | warning (message : Text)
deriving DecidableEq, Repr

namespace Notice

/-- The code of a terminal colour or style. -/
def style (n : Nat) : Text := ['\x1b', '['] ++ Text.ofNat n ++ ['m']

def usualColor : Nat := 39

def sign (color : Nat) (c : Char) : Text :=
  style 1 ++ style color ++ [c] ++ style usualColor ++ style 0

/-- The line as text, with its line break. -/
def render : Notice → Text
  | success message => sign 32 '✓' ++ [' '] ++ message ++ ['\n']
  | info message => sign 34 'ℹ' ++ [' '] ++ message ++ ['\n']
  | warning message =>
      sign 33 '⚠' ++ [' '] ++ style 33 ++ message ++ style usualColor ++ ['\n']

end Notice

end HandlerGuard
