import HandlerGuard.Text.Basic
import HandlerGuard.Text.Printable

namespace HandlerGuard.Text

/-- The hexadecimal digits of a number, in lower case. -/
def hexDigits (n : Nat) : Text := Nat.toDigits 16 n

/-- The written form of one character inside quotes. -/
def escapeQuoted (c : Char) : Text :=
  if c = '"' then ['\\', '"']
  else if c = '\\' then ['\\', '\\']
  else if c = '\n' then ['\\', 'n']
  else if c = '\r' then ['\\', 'r']
  else if c = '\t' then ['\\', 't']
  else if c = '\x00' then ['\\', '0']
  else if isHidden c then "\\u\x7b".toList ++ hexDigits c.toNat ++ ['\x7d']
  else [c]

def quoted (t : Text) : Text := '"' :: t.flatMap escapeQuoted ++ ['"']

end HandlerGuard.Text
