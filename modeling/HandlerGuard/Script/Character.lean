import HandlerGuard.Script.NameTable
import HandlerGuard.Text.Basic

namespace HandlerGuard.Script

def isLineBreak (c : Char) : Bool :=
  c = '\n' || c = '\r' || c = '\u2028' || c = '\u2029'

/-- A character that separates tokens without ending a line. -/
def isSpace (c : Char) : Bool :=
  let n := c.toNat
  n = 0x20 || n = 0x09 || n = 0x0B || n = 0x0C || n = 0xA0 || n = 0xFEFF || n = 0x85 ||
    n = 0x1680 || (0x2000 ≤ n && n ≤ 0x200B) || n = 0x202F || n = 0x205F || n = 0x3000

def isNameStart (c : Char) : Bool :=
  if c.toNat < 0x80 then c.isAlpha || c = '_' || c = '$' else changesHold startChanges c.toNat false

def isNamePart (c : Char) : Bool :=
  if c.toNat < 0x80 then c.isAlphanum || c = '_' || c = '$'
  else changesHold continueChanges c.toNat false

def hexValue? (c : Char) : Option Nat :=
  if c.isDigit then some (c.toNat - '0'.toNat)
  else if 'a' ≤ c ∧ c ≤ 'f' then some (c.toNat - 'a'.toNat + 10)
  else if 'A' ≤ c ∧ c ≤ 'F' then some (c.toNat - 'A'.toNat + 10)
  else none

def isHexDigit (c : Char) : Bool := (hexValue? c).isSome

def isBinaryDigit (c : Char) : Bool := c = '0' || c = '1'

def isOctalDigit (c : Char) : Bool := '0' ≤ c && c ≤ '7'

end HandlerGuard.Script
