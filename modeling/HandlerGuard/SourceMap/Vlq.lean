import HandlerGuard.Text.Basic

namespace HandlerGuard.Vlq

def alphabet : Text :=
  "ABCDEFGHIJKLMNOPQRSTUVWXYZabcdefghijklmnopqrstuvwxyz0123456789+/".toList

/-- The letter of a number below 64. -/
def letter (n : Nat) : Char := alphabet.getD n 'A'

/-- The magnitude doubled, plus one for a negative number. -/
def zigzag (n : Int) : Nat :=
  if n < 0 then 2 * n.natAbs + 1 else 2 * n.natAbs

/-- The groups of a number, the least significant first. `fuel` bounds the number of groups after the
first; the number itself is always enough. -/
def groups : Nat → Nat → List Nat
  | 0, n => [n % 32]
  | fuel + 1, n => if n < 32 then [n] else (n % 32 + 32) :: groups fuel (n / 32)

/-- The written form of a number. -/
def encode (n : Int) : Text := (groups (zigzag n) (zigzag n)).map letter

end HandlerGuard.Vlq
