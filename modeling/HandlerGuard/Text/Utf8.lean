import HandlerGuard.Text.Basic

namespace HandlerGuard.Text

def toBytes (t : Text) : List UInt8 := t.flatMap String.utf8EncodeChar

/-- The six bits that a byte after the first holds. -/
def tailBits? (b : UInt8) : Option Nat :=
  if 0x80 ≤ b ∧ b < 0xC0 then some (b.toNat - 0x80) else none

/-- The character of a code that needs so many bytes: the code is at least `least`. -/
def charOfCode? (least code : Nat) : Option Char :=
  if least ≤ code ∧ code.isValidChar then some (Char.ofNat code) else none

def ofBytes? : List UInt8 → Option Text
  | [] => some []
  | a :: rest =>
      if a < 0x80 then (ofBytes? rest).map (Char.ofNat a.toNat :: ·)
      else if a < 0xC0 then none
      else if a < 0xE0 then
        match rest with
        | b :: rest => do
            let b ← tailBits? b
            let c ← charOfCode? 0x80 ((a.toNat - 0xC0) * 64 + b)
            (ofBytes? rest).map (c :: ·)
        | _ => none
      else if a < 0xF0 then
        match rest with
        | b :: c :: rest => do
            let b ← tailBits? b
            let c ← tailBits? c
            let d ← charOfCode? 0x800 (((a.toNat - 0xE0) * 64 + b) * 64 + c)
            (ofBytes? rest).map (d :: ·)
        | _ => none
      else if a < 0xF8 then
        match rest with
        | b :: c :: d :: rest => do
            let b ← tailBits? b
            let c ← tailBits? c
            let d ← tailBits? d
            let e ← charOfCode? 0x10000 ((((a.toNat - 0xF0) * 64 + b) * 64 + c) * 64 + d)
            (ofBytes? rest).map (e :: ·)
        | _ => none
      else none

end HandlerGuard.Text
