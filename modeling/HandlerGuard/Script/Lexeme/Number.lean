import HandlerGuard.Script.Lexeme.Basic

namespace HandlerGuard.Script

/-- A place in the text, and whether what led there was sound. -/
structure NumberEnd where
  rest : Text
  offset : Nat
  sound : Bool

/-- The digits and separators from here on. A separator stands between two digits. -/
def digitsOn (digit : Char → Bool) : Text → Nat → NumberEnd
  | '_' :: c :: rest, offset =>
      if digit c then digitsOn digit rest (offset + 2) else ⟨c :: rest, offset + 1, false⟩
  | ['_'], offset => ⟨[], offset + 1, false⟩
  | c :: rest, offset =>
      if digit c then digitsOn digit rest (offset + 1) else ⟨c :: rest, offset, true⟩
  | [], offset => ⟨[], offset, true⟩

/-- At least one digit, then more digits and separators. -/
def digits (digit : Char → Bool) (t : Text) (offset : Nat) : NumberEnd :=
  match t with
  | c :: rest => if digit c then digitsOn digit rest (offset + 1) else ⟨t, offset, false⟩
  | [] => ⟨t, offset, false⟩

/-- The digits of a fraction, of which there may be none. -/
def fractionDigits (t : Text) (offset : Nat) : NumberEnd :=
  match t with
  | c :: rest => if c.isDigit then digitsOn Char.isDigit rest (offset + 1) else ⟨t, offset, true⟩
  | [] => ⟨t, offset, true⟩

def exponentDigits (t : Text) (offset : Nat) : NumberEnd :=
  match t with
  | '+' :: rest => digits Char.isDigit rest (offset + 1)
  | '-' :: rest => digits Char.isDigit rest (offset + 1)
  | _ => digits Char.isDigit t offset

/-- Reads on with `next` and keeps an earlier fault. -/
def NumberEnd.andThen (n : NumberEnd) (next : Text → Nat → NumberEnd) : NumberEnd :=
  let m := next n.rest n.offset
  { m with sound := m.sound && n.sound }

def optionalExponent (t : Text) (offset : Nat) : NumberEnd :=
  match t with
  | c :: rest =>
      if c = 'e' || c = 'E' then exponentDigits rest (offset + 1) else ⟨t, offset, true⟩
  | [] => ⟨t, offset, true⟩

/-- The suffix of a big integer, if there is one. -/
def optionalBig (t : Text) (offset : Nat) : NumberEnd :=
  match t with
  | 'n' :: rest => ⟨rest, offset + 1, true⟩
  | _ => ⟨t, offset, true⟩

/-- What may follow the digits of a decimal number: a fraction and an exponent, or the suffix of a
big integer. -/
def decimalTail (t : Text) (offset : Nat) : NumberEnd :=
  match t with
  | '.' :: rest => (fractionDigits rest (offset + 1)).andThen optionalExponent
  | 'n' :: rest => ⟨rest, offset + 1, true⟩
  | _ => optionalExponent t offset

/-- A number that begins with a zero and another digit. With a digit above seven it is decimal and may
have a fraction or an exponent. -/
def leadingZeroTail (t : Text) (offset : Nat) : NumberEnd :=
  let run := t.takeWhile Char.isDigit
  let after := t.drop run.length
  let middle := offset + run.length
  if run.all isOctalDigit then ⟨after, middle, true⟩
  else
    match after with
    | '.' :: rest => (fractionDigits rest (middle + 1)).andThen optionalExponent
    | 'e' :: rest => exponentDigits rest (middle + 1)
    | _ => ⟨after, middle, true⟩

/-- A number that begins with a digit or with a point and a digit. -/
def numberEnd (t : Text) (offset : Nat) : NumberEnd :=
  match t with
  | '.' :: rest => (digits Char.isDigit rest (offset + 1)).andThen optionalExponent
  | '0' :: c :: rest =>
      if c = 'x' || c = 'X' then (digits isHexDigit rest (offset + 2)).andThen optionalBig
      else if c = 'o' || c = 'O' then (digits isOctalDigit rest (offset + 2)).andThen optionalBig
      else if c = 'b' || c = 'B' then (digits isBinaryDigit rest (offset + 2)).andThen optionalBig
      else if c.isDigit then leadingZeroTail (c :: rest) (offset + 1)
      else decimalTail (c :: rest) (offset + 1)
  | _ => (digits Char.isDigit t offset).andThen decimalTail

/-- A number. Neither a digit nor a name may follow it directly. -/
def readNumber (offset : Nat) (t : Text) : Lexeme :=
  let n := numberEnd t offset
  match n.rest with
  | c :: _ =>
      if c.isDigit || isNameStart c then ⟨.unknown, [], n.rest, n.offset, false, false⟩
      else ⟨.number, [], n.rest, n.offset, n.sound, false⟩
  | [] => ⟨.number, [], n.rest, n.offset, n.sound, false⟩

end HandlerGuard.Script
