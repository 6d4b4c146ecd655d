import HandlerGuard.Script.Lexeme.Basic

namespace HandlerGuard.Script

/-- The value of hexadecimal digits up to a closing brace, and what follows the brace. -/
def bracedHex (value : Nat) (any : Bool) : Text → Option (Nat × Text)
  | [] => none
  | c :: rest =>
      if c = '\x7d' then (if any then some (value, rest) else none)
      else
        match hexValue? c with
        | some digit => bracedHex (value * 16 + digit) true rest
        | none => none

/-- The code point of the escape whose backslash and `u` are already read, and what follows. -/
def unicodeEscape? : Text → Option (Nat × Text)
  | '\x7b' :: rest => bracedHex 0 false rest
  | a :: b :: c :: d :: rest => do
      let a ← hexValue? a
      let b ← hexValue? b
      let c ← hexValue? c
      let d ← hexValue? d
      some (((a * 16 + b) * 16 + c) * 16 + d, rest)
  | _ => none

/-- The character of a code point, unless it is a surrogate or too large. -/
def charOfCode? (n : Nat) : Option Char :=
  if n < 0xD800 ∨ (0xDFFF < n ∧ n < 0x110000) then some (Char.ofNat n) else none

/-- The characters of a name from here on, decoded. `fuel` bounds the number of escapes. -/
def nameChars : Nat → Bool → Text → Nat → Bool → Lexeme
  | 0, _, rest, offset, escaped => ⟨.word, [], rest, offset, false, escaped⟩
  | fuel + 1, first, rest, offset, escaped =>
      let plain :=
        match rest with
        | c :: more => if first then (if isNameStart c then c :: more.takeWhile isNamePart else [])
            else (c :: more).takeWhile isNamePart
        | [] => []
      let after := rest.drop plain.length
      let middle := offset + Text.byteLength plain
      match after with
      | '\\' :: 'u' :: digits =>
          match unicodeEscape? digits with
          | some (code, others) =>
              let written := digits.length - others.length + 2
              match charOfCode? code with
              | some c =>
                  let allowed := if first && plain.isEmpty then isNameStart c else isNamePart c
                  let tail := nameChars fuel false others (middle + written) true
                  { tail with text := plain ++ c :: tail.text, sound := tail.sound && allowed }
              | none => ⟨.unknown, plain, others, middle + written, false, true⟩
          | none => ⟨.unknown, plain, digits, middle + 2, false, true⟩
      | '\\' :: others => ⟨.unknown, plain, others, middle + 1, false, true⟩
      | _ => ⟨.word, plain, after, middle, true, escaped⟩

/-- A name at the front of the text. Without an escape it is the longest run of name characters. -/
def readName (offset : Nat) (t : Text) : Lexeme :=
  let plain := t.takeWhile isNamePart
  let after := t.drop plain.length
  if after.head? = some '\\' then nameChars (t.length + 1) true t offset false
  else ⟨.word, plain, after, offset + Text.byteLength plain, true, false⟩

/-- A name after `#`, which is already read. -/
def readPrivateName (offset : Nat) (t : Text) : Lexeme :=
  match t with
  | c :: _ =>
      if isNameStart c || c = '\\' then
        let name := readName offset t
        { name with kind := if name.kind = .word then .privateName else name.kind }
      else ⟨.unknown, [], t, offset, false, false⟩
  | [] => ⟨.unknown, [], t, offset, false, false⟩

end HandlerGuard.Script
