import HandlerGuard.Script.Lexeme.Name

namespace HandlerGuard.Script

/-- Where a quoted text is being read. -/
inductive QuoteMode where
  | plain
  /-- After a backslash. -/
  | escape
  /-- After a backslash and a carriage return. -/
  | afterReturn
  /-- After a backslash and a zero. -/
  | afterZero
  /-- So many hexadecimal digits are still due. -/
  | hex (due : Nat)
  /-- After a backslash and `u`. -/
  | unicode
  /-- Inside the braces of a unicode escape. -/
  | braced (value : Nat) (any : Bool)
  /-- After a dollar sign of a template. -/
  | dollar
deriving DecidableEq, Repr

/-- The mode after a character of an escape, and whether the escape is still sound. -/
def escapeStep (mode : QuoteMode) (c : Char) : QuoteMode × Bool :=
  match mode with
  | .escape =>
      if c = 'x' then (.hex 2, true)
      else if c = 'u' then (.unicode, true)
      else if c = '\r' then (.afterReturn, true)
      else (.plain, true)
  | .hex due =>
      if isHexDigit c then (if due ≤ 1 then .plain else .hex (due - 1), true) else (.plain, false)
  | .unicode =>
      if c = '\x7b' then (.braced 0 false, true)
      else if isHexDigit c then (.hex 3, true)
      else (.plain, false)
  | .braced value any =>
      if c = '\x7d' then (.plain, any && value < 0x110000)
      else
        match hexValue? c with
        | some digit => (.braced (min (value * 16 + digit) 0x110000) true, true)
        | none => (.plain, false)
  | other => (other, true)

/-- A string after its opening quote. It ends at the closing quote; a line feed or a carriage return
leaves it open. -/
def stringChars (quote : Char) : QuoteMode → Bool → Nat → Text → Lexeme
  | _, _, offset, [] => ⟨.unknown, [], [], offset, false, false⟩
  | mode, sound, offset, c :: rest =>
      let next := offset + c.utf8Size
      let more (mode : QuoteMode) (sound : Bool) : Lexeme :=
        let tail := stringChars quote mode sound next rest
        { tail with text := c :: tail.text }
      match mode with
      | .plain =>
          if c = quote then ⟨.string, [], rest, next, sound, false⟩
          else if c = '\\' then more .escape sound
          else if c = '\n' || c = '\r' then ⟨.unknown, [], rest, next, false, false⟩
          else more .plain sound
      | .afterReturn =>
          if c = quote then ⟨.string, [], rest, next, sound, false⟩
          else if c = '\\' then more .escape sound
          else if c = '\r' then ⟨.unknown, [], rest, next, false, false⟩
          else more .plain sound
      | other =>
          let (mode, fine) := escapeStep other c
          if !fine && c = quote then ⟨.string, [], rest, next, false, false⟩
          else more mode (sound && fine)

/-- The value of octal digits at the front of a text, as long as it is a byte, and what follows
them. -/
def octalEscape (t : Text) : Nat × Text :=
  let most := if t.head?.any (· ≤ '3') then 3 else 2
  let digits := (t.take most).takeWhile isOctalDigit
  (digits.foldl (fun n c => n * 8 + (c.toNat - '0'.toNat)) 0, t.drop digits.length)

/-- The lower half of a surrogate pair in an escape at the front of a text, and what follows it. -/
def lowSurrogate? : Text → Option (Nat × Text)
  | '\\' :: 'u' :: a :: b :: c :: d :: rest =>
      match unicodeEscape? [a, b, c, d] with
      | some (code, []) => if 0xDC00 ≤ code ∧ code ≤ 0xDFFF then some (code, rest) else none
      | _ => none
  | _ => none

/-- What half of a surrogate pair stands for that is on its own. -/
def loneSurrogate (code : Nat) : Text := '\ufffd' :: Nat.toDigits 16 code

/-- The characters of an escape with a code, what follows it, and whether it is half of a surrogate
pair. -/
def decodedCode (code : Nat) (rest : Text) : Text × Text × Bool :=
  match charOfCode? code with
  | some c => ([c], rest, false)
  | none =>
      match lowSurrogate? rest with
      | some (low, others) =>
          if code < 0xDC00 then
            ([Char.ofNat ((code - 0xD800) * 0x400 + (low - 0xDC00) + 0x10000)], others, false)
          else (loneSurrogate code, rest, true)
      | none => (loneSurrogate code, rest, true)

/-- The characters of an escape after its backslash, what follows it, and whether it is half of a
surrogate pair. -/
def decodedEscape : Text → Text × Text × Bool
  | [] => ([], [], false)
  | c :: rest =>
      if c = 'n' then (['\n'], rest, false)
      else if c = 't' then (['\t'], rest, false)
      else if c = 'r' then (['\r'], rest, false)
      else if c = 'b' then (['\x08'], rest, false)
      else if c = 'f' then (['\x0c'], rest, false)
      else if c = 'v' then (['\x0b'], rest, false)
      else if c = '\r' then ([], if rest.head? = some '\n' then rest.drop 1 else rest, false)
      else if isLineBreak c then ([], rest, false)
      else if isOctalDigit c then
        let (code, others) := octalEscape (c :: rest)
        ([Char.ofNat code], others, false)
      else if c = 'x' then
        match rest with
        | a :: b :: others => decodedCode ((hexValue? a).getD 0 * 16 + (hexValue? b).getD 0) others
        | others => ([], others, false)
      else if c = 'u' then
        match unicodeEscape? rest with
        | some (code, others) => decodedCode code others
        | none => ([], rest, false)
      else ([c], rest, false)

/-- The value of a string that is written so, and whether it holds half of a surrogate pair. `fuel`
bounds the number of characters. -/
def stringValue : Nat → Text → Text × Bool
  | 0, t => (t, false)
  | _ + 1, [] => ([], false)
  | fuel + 1, c :: rest =>
      let (decoded, rest, lone) := if c = '\\' then decodedEscape rest else ([c], rest, false)
      let (tail, others) := stringValue fuel rest
      (decoded ++ tail, lone || others)

def readString (quote : Char) (offset : Nat) (t : Text) : Lexeme :=
  let found := stringChars quote .plain true offset t
  if found.text.contains '\\' then
    let (text, escaped) := stringValue found.text.length found.text
    { found with text, escaped }
  else found

/-- The mode after the character that follows a backslash in a template, and whether the escape is
still sound: digits other than a single zero are not. -/
def templateEscape (c : Char) : QuoteMode × Bool :=
  if c = '0' then (.afterZero, true)
  else if c.isDigit then (.plain, false)
  else escapeStep .escape c

/-- A piece of a template from here on: `whole` is its kind if the template ends, `head` its kind if a
substitution follows. A malformed escape is only marked. -/
def templateChars (whole head : TokenKind) : QuoteMode → Bool → Nat → Text → Lexeme
  | _, _, offset, [] => ⟨.unknown, [], [], offset, false, false⟩
  | mode, malformed, offset, c :: rest =>
      let next := offset + c.utf8Size
      let plain (malformed : Bool) : Lexeme :=
        if c = '\x60' then ⟨whole, [], rest, next, true, malformed⟩
        else if c = '\\' then templateChars whole head .escape malformed next rest
        else if c = '$' then templateChars whole head .dollar malformed next rest
        else templateChars whole head .plain malformed next rest
      match mode with
      | .plain => plain malformed
      | .dollar =>
          if c = '\x7b' then ⟨head, [], rest, next, true, malformed⟩ else plain malformed
      | .escape =>
          let (mode, fine) := templateEscape c
          templateChars whole head mode (malformed || !fine) next rest
      | .afterReturn => plain malformed
      | .afterZero => plain (malformed || c.isDigit)
      | other =>
          let (mode, fine) := escapeStep other c
          if fine then templateChars whole head mode malformed next rest else plain true

/-- A template after its opening back quote. -/
def readTemplate (offset : Nat) (t : Text) : Lexeme :=
  templateChars .templateWhole .templateHead .plain false offset t

/-- A template after the closing brace of a substitution. -/
def readTemplateOn (offset : Nat) (t : Text) : Lexeme :=
  templateChars .templateTail .templateMiddle .plain false offset t

/-- The flags of a regular expression: each of the known letters at most once, and not both ways to read
it as unicode. -/
def regexFlags : Text → Text → Nat → Lexeme
  | seen, c :: rest, offset =>
      if c.isAlphanum || c = '_' || c = '$' then
        let tail := regexFlags (c :: seen) rest (offset + 1)
        { tail with sound := tail.sound && "gimsuydv".toList.contains c && !seen.contains c }
      else ⟨.regex, [], c :: rest, offset, !(seen.contains 'u' && seen.contains 'v'), false⟩
  | seen, [], offset => ⟨.regex, [], [], offset, !(seen.contains 'u' && seen.contains 'v'), false⟩

/-- The body of a regular expression from here on, then its flags. -/
def regexChars (inClass escaped : Bool) (offset : Nat) : Text → Lexeme
  | [] => ⟨.unknown, [], [], offset, false, false⟩
  | c :: rest =>
      let next := offset + c.utf8Size
      if isLineBreak c then ⟨.unknown, [], rest, next, false, false⟩
      else if escaped then regexChars inClass false next rest
      else if c = '/' && !inClass then regexFlags [] rest next
      else if c = '[' then regexChars true false next rest
      else if c = ']' && inClass then regexChars false false next rest
      else if c = '\\' then regexChars inClass true next rest
      else regexChars inClass false next rest

end HandlerGuard.Script
