import HandlerGuard.Script.Lexeme.Name
import HandlerGuard.Script.Lexeme.Number
import HandlerGuard.Script.Lexeme.Quoted

namespace HandlerGuard.Script

/-- A token, what follows it, and whether the gap before it and the token itself were sound. -/
structure Lexed where
  token : Token
  rest : Text
  sound : Bool
deriving Repr

/-- The punctuator at the front of the text. A question mark before a point and a digit stands
alone. -/
def readPunctuator (offset : Nat) (t : Text) : Lexeme :=
  match punctuators.find? (·.isPrefixOf t) with
  | some p =>
      let rest := t.drop p.length
      if p = ['?', '.'] && rest.head?.any Char.isDigit then
        ⟨.punctuator, ['?'], '.' :: rest, offset + 1, true, false⟩
      else ⟨.punctuator, p, rest, offset + p.length, true, false⟩
  | none =>
      match t with
      | c :: rest => ⟨.unknown, [c], rest, offset + c.utf8Size, false, false⟩
      | [] => ⟨.ended, [], [], offset, true, false⟩

/-- The lexeme at the front of text that begins with no gap. -/
def readLexeme (offset : Nat) (t : Text) : Lexeme :=
  match t with
  | [] => ⟨.ended, [], [], offset, true, false⟩
  | c :: rest =>
      if isNameStart c || c = '\\' then readName offset t
      else if c.isDigit || (c = '.' && rest.head?.any Char.isDigit) then readNumber offset t
      else if c = '"' || c = '\'' then readString c (offset + 1) rest
      else if c = '\x60' then readTemplate (offset + 1) rest
      else if c = '#' then readPrivateName (offset + 1) rest
      else readPunctuator offset t

def readToken (offset : Nat) (t : Text) : Lexed :=
  let gap := skipGap .between false offset t
  let found := readLexeme gap.offset gap.rest
  ⟨⟨found.kind, found.text, gap.offset, found.offset, gap.newline, found.escaped⟩, found.rest,
    found.sound && !gap.unclosed⟩

/-- The text without the line that begins with `#!`, if its first line does, and its offset. -/
def skipHashbang (t : Text) : Nat × Text :=
  match t with
  | '#' :: '!' :: _ =>
      let line := t.takeWhile (!isLineBreak ·)
      (Text.byteLength line, t.drop line.length)
  | _ => (0, t)

end HandlerGuard.Script
