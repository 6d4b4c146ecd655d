import HandlerGuard.Script.Character
import HandlerGuard.Script.Token

namespace HandlerGuard.Script

/-- What one reading step found: its kind and text, what follows, where that begins, and whether the
reading was sound. -/
structure Lexeme where
  kind : TokenKind
  text : Text
  rest : Text
  offset : Nat
  sound : Bool
  escaped : Bool
deriving Repr

/-- A gap between tokens: what follows it and where, whether it holds a line break, and whether a
comment in it is left open. -/
structure Gap where
  rest : Text
  offset : Nat
  newline : Bool
  unclosed : Bool
deriving Repr

/-- Where a gap is being read. -/
inductive GapMode where
  | between
  | lineComment
  | blockComment
deriving DecidableEq, Repr

/-- The gap at the front of the text: spaces, line breaks and comments. -/
def skipGap : GapMode → Bool → Nat → Text → Gap
  | .between, newline, offset, '/' :: '/' :: rest => skipGap .lineComment newline (offset + 2) rest
  | .between, newline, offset, '/' :: '*' :: rest => skipGap .blockComment newline (offset + 2) rest
  | .between, newline, offset, c :: rest =>
      if isLineBreak c then skipGap .between true (offset + c.utf8Size) rest
      else if isSpace c then skipGap .between newline (offset + c.utf8Size) rest
      else ⟨c :: rest, offset, newline, false⟩
  | .lineComment, newline, offset, c :: rest =>
      if isLineBreak c then skipGap .between true (offset + c.utf8Size) rest
      else skipGap .lineComment newline (offset + c.utf8Size) rest
  | .blockComment, newline, offset, '*' :: '/' :: rest => skipGap .between newline (offset + 2) rest
  | .blockComment, newline, offset, c :: rest =>
      skipGap .blockComment (newline || isLineBreak c) (offset + c.utf8Size) rest
  | .blockComment, newline, offset, [] => ⟨[], offset, newline, true⟩
  | _, newline, offset, [] => ⟨[], offset, newline, false⟩

end HandlerGuard.Script
