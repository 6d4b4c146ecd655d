import HandlerGuard.Text.Basic

namespace HandlerGuard.Toml

def isBlank (c : Char) : Bool := c = ' ' || c = '\t'

/-- A character that may stand in comments and strings as itself: no control character but the tab. -/
def isPlain (c : Char) : Bool := c = '\t' || (0x20 ≤ c.toNat && c.toNat ≠ 0x7F)

def skipBlanks (t : Text) : Text := t.dropWhile isBlank

def lineBreak? : Text → Option Text
  | '\n' :: rest => some rest
  | '\r' :: '\n' :: rest => some rest
  | _ => none

/-- The text after a comment, if one stands in front. -/
def skipComment : Text → Text
  | '#' :: rest => rest.dropWhile isPlain
  | t => t

/-- What follows the end of a line: blanks, perhaps a comment, and a line break or the end of the
text. -/
def endLine? (t : Text) : Option Text :=
  match skipComment (skipBlanks t) with
  | [] => some []
  | rest => lineBreak? rest

/-- The text after blanks, comments and line breaks. `fuel` bounds the number of lines. -/
def skipLines : Nat → Text → Text
  | 0, t => t
  | fuel + 1, t =>
      let rest := skipComment (skipBlanks t)
      match lineBreak? rest with
      | some next => skipLines fuel next
      | none => rest

/-- The text after blanks, comments and line breaks. -/
def skipSpace (t : Text) : Text := skipLines (t.length + 1) t

end HandlerGuard.Toml
