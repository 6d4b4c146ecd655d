import HandlerGuard.Text.Basic

/-!
Lines and columns.

A position is a zero-based line and a zero-based column counted in UTF-16 units. It is reached either
by walking over the text from the start, or by looking the offset up among the line starts.
-/
namespace HandlerGuard

/-- A line and a column, both from zero. -/
structure Position where
  line : Nat
  column : Nat
deriving DecidableEq, Repr, Inhabited

namespace Position

/-- The start of a text. -/
def origin : Position := ⟨0, 0⟩

/-- The position just after a character. -/
def advance (p : Position) (c : Char) : Position :=
  if c = '\n' then ⟨p.line + 1, 0⟩ else ⟨p.line, p.column + Text.units c⟩

def advanceOver (p : Position) (t : Text) : Position := t.foldl advance p

end Position

/-- A text with the offsets at which its lines start. -/
structure LineIndex where
  text : Text
  starts : List Nat
deriving Repr

namespace LineIndex

/-- The offsets just after each line feed of a text that begins at `offset`. -/
def startsAfter (offset : Nat) : Text → List Nat
  | [] => []
  | c :: rest =>
      let next := offset + c.utf8Size
      if c = '\n' then next :: startsAfter next rest else startsAfter next rest

/-- The index of a text: its first line starts at 0. -/
def ofText (t : Text) : LineIndex := ⟨t, 0 :: startsAfter 0 t⟩

def lineAt (index : LineIndex) (offset : Nat) : Nat :=
  (index.starts.takeWhile (· ≤ offset)).length - 1

/-- The position of an offset; none past the end or inside a character. -/
def position? (index : LineIndex) (offset : Nat) : Option Position :=
  let line := index.lineAt offset
  (index.text.slice? ⟨index.starts.getD line 0, offset⟩).map fun before =>
    ⟨line, Text.units16 before⟩

end LineIndex

end HandlerGuard
