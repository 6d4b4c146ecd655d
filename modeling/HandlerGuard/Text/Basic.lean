/-!
Text and its measures.

A text is a list of characters. Offsets into it count the bytes of its UTF-8 form, and an offset is
usable only where a character begins or the text ends. Columns count UTF-16 units.
-/
namespace HandlerGuard

/-- A sequence of characters. -/
abbrev Text := List Char

/-- A half-open range of byte offsets. -/
structure Span where
  start : Nat
  stop : Nat
deriving DecidableEq, Repr, Inhabited

namespace Span

/-- Number of bytes covered. -/
def length (s : Span) : Nat := s.stop - s.start

/-- The range `inner` lies inside `outer`. -/
def within (inner outer : Span) : Bool :=
  decide (outer.start ≤ inner.start) && decide (inner.stop ≤ outer.stop)

end Span

namespace Text

/-- Number of bytes of the UTF-8 form. -/
def byteLength : Text → Nat
  | [] => 0
  | c :: rest => c.utf8Size + byteLength rest

/-- Number of UTF-16 units of one character. -/
def units (c : Char) : Nat := if c.toNat < 0x10000 then 1 else 2

def units16 : Text → Nat
  | [] => 0
  | c :: rest => units c + units16 rest

/-- What follows the first `n` bytes; none past the end or inside a character. -/
def dropBytes? : Text → Nat → Option Text
  | t, 0 => some t
  | [], _ + 1 => none
  | c :: rest, n + 1 =>
      if c.utf8Size ≤ n + 1 then dropBytes? rest (n + 1 - c.utf8Size) else none

/-- The first `n` bytes; none past the end or inside a character. -/
def takeBytes? : Text → Nat → Option Text
  | _, 0 => some []
  | [], _ + 1 => none
  | c :: rest, n + 1 =>
      if c.utf8Size ≤ n + 1 then (takeBytes? rest (n + 1 - c.utf8Size)).map (c :: ·) else none

/-- A character begins at the offset, or the text ends there. -/
def isBoundary (t : Text) (offset : Nat) : Bool := (dropBytes? t offset).isSome

/-- The part of the text covered by a range; none unless the range runs forward between two
boundaries. -/
def slice? (t : Text) (s : Span) : Option Text :=
  if s.start ≤ s.stop then (dropBytes? t s.start).bind (takeBytes? · s.length) else none

/-- A range that covers at least one character of the text and begins and ends at boundaries. -/
def covers (t : Text) (s : Span) : Bool :=
  decide (s.start < s.stop) && decide (s.stop ≤ byteLength t) && isBoundary t s.start &&
    isBoundary t s.stop

/-- Whether `needle` stands somewhere in the text. The empty text stands everywhere. -/
def includes (t needle : Text) : Bool :=
  needle.isPrefixOf t ||
    match t with
    | [] => false
    | _ :: rest => includes rest needle

/-- The part before the first `c` and, if there is one, the part after it. -/
def splitFirst (c : Char) : Text → Text × Option Text
  | [] => ([], none)
  | x :: rest =>
      if x = c then ([], some rest)
      else
        let (before, after) := splitFirst c rest
        (x :: before, after)

/-- The parts between the separators; always at least one. -/
def splitAll (c : Char) : Text → List Text
  | [] => [[]]
  | x :: rest =>
      if x = c then [] :: splitAll c rest
      else
        match splitAll c rest with
        | [] => [[x]]
        | part :: parts => (x :: part) :: parts

def join (separator : Text) : List Text → Text
  | [] => []
  | [part] => part
  | part :: parts => part ++ separator ++ join separator parts

def ofNat (n : Nat) : Text := Nat.toDigits 10 n

end Text

end HandlerGuard
