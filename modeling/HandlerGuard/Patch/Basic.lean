import HandlerGuard.Text.Basic

/-!
Edits recorded against a text.

A patch holds a text that never changes, the edits recorded for ranges of it, and text put in front
of everything. An edit replaces its range by pieces, each either new text or a range copied from
inside the edited one, so that copied text is still known to come from where it stood. The edits are
kept in the order of their ranges and no two of them overlap.
-/
namespace HandlerGuard

/-- A part of a replacement. -/
inductive Piece where
  /-- New text. -/
  | inserted (text : Text)
  /-- A range of the patched text. -/
  | copied (span : Span)
deriving DecidableEq, Repr

/-- A range and what stands in its place. -/
structure Edit where
  span : Span
  pieces : List Piece
deriving DecidableEq, Repr

/-- Why an edit is refused, or why text cannot be read. -/
inductive EditError where
  /-- The range of a recorded edit overlaps the requested one. -/
  | overlap (recorded requested : Span)
  /-- A range is empty, runs backwards, leaves the text or cuts a character. -/
  | badSpan (span : Span) (length : Nat)
  /-- Text was read at a range that leaves the text or cuts a character. -/
  | unreadable (span : Span)
deriving DecidableEq, Repr

namespace EditError

/-- A range as its two ends. -/
def spanText (s : Span) : Text := Text.ofNat s.start ++ "..".toList ++ Text.ofNat s.stop

def message : EditError → Text
  | overlap recorded requested =>
      "overlapping edits at ".toList ++ spanText recorded ++ " and ".toList ++ spanText requested
  | badSpan span length =>
      "edit range ".toList ++ spanText span ++ " is not valid for a source of ".toList ++
        Text.ofNat length ++ " bytes".toList
  | unreadable span => "no text can be read at ".toList ++ spanText span

def code : EditError → Option Text
  | overlap _ _ => some "prerender::transform::overlapping_edit".toList
  | badSpan _ _ => some "prerender::transform::invalid_range".toList
  | unreadable _ => none

def help : EditError → Option Text
  | overlap _ _ =>
      some "This is a bug in the call-site rewriter; please report it with the input file".toList
  | badSpan _ _ => none
  | unreadable _ => none

end EditError

/-- A text with the edits recorded for it. -/
structure Patch where
  /-- The text the edits refer to. -/
  source : Text
  /-- What stands in front of everything. -/
  lead : Text
  /-- The edits, by increasing start. -/
  edits : List Edit
deriving DecidableEq, Repr

namespace Patch

def ofText (t : Text) : Patch := ⟨t, [], []⟩

/-- Accepts a range that covers text of the source between two character boundaries. -/
def checkSpan (p : Patch) (s : Span) : Except EditError Unit :=
  if p.source.covers s then .ok () else .error (.badSpan s p.source.byteLength)

/-- Accepts new text, and copied ranges that are sound and lie inside the edited one. -/
def checkPiece (p : Patch) (outer : Span) : Piece → Except EditError Unit
  | .inserted _ => .ok ()
  | .copied inner => do
      p.checkSpan inner
      if inner.within outer then .ok () else .error (.badSpan inner p.source.byteLength)

def checkPieces (p : Patch) (outer : Span) : List Piece → Except EditError Unit
  | [] => .ok ()
  | piece :: rest => do
      p.checkPiece outer piece
      p.checkPieces outer rest

/-- The recorded edits split at the first one that does not start before the range. -/
def splitEdits (p : Patch) (s : Span) : List Edit × List Edit :=
  (p.edits.takeWhile (·.span.start < s.start), p.edits.dropWhile (·.span.start < s.start))

/-- Accepts a range that the nearest edit on the left does not reach into. -/
def checkLeft (s : Span) (before : List Edit) : Except EditError Unit :=
  match before.getLast? with
  | some left => if s.start < left.span.stop then .error (.overlap left.span s) else .ok ()
  | none => .ok ()

/-- Accepts a range that does not reach into the nearest edit on the right. -/
def checkRight (s : Span) (after : List Edit) : Except EditError Unit :=
  match after.head? with
  | some right => if right.span.start < s.stop then .error (.overlap right.span s) else .ok ()
  | none => .ok ()

/-- Records that the range is replaced by the pieces. -/
def overwriteWith (p : Patch) (s : Span) (pieces : List Piece) : Except EditError Patch := do
  p.checkSpan s
  p.checkPieces s pieces
  let (before, after) := p.splitEdits s
  checkLeft s before
  checkRight s after
  .ok { p with edits := before ++ ⟨s, pieces⟩ :: after }

/-- Records that the range is replaced by new text. -/
def overwrite (p : Patch) (s : Span) (t : Text) : Except EditError Patch :=
  p.overwriteWith s [.inserted t]

/-- Puts text in front of everything, what was put there before included. -/
def prepend (p : Patch) (t : Text) : Patch := { p with lead := t ++ p.lead }

/-- Whether anything was recorded. -/
def hasChanges (p : Patch) : Bool := !p.edits.isEmpty || !p.lead.isEmpty

end Patch

end HandlerGuard
