import HandlerGuard.Patch.Basic

namespace HandlerGuard

/-- Where the text of a segment comes from. -/
inductive Provenance where
  /-- Copied from the offset. -/
  | copied (offset : Nat)
  /-- Inserted at the offset. -/
  | inserted (anchor : Nat)
deriving DecidableEq, Repr

/-- A run of the patched text with one provenance. -/
structure Segment where
  text : Text
  provenance : Provenance
deriving DecidableEq, Repr

namespace Patch

def read (p : Patch) (s : Span) : Except EditError Text :=
  match p.source.slice? s with
  | some t => .ok t
  | none => .error (.unreadable s)

/-- The copied segment of a range, or nothing for a range without text. -/
def copySegment (p : Patch) (s : Span) : Except EditError (List Segment) :=
  if s.start < s.stop then do
    let t ← p.read s
    .ok [⟨t, .copied s.start⟩]
  else .ok []

/-- The segment of a piece of an edit that starts at `anchor`; empty text makes none. -/
def pieceSegment (p : Patch) (anchor : Nat) : Piece → Except EditError (List Segment)
  | .inserted t => .ok (if t.isEmpty then [] else [⟨t, .inserted anchor⟩])
  | .copied s => p.copySegment s

/-- The segments of the pieces of an edit that starts at `anchor`. -/
def pieceSegments (p : Patch) (anchor : Nat) : List Piece → Except EditError (List Segment)
  | [] => .ok []
  | piece :: rest => do
      let first ← p.pieceSegment anchor piece
      let others ← p.pieceSegments anchor rest
      .ok (first ++ others)

/-- The segments of the source from `cursor` on, with the edits in place. -/
def segmentsFrom (p : Patch) (cursor : Nat) : List Edit → Except EditError (List Segment)
  | [] => p.copySegment ⟨cursor, p.source.byteLength⟩
  | edit :: rest => do
      let gap ← p.copySegment ⟨cursor, edit.span.start⟩
      let replaced ← p.pieceSegments edit.span.start edit.pieces
      let others ← p.segmentsFrom edit.span.stop rest
      .ok (gap ++ replaced ++ others)

/-- The segments of the patched text, none of them empty. The lead is inserted at 0. -/
def segments (p : Patch) : Except EditError (List Segment) := do
  let body ← p.segmentsFrom 0 p.edits
  .ok ((if p.lead.isEmpty then [] else [⟨p.lead, .inserted 0⟩]) ++ body)

def render (p : Patch) : Except EditError Text :=
  p.segments.map fun parts => parts.flatMap (·.text)

end Patch

end HandlerGuard
