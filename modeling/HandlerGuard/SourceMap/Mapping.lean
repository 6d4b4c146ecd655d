import HandlerGuard.Patch.Segment
import HandlerGuard.Position

namespace HandlerGuard

/-- A position of the patched text and the position it comes from. -/
structure Mapping where
  generated : Position
  source : Position
deriving DecidableEq, Repr

namespace Mapping

/-- The mappings of copied text that stands at `generated` and came from `source`. `fresh` tells that
no character of this segment precedes on the current line. -/
def ofCopied (hires : Bool) (generated source : Position) (fresh : Bool) : Text → List Mapping
  | [] => []
  | c :: rest =>
      let others :=
        ofCopied hires (generated.advance c) (source.advance c) (decide (c = '\n')) rest
      if c ≠ '\n' ∧ (hires ∨ fresh) then ⟨generated, source⟩ :: others else others

/-- The mappings of a segment that stands at `generated`. -/
def ofSegment (hires : Bool) (index : LineIndex) (generated : Position) (s : Segment) :
    Except EditError (List Mapping) :=
  match s.provenance with
  | .inserted anchor =>
      match index.position? anchor with
      | some source => .ok [⟨generated, source⟩]
      | none => .error (.unreadable ⟨anchor, anchor⟩)
  | .copied offset =>
      match index.position? offset with
      | some source => .ok (ofCopied hires generated source true s.text)
      | none => .error (.unreadable ⟨offset, offset⟩)

/-- The mappings of segments that stand at `generated`. -/
def ofSegments (hires : Bool) (index : LineIndex) (generated : Position) :
    List Segment → Except EditError (List Mapping)
  | [] => .ok []
  | s :: rest => do
      let first ← ofSegment hires index generated s
      let others ← ofSegments hires index (generated.advanceOver s.text) rest
      .ok (first ++ others)

end Mapping

def Patch.mappings (p : Patch) (hires : Bool) : Except EditError (List Mapping) := do
  let parts ← p.segments
  Mapping.ofSegments hires (LineIndex.ofText p.source) Position.origin parts

end HandlerGuard
