import HandlerGuard.Proofs.Patch.History
import HandlerGuard.Proofs.Patch.Tiling

namespace HandlerGuard

/-- The text with new text in place of a range; none unless the range runs forward between two
boundaries. -/
def Text.replace? (t : Text) (s : Span) (new : Text) : Option Text := do
  let front ← t.takeBytes? s.start
  let _ ← t.slice? s
  let back ← t.dropBytes? s.stop
  some (front ++ new ++ back)

theorem Text.replace?_middle {left middle right new : Text} {s : Span}
    (hstart : byteLength left = s.start) (hstop : s.start + byteLength middle = s.stop) :
    replace? (left ++ (middle ++ right)) s new = some (left ++ (new ++ right)) := by
  have hfront : takeBytes? (left ++ (middle ++ right)) s.start = some left := by
    rw [← hstart]
    exact takeBytes?_append left (middle ++ right)
  have hmiddle : slice? (left ++ (middle ++ right)) s = some middle :=
    slice?_eq_some_iff.mpr ⟨left, right, rfl, hstart, by omega⟩
  have hback : dropBytes? (left ++ (middle ++ right)) s.stop = some right :=
    dropBytes?_eq_some_iff.mpr ⟨left ++ middle, by simp, by simp; omega⟩
  simp [replace?, hfront, hmiddle, hback]

/-- The text of a piece. Copied text is read from the source. -/
def Piece.text? (source : Text) : Piece → Option Text
  | .inserted t => some t
  | .copied s => source.slice? s

/-- The text that an edit puts in place of its range. -/
def Edit.replacement? (source : Text) (e : Edit) : Option Text :=
  (e.pieces.mapM (Piece.text? source)).map List.flatten

/-- The text in which the edit was carried out. -/
def Edit.perform? (source : Text) (e : Edit) (t : Text) : Option Text := do
  let new ← e.replacement? source
  t.replace? e.span new

namespace Patch

/-- The source in which the edits were carried out, from the last to the first. -/
def spliced? (p : Patch) : Option Text := p.edits.foldrM (Edit.perform? p.source) p.source

theorem mapM_text?_of_fit {source : Text} {outer : Span} {anchor : Nat} {pieces : List Piece}
    (hfit : PiecesFit source outer pieces) :
    pieces.mapM (Piece.text? source) =
      some (pieces.map fun piece => (pieceLayout source anchor piece).flatMap (·.text)) := by
  induction pieces with
  | nil => rfl
  | cons piece pieces ih =>
      have hfirst : piece.text? source =
          some ((pieceLayout source anchor piece).flatMap (·.text)) := by
        cases piece with
        | inserted t => simp [Piece.text?, pieceLayout]
        | copied s =>
            obtain ⟨t, ht⟩ := Text.exists_slice?_of_covers (hfit s (by simp)).1
            simp [Piece.text?, pieceLayout, textAt, ht]
      rw [List.mapM_cons, hfirst, ih hfit.tail]
      rfl

theorem replacement?_of_fit {source : Text} {e : Edit} (hfit : PiecesFit source e.span e.pieces) :
    e.replacement? source =
      some ((e.pieces.flatMap (pieceLayout source e.span.start)).flatMap (·.text)) := by
  rw [Edit.replacement?, mapM_text?_of_fit hfit, Option.map_some, List.flatMap_assoc,
    ← List.flatMap_def]

/-- Edits behind `left` leave it as it is, and what they make of the rest is what the segments from
there on make up. -/
theorem foldrM_perform? {source left tail : Text} {edits : List Edit}
    (hsource : source = left ++ tail) (hfrom : ∀ e ∈ edits, left.byteLength ≤ e.span.start)
    (hordered : edits.Pairwise fun a b => a.span.stop ≤ b.span.start)
    (hcovered : ∀ e ∈ edits, source.covers e.span = true)
    (hfitting : ∀ e ∈ edits, PiecesFit source e.span e.pieces) :
    edits.foldrM (Edit.perform? source) source =
      some (left ++ (layoutFrom source left.byteLength edits).flatMap (·.text)) := by
  induction edits generalizing left tail with
  | nil =>
      rw [layoutFrom, textAt_tail hsource, flatMap_text_segmentOf, ← hsource]
      rfl
  | cons e rest ih =>
      obtain ⟨hnext, hordered⟩ := List.pairwise_cons.mp hordered
      obtain ⟨gap, middle, right, rfl, hgap, hmiddle⟩ :=
        exists_gap_of_covers hsource (hcovered e (by simp)) (hfrom e (by simp))
      have hstart : (left ++ gap).byteLength = e.span.start := by simpa using hgap
      have hstop : (left ++ gap ++ middle).byteLength = e.span.stop := by
        rw [Text.byteLength_append, hstart, hmiddle]
      -- the later edits are done already and have left everything up to the end of this one
      have hlater : rest.foldrM (Edit.perform? source) source =
          some ((left ++ gap) ++ (middle ++
            (layoutFrom source e.span.stop rest).flatMap (·.text))) := by
        have hsplit : source = (left ++ gap ++ middle) ++ right := by simp [hsource]
        rw [ih hsplit (by rw [hstop]; exact hnext) hordered
          (fun f hf => hcovered f (List.mem_cons_of_mem _ hf))
          (fun f hf => hfitting f (List.mem_cons_of_mem _ hf)), hstop, List.append_assoc (left ++ gap)]
      have hreplaced : Edit.perform? source e ((left ++ gap) ++ (middle ++
            (layoutFrom source e.span.stop rest).flatMap (·.text))) =
          some ((left ++ gap) ++
            ((e.pieces.flatMap (pieceLayout source e.span.start)).flatMap (·.text) ++
              (layoutFrom source e.span.stop rest).flatMap (·.text))) := by
        rw [Edit.perform?, replacement?_of_fit (hfitting e (by simp))]
        exact Text.replace?_middle hstart hmiddle
      rw [List.foldrM_cons, hlater, layoutFrom, textAt_gap hsource hgap]
      exact hreplaced.trans (by simp)

theorem WellFormed.spliced?_eq {p : Patch} (h : p.WellFormed) :
    p.spliced? = some ((layoutFrom p.source 0 p.edits).flatMap (·.text)) :=
  foldrM_perform? (List.nil_append p.source).symm (fun _ _ => Nat.zero_le _) h.ordered h.covered
    h.fitting

/-- The patched text is the lead and then the source in which the edits were carried out in place, from
the last to the first. It is made of segments of which none is empty, and what a segment copies from an
offset is what the source has there. -/
theorem reached_render_spliced (source : Text) (requests : List Request) :
    ∃ parts body,
      (reached source requests).segments = .ok parts ∧
      (reached source requests).spliced? = some body ∧
      (reached source requests).render = .ok ((reached source requests).lead ++ body) ∧
      parts.flatMap (·.text) = (reached source requests).lead ++ body ∧
      (∀ s ∈ parts, s.text ≠ []) ∧
      ∀ s ∈ parts, ∀ offset, s.provenance = .copied offset →
        source.slice? ⟨offset, offset + s.text.byteLength⟩ = some s.text := by
  have hwf := wellFormed_reached source requests
  have htext : (reached source requests).layout.flatMap (·.text) =
      (reached source requests).lead ++
        (layoutFrom (reached source requests).source 0 (reached source requests).edits).flatMap
          (·.text) := by
    rw [layout, List.flatMap_append, flatMap_text_segmentOf]
  refine ⟨_, _, hwf.segments_eq, hwf.spliced?_eq, ?_, htext,
    fun s hs => (hwf.fits_of_mem_layout hs).1, ?_⟩
  · rw [hwf.render_eq, htext]
  · rintro ⟨text, provenance⟩ hs offset rfl
    obtain ⟨-, left, right, hsplit, rfl⟩ := hwf.fits_of_mem_layout hs
    rw [source_reached] at hsplit
    rw [hsplit]
    exact Text.slice?_append left text right

example : (reached mixedText mixedRequests).spliced? = some "#!a\ni;\né\n😀d\nc".toList := by
  decide +kernel

end Patch

end HandlerGuard
