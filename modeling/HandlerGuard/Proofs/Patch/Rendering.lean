import HandlerGuard.Patch.Segment
import HandlerGuard.Proofs.Patch.Recording

namespace HandlerGuard

namespace Patch

def segmentOf (text : Text) (provenance : Provenance) : List Segment :=
  if text.isEmpty then [] else [⟨text, provenance⟩]

/-- The text of a range, or nothing where there is none. -/
def textAt (source : Text) (s : Span) : Text := (source.slice? s).getD []

/-- The segment of a piece of an edit that starts at `anchor`. -/
def pieceLayout (source : Text) (anchor : Nat) : Piece → List Segment
  | .inserted t => segmentOf t (.inserted anchor)
  | .copied s => segmentOf (textAt source s) (.copied s.start)

/-- The segments of the source from `cursor` on, with the edits in place. -/
def layoutFrom (source : Text) (cursor : Nat) : List Edit → List Segment
  | [] => segmentOf (textAt source ⟨cursor, source.byteLength⟩) (.copied cursor)
  | edit :: rest =>
      segmentOf (textAt source ⟨cursor, edit.span.start⟩) (.copied cursor) ++
        edit.pieces.flatMap (pieceLayout source edit.span.start) ++
        layoutFrom source edit.span.stop rest

def layout (p : Patch) : List Segment :=
  segmentOf p.lead (.inserted 0) ++ layoutFrom p.source 0 p.edits

@[simp] theorem segmentOf_nil (provenance : Provenance) : segmentOf [] provenance = [] := rfl

@[simp] theorem flatMap_text_segmentOf (t : Text) (provenance : Provenance) :
    (segmentOf t provenance).flatMap (·.text) = t := by
  cases t with
  | nil => rfl
  | cons c t => simp [segmentOf]

theorem textAt_append (left middle right : Text) :
    textAt (left ++ (middle ++ right))
      ⟨left.byteLength, left.byteLength + middle.byteLength⟩ = middle := by
  rw [textAt, Text.slice?_append]
  rfl

theorem copySegment_append {p : Patch} {left middle right : Text}
    (hsource : p.source = left ++ (middle ++ right)) :
    p.copySegment ⟨left.byteLength, left.byteLength + middle.byteLength⟩ =
      .ok (segmentOf middle (.copied left.byteLength)) := by
  cases middle with
  | nil => simp [copySegment]
  | cons c middle =>
      have hpos := c.utf8Size_pos
      rw [copySegment, if_pos (by simp; omega), read, hsource, Text.slice?_append]
      rfl

theorem copySegment_eq_ok {p : Patch} {s : Span}
    (hstart : p.source.isBoundary s.start = true) (hstop : p.source.isBoundary s.stop = true)
    (hle : s.start ≤ s.stop) :
    p.copySegment s = .ok (segmentOf (textAt p.source s) (.copied s.start)) := by
  obtain ⟨left, tail, hleft, hlen⟩ := Text.isBoundary_iff.mp hstart
  obtain ⟨front, right, hfront, hlen'⟩ := Text.isBoundary_iff.mp hstop
  obtain ⟨middle, rfl, rfl⟩ := Text.exists_middle_of_byteLength_le
    (hleft.symm.trans hfront) (by omega)
  rw [Text.byteLength_append] at hlen'
  obtain ⟨start, stop⟩ := s
  simp only at hlen hlen'
  subst hlen hlen'
  rw [copySegment_append hleft, hleft, textAt_append]

theorem pieceSegments_eq_ok {p : Patch} {outer : Span} {anchor : Nat} {pieces : List Piece}
    (hfit : PiecesFit p.source outer pieces) :
    p.pieceSegments anchor pieces = .ok (pieces.flatMap (pieceLayout p.source anchor)) := by
  induction pieces with
  | nil => rfl
  | cons piece pieces ih =>
      have hothers := ih fun inner hmem => hfit inner (List.mem_cons_of_mem _ hmem)
      have hfirst : p.pieceSegment anchor piece = .ok (pieceLayout p.source anchor piece) := by
        cases piece with
        | inserted t => rfl
        | copied s =>
            have hcovers := (hfit s (by simp)).1
            exact copySegment_eq_ok (Text.isBoundary_start_of_covers hcovers)
              (Text.isBoundary_stop_of_covers hcovers)
              (Nat.le_of_lt (Text.start_lt_stop_of_covers hcovers))
      rw [pieceSegments, hfirst, hothers]
      rfl

theorem segmentsFrom_eq_ok {p : Patch} {cursor : Nat} {edits : List Edit}
    (hcursor : p.source.isBoundary cursor = true) (hle : cursor ≤ p.source.byteLength)
    (hfrom : ∀ e ∈ edits, cursor ≤ e.span.start)
    (hordered : edits.Pairwise fun a b => a.span.stop ≤ b.span.start)
    (hcovered : ∀ e ∈ edits, p.source.covers e.span = true)
    (hfitting : ∀ e ∈ edits, PiecesFit p.source e.span e.pieces) :
    p.segmentsFrom cursor edits = .ok (layoutFrom p.source cursor edits) := by
  induction edits generalizing cursor with
  | nil => exact copySegment_eq_ok hcursor (Text.isBoundary_byteLength _) hle
  | cons edit rest ih =>
      have hcovers := hcovered edit (by simp)
      have hgap : p.copySegment ⟨cursor, edit.span.start⟩ =
          .ok (segmentOf (textAt p.source ⟨cursor, edit.span.start⟩) (.copied cursor)) :=
        copySegment_eq_ok hcursor (Text.isBoundary_start_of_covers hcovers) (hfrom edit (by simp))
      have hpieces : p.pieceSegments edit.span.start edit.pieces =
          .ok (edit.pieces.flatMap (pieceLayout p.source edit.span.start)) :=
        pieceSegments_eq_ok (hfitting edit (by simp))
      obtain ⟨hnext, hordered⟩ := List.pairwise_cons.mp hordered
      have hothers := ih (Text.isBoundary_stop_of_covers hcovers) (Text.stop_le_of_covers hcovers)
        hnext hordered (fun e he => hcovered e (List.mem_cons_of_mem _ he))
        (fun e he => hfitting e (List.mem_cons_of_mem _ he))
      rw [segmentsFrom, hgap, hpieces, hothers]
      rfl

theorem WellFormed.segments_eq {p : Patch} (h : p.WellFormed) : p.segments = .ok p.layout := by
  have hbody : p.segmentsFrom 0 p.edits = .ok (layoutFrom p.source 0 p.edits) :=
    segmentsFrom_eq_ok (Text.isBoundary_zero _) (Nat.zero_le _) (fun _ _ => Nat.zero_le _)
      h.ordered h.covered h.fitting
  rw [segments, hbody]
  rfl

theorem WellFormed.render_eq {p : Patch} (h : p.WellFormed) :
    p.render = .ok (p.layout.flatMap (·.text)) := by
  rw [render, h.segments_eq]
  rfl

end Patch

/-- A segment has text. Copied text stands in the source at its offset, and inserted text belongs to a
boundary. -/
def Segment.Fits (source : Text) (s : Segment) : Prop :=
  s.text ≠ [] ∧
    match s.provenance with
    | .copied offset =>
        ∃ left right, source = left ++ (s.text ++ right) ∧ left.byteLength = offset
    | .inserted anchor => source.isBoundary anchor = true

namespace Patch

theorem mem_segmentOf {s : Segment} {t : Text} {provenance : Provenance} :
    s ∈ segmentOf t provenance ↔ t ≠ [] ∧ s = ⟨t, provenance⟩ := by
  cases t with
  | nil => simp
  | cons c t => simp [segmentOf]

theorem fits_of_mem_copied {source : Text} {span : Span} {s : Segment}
    (h : s ∈ segmentOf (textAt source span) (.copied span.start)) : s.Fits source := by
  obtain ⟨hne, rfl⟩ := mem_segmentOf.mp h
  refine ⟨hne, ?_⟩
  cases hslice : source.slice? span with
  | none => simp [textAt, hslice] at hne
  | some t =>
      obtain ⟨left, right, hsplit, hleft, -⟩ := Text.slice?_eq_some_iff.mp hslice
      exact ⟨left, right, by simpa [textAt, hslice] using hsplit, hleft⟩

theorem fits_of_mem_inserted {source t : Text} {anchor : Nat} {s : Segment}
    (hanchor : source.isBoundary anchor = true) (h : s ∈ segmentOf t (.inserted anchor)) :
    s.Fits source := by
  obtain ⟨hne, rfl⟩ := mem_segmentOf.mp h
  exact ⟨hne, hanchor⟩

theorem fits_of_mem_pieceLayout {source : Text} {anchor : Nat} {piece : Piece} {s : Segment}
    (hanchor : source.isBoundary anchor = true) (h : s ∈ pieceLayout source anchor piece) :
    s.Fits source := by
  cases piece with
  | inserted t => exact fits_of_mem_inserted hanchor h
  | copied span => exact fits_of_mem_copied h

theorem fits_of_mem_layoutFrom {source : Text} {cursor : Nat} {edits : List Edit} {s : Segment}
    (hcovered : ∀ e ∈ edits, source.covers e.span = true)
    (h : s ∈ layoutFrom source cursor edits) : s.Fits source := by
  induction edits generalizing cursor with
  | nil => exact fits_of_mem_copied h
  | cons e rest ih =>
      have hanchor := Text.isBoundary_start_of_covers (hcovered e (by simp))
      rw [layoutFrom, List.mem_append, List.mem_append] at h
      rcases h with (hgap | hpiece) | hrest
      · exact fits_of_mem_copied hgap
      · obtain ⟨piece, -, hpiece⟩ := List.mem_flatMap.mp hpiece
        exact fits_of_mem_pieceLayout hanchor hpiece
      · exact ih (fun f hf => hcovered f (List.mem_cons_of_mem _ hf)) hrest

theorem WellFormed.fits_of_mem_layout {p : Patch} (h : p.WellFormed) {s : Segment}
    (hs : s ∈ p.layout) : s.Fits p.source := by
  rcases List.mem_append.mp hs with hlead | hbody
  · exact fits_of_mem_inserted (Text.isBoundary_zero _) hlead
  · exact fits_of_mem_layoutFrom h.covered hbody

end Patch

end HandlerGuard
