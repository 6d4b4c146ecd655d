import HandlerGuard.Proofs.CallSite.Guarding
import HandlerGuard.Proofs.SourceMap.Mapping

namespace HandlerGuard

namespace Patch

/-- What can be asked of a patch. -/
inductive Request where
  | overwrite (span : Span) (text : Text)
  | overwriteWith (span : Span) (pieces : List Piece)
  | prepend (text : Text)
  | guardHandlers (target : Target) (sites : List CallSite)
  | injectImport (statement : Text)
deriving DecidableEq, Repr

/-- The patch that was asked for, or the old one if that was refused. -/
def orKeep (p : Patch) : Except EditError Patch → Patch
  | .ok q => q
  | .error _ => p

/-- The patch after a request. Guarding keeps the edits made before the handler that is refused. -/
def serve (p : Patch) : Request → Patch
  | .overwrite span text => p.orKeep (p.overwrite span text)
  | .overwriteWith span pieces => p.orKeep (p.overwriteWith span pieces)
  | .prepend text => p.prepend text
  | .guardHandlers target sites => (p.guardHandlers target sites).1
  | .injectImport statement => p.orKeep (p.injectImport statement)

/-- The patch after some requests, from the first to the last. -/
def serveAll (p : Patch) (requests : List Request) : Patch := requests.foldl serve p

/-- The patch that some requests lead to from a text without edits. -/
def reached (source : Text) (requests : List Request) : Patch := (ofText source).serveAll requests

theorem injectImport_eq (p : Patch) (statement : Text) :
    p.injectImport statement = .ok (p.prepend statement) ∨
      ∃ span pieces, p.injectImport statement = p.overwriteWith span pieces := by
  unfold injectImport
  split
  · exact Or.inr ⟨_, _, rfl⟩
  · exact Or.inl rfl

/-- A request changes a patch by recording edits and by putting text in front, one after the other. -/
inductive Grows : Patch → Patch → Prop where
  | refl (p : Patch) : Grows p p
  | record {p q r : Patch} (span : Span) (pieces : List Piece)
      (hq : p.overwriteWith span pieces = .ok q) (hr : Grows q r) : Grows p r
  | prepend {p r : Patch} (text : Text) (hr : Grows (p.prepend text) r) : Grows p r

theorem Grows.trans {p q r : Patch} (h : Grows p q) (h' : Grows q r) : Grows p r := by
  induction h with
  | refl p => exact h'
  | record span pieces hq _ ih => exact .record span pieces hq (ih h')
  | prepend text _ ih => exact .prepend text (ih h')

theorem grows_orKeep_overwriteWith (p : Patch) (span : Span) (pieces : List Piece) :
    Grows p (p.orKeep (p.overwriteWith span pieces)) := by
  cases hresult : p.overwriteWith span pieces with
  | error e => exact .refl p
  | ok q => exact .record span pieces hresult (.refl q)

theorem grows_guardHandlers (p : Patch) (target : Target) (sites : List CallSite) :
    Grows p (p.guardHandlers target sites).1 := by
  induction sites generalizing p with
  | nil => exact .refl p
  | cons site sites ih =>
      rcases guardHandlers_cons p target site sites with
        ⟨-, heq⟩ | ⟨handler, -, -, ⟨next, hnext, heq⟩ | ⟨e, -, heq⟩⟩
      · rw [heq]
        exact ih p
      · rw [heq]
        exact .record _ _ (guardHandler_eq_ok_iff.mp hnext).2 (ih next)
      · rw [heq]
        exact .refl p

theorem grows_serve (p : Patch) (request : Request) : Grows p (p.serve request) := by
  cases request with
  | overwrite span text => exact grows_orKeep_overwriteWith p span [.inserted text]
  | overwriteWith span pieces => exact grows_orKeep_overwriteWith p span pieces
  | prepend text => exact .prepend text (.refl _)
  | guardHandlers target sites => exact grows_guardHandlers p target sites
  | injectImport statement =>
      rcases injectImport_eq p statement with heq | ⟨span, pieces, heq⟩
      · rw [serve, heq]
        exact .prepend statement (.refl _)
      · rw [serve, heq]
        exact grows_orKeep_overwriteWith p span pieces

theorem grows_serveAll (p : Patch) (requests : List Request) : Grows p (p.serveAll requests) := by
  induction requests generalizing p with
  | nil => exact .refl p
  | cons request rest ih => exact (grows_serve p request).trans (ih (p.serve request))

theorem Grows.source_eq {p q : Patch} (h : Grows p q) : q.source = p.source := by
  induction h with
  | refl p => rfl
  | record span pieces hq _ ih => exact ih.trans (source_overwriteWith hq)
  | prepend text _ ih => exact ih

theorem Grows.wellFormed {p q : Patch} (h : Grows p q) (hp : p.WellFormed) : q.WellFormed := by
  induction h with
  | refl p => exact hp
  | record span pieces hq _ ih => exact ih (hp.overwriteWith hq)
  | prepend text _ ih => exact ih (wellFormed_prepend hp text)

theorem source_reached (source : Text) (requests : List Request) :
    (reached source requests).source = source :=
  (grows_serveAll _ requests).source_eq

theorem wellFormed_reached (source : Text) (requests : List Request) :
    (reached source requests).WellFormed :=
  (grows_serveAll _ requests).wellFormed (wellFormed_ofText source)

/-- Whatever was asked of a patch and whatever was refused: its edits stand in order and do not
overlap, their ranges and the ranges they copy from have text, lie in the source and do not cut
characters, what an edit copies lies in its own range, and segments, text and mappings can be made. -/
theorem reached_patch_sound (source : Text) (requests : List Request) :
    (reached source requests).source = source ∧
      (reached source requests).edits.Pairwise (fun a b =>
        a.span.start < b.span.start ∧ a.span.stop ≤ b.span.start) ∧
      (∀ e ∈ (reached source requests).edits,
        (e.span.start < e.span.stop ∧ e.span.stop ≤ source.byteLength ∧
          source.isBoundary e.span.start = true ∧ source.isBoundary e.span.stop = true) ∧
        ∀ inner, Piece.copied inner ∈ e.pieces →
          inner.start < inner.stop ∧ e.span.start ≤ inner.start ∧ inner.stop ≤ e.span.stop ∧
            source.isBoundary inner.start = true ∧ source.isBoundary inner.stop = true) ∧
      (∃ parts, (reached source requests).segments = .ok parts) ∧
      (∃ text, (reached source requests).render = .ok text) ∧
      ∀ hires, ∃ maps, (reached source requests).mappings hires = .ok maps := by
  have hwf := wellFormed_reached source requests
  have hsource := source_reached source requests
  refine ⟨hsource, ?_, ?_, ⟨_, hwf.segments_eq⟩, ⟨_, hwf.render_eq⟩, ?_⟩
  · refine (List.Pairwise.and_mem.mp hwf.ordered).imp ?_
    rintro a b ⟨ha, -, hle⟩
    have hpos := hwf.start_lt_stop ha
    exact ⟨by omega, hle⟩
  · intro e he
    have hcovers := hwf.covered e he
    rw [hsource] at hcovers
    refine ⟨⟨Text.start_lt_stop_of_covers hcovers, Text.stop_le_of_covers hcovers,
      Text.isBoundary_start_of_covers hcovers, Text.isBoundary_stop_of_covers hcovers⟩, ?_⟩
    intro inner hinner
    obtain ⟨hcovers, hwithin⟩ := hwf.fitting e he inner hinner
    rw [hsource] at hcovers
    obtain ⟨hstart, hstop⟩ := Span.within_iff.mp hwithin
    exact ⟨Text.start_lt_stop_of_covers hcovers, hstart, hstop,
      Text.isBoundary_start_of_covers hcovers, Text.isBoundary_stop_of_covers hcovers⟩
  · intro hires
    obtain ⟨maps, hmaps, -⟩ := hwf.exists_mappings hires
    exact ⟨maps, hmaps⟩

/-- A text with a first line for the shell and a character of four bytes. -/
def mixedText : Text := "#!a\nb😀d\nc".toList

/-- Requests of which the second cuts a character and the third overlaps the first. -/
def mixedRequests : List Request :=
  [.overwriteWith ⟨4, 9⟩ [.inserted "é\n".toList, .copied ⟨5, 9⟩], .overwrite ⟨6, 7⟩ "x".toList,
    .overwrite ⟨5, 10⟩ "x".toList, .injectImport "i;\n".toList, .prepend "//\n".toList]

theorem mixedText_sound :
    (reached mixedText mixedRequests).edits.length = 2 ∧
      (∃ e ∈ (reached mixedText mixedRequests).edits, ∃ inner, Piece.copied inner ∈ e.pieces ∧
        inner = ⟨5, 9⟩ ∧ e.span.start ≤ inner.start ∧ inner.stop ≤ e.span.stop ∧
          mixedText.isBoundary inner.start = true ∧ mixedText.isBoundary inner.stop = true) ∧
      ∃ maps, (reached mixedText mixedRequests).mappings true = .ok maps := by
  have hedits : (reached mixedText mixedRequests).edits =
      [⟨⟨0, 4⟩, [.copied ⟨0, 4⟩, .inserted "i;\n".toList]⟩,
        ⟨⟨4, 9⟩, [.inserted "é\n".toList, .copied ⟨5, 9⟩]⟩] := by
    decide +kernel
  obtain ⟨-, -, hsound, -, -, hmappings⟩ := reached_patch_sound mixedText mixedRequests
  rw [hedits] at hsound ⊢
  obtain ⟨-, hpieces⟩ := hsound _ (List.mem_of_getElem? (i := 1) rfl)
  obtain ⟨-, hinner⟩ := hpieces ⟨5, 9⟩ (by simp)
  exact ⟨rfl, ⟨_, List.mem_of_getElem? (i := 1) rfl, ⟨5, 9⟩, by simp, rfl, hinner⟩, hmappings true⟩

/-- At full resolution there is one mapping for each copied character but line feeds and one for the
first character of each inserted segment, and no other, in the order of the characters. It leads from
the position reached by walking over the patched text before the character to the position that is
looked up in the source: that of the place where the copied character stands, or of the place where
the segment was inserted. -/
theorem reached_mappings_exact (source : Text) (requests : List Request) :
    ∃ parts text maps,
      (reached source requests).segments = .ok parts ∧
      (reached source requests).render = .ok text ∧
      (reached source requests).mappings true = .ok maps ∧
      (∀ s ∈ parts, s.text ≠ []) ∧
      (parts.flatMap Glyph.ofSegment).map Glyph.char = text ∧
      (∀ g ∈ parts.flatMap Glyph.ofSegment, ∀ offset, g.provenance = .copied offset →
        ∃ before after, source = before ++ g.char :: after ∧ before.byteLength = offset) ∧
      maps.map Mapping.ends =
        ((parts.flatMap Glyph.ofSegment).zipIdx.filter fun g => g.1.isMapped true).map fun g =>
          (Position.origin.advanceOver (text.take g.2),
            (LineIndex.ofText source).position? g.1.provenance.offset) := by
  have hwf := wellFormed_reached source requests
  have hsource := source_reached source requests
  obtain ⟨maps, hmaps, hends⟩ := hwf.exists_mappings true
  have hfits : ∀ s ∈ (reached source requests).layout, s.Fits source := by
    intro s hs
    rw [← hsource]
    exact hwf.fits_of_mem_layout hs
  refine ⟨(reached source requests).layout, _, maps, hwf.segments_eq, hwf.render_eq, hmaps,
    fun s hs => (hfits s hs).1, Glyph.map_char_flatMap_ofSegment _, ?_, ?_⟩
  · intro g hg offset hcopied
    obtain ⟨s, hs, hg⟩ := List.mem_flatMap.mp hg
    exact (hfits s hs).exists_split hg hcopied
  · rw [hends, ends_glyphs, hsource]

theorem mixedText_mappings : ∃ maps,
    (reached mixedText mixedRequests).mappings true = .ok maps ∧
      maps.map Mapping.ends =
        [(⟨0, 0⟩, some ⟨0, 0⟩), (⟨1, 0⟩, some ⟨0, 0⟩), (⟨1, 1⟩, some ⟨0, 1⟩),
          (⟨1, 2⟩, some ⟨0, 2⟩), (⟨2, 0⟩, some ⟨0, 0⟩), (⟨3, 0⟩, some ⟨1, 0⟩),
          (⟨4, 0⟩, some ⟨1, 1⟩), (⟨4, 2⟩, some ⟨1, 3⟩), (⟨5, 0⟩, some ⟨2, 0⟩)] := by
  obtain ⟨parts, text, maps, hparts, htext, hmaps, -, -, -, hends⟩ :=
    reached_mappings_exact mixedText mixedRequests
  have hlaid : (reached mixedText mixedRequests).segments =
      .ok [⟨"//\n".toList, .inserted 0⟩, ⟨"#!a\n".toList, .copied 0⟩,
        ⟨"i;\n".toList, .inserted 0⟩, ⟨"é\n".toList, .inserted 4⟩, ⟨['😀'], .copied 5⟩,
        ⟨"d\nc".toList, .copied 9⟩] := by
    decide +kernel
  have hrendered : (reached mixedText mixedRequests).render =
      .ok "//\n#!a\ni;\né\n😀d\nc".toList := by
    decide +kernel
  obtain rfl := Except.ok.inj (hparts.symm.trans hlaid)
  obtain rfl := Except.ok.inj (htext.symm.trans hrendered)
  refine ⟨maps, hmaps, hends.trans ?_⟩
  decide +kernel

end Patch

end HandlerGuard
