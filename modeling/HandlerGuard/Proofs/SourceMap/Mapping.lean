import HandlerGuard.Proofs.Patch.Rendering
import HandlerGuard.Proofs.Position
import HandlerGuard.SourceMap.Mapping

namespace HandlerGuard

def Provenance.offset : Provenance → Nat
  | copied offset => offset
  | inserted anchor => anchor

/-- The provenance of the character after one of this provenance. -/
def Provenance.past (c : Char) : Provenance → Provenance
  | copied offset => copied (offset + c.utf8Size)
  | inserted anchor => inserted anchor

/-- A character of the patched text. -/
structure Glyph where
  char : Char
  /-- The offset it was copied from, or the one at which its segment was inserted. -/
  provenance : Provenance
  /-- It is the first of its segment. -/
  first : Bool
  /-- No character of its segment precedes it on its line. -/
  fresh : Bool
deriving DecidableEq, Repr

namespace Glyph

/-- Whether the character has a mapping. Of copied text those characters have one that are no line
feeds, all of them or only the fresh ones, and of inserted text the first has one. -/
def isMapped (hires : Bool) (g : Glyph) : Bool :=
  match g.provenance with
  | .copied _ => decide (g.char ≠ '\n') && (hires || g.fresh)
  | .inserted _ => g.first

/-- The characters of a text whose first character has the given provenance. -/
def ofText (first fresh : Bool) (provenance : Provenance) : Text → List Glyph
  | [] => []
  | c :: rest =>
      ⟨c, provenance, first, fresh⟩ ::
        ofText false (decide (c = '\n')) (provenance.past c) rest

def ofSegment (s : Segment) : List Glyph := ofText true true s.provenance s.text

/-- Characters with their positions, the first of which is given. -/
def walk (start : Position) : List Glyph → List (Position × Glyph)
  | [] => []
  | g :: rest => (start, g) :: walk (start.advance g.char) rest

/-- The two ends of the mappings of characters that stand at the given position. -/
def ends (hires : Bool) (source : Text) (start : Position) (glyphs : List Glyph) :
    List (Position × Option Position) :=
  ((walk start glyphs).filter fun g => g.2.isMapped hires).map fun g =>
    (g.1, (LineIndex.ofText source).position? g.2.provenance.offset)

theorem map_char_ofText (first fresh : Bool) (provenance : Provenance) (t : Text) :
    (ofText first fresh provenance t).map char = t := by
  induction t generalizing first fresh provenance with
  | nil => rfl
  | cons c t ih => simp [ofText, ih]

theorem map_char_flatMap_ofSegment (parts : List Segment) :
    (parts.flatMap ofSegment).map char = parts.flatMap (·.text) := by
  rw [List.map_flatMap]
  simp only [ofSegment, map_char_ofText]

theorem walk_append (start : Position) (a b : List Glyph) :
    walk start (a ++ b) = walk start a ++ walk (start.advanceOver (a.map char)) b := by
  induction a generalizing start with
  | nil => rfl
  | cons g a ih => simp [walk, ih]

theorem walk_eq (start : Position) (glyphs : List Glyph) :
    walk start glyphs = glyphs.zipIdx.map fun g =>
      (start.advanceOver ((glyphs.map char).take g.2), g.1) := by
  induction glyphs generalizing start with
  | nil => rfl
  | cons g rest ih =>
      rw [walk, ih, List.zipIdx_cons', List.map_cons, List.map_map]
      rfl

theorem exists_split_of_mem_walk {start : Position} {glyphs : List Glyph} {x : Position × Glyph}
    (hx : x ∈ walk start glyphs) :
    ∃ before after, glyphs.map char = before ++ after ∧ x.1 = start.advanceOver before := by
  rw [walk_eq] at hx
  obtain ⟨g, -, rfl⟩ := List.mem_map.mp hx
  exact ⟨_, _, (List.take_append_drop g.2 (glyphs.map char)).symm, rfl⟩

theorem ends_append (hires : Bool) (source : Text) (start : Position) (a b : List Glyph) :
    ends hires source start (a ++ b) =
      ends hires source start a ++ ends hires source (start.advanceOver (a.map char)) b := by
  simp [ends, walk_append]

theorem ends_cons (hires : Bool) (source : Text) (start : Position) (g : Glyph)
    (rest : List Glyph) :
    ends hires source start (g :: rest) =
      (if g.isMapped hires then
        [(start, (LineIndex.ofText source).position? g.provenance.offset)]
      else []) ++ ends hires source (start.advance g.char) rest := by
  cases h : g.isMapped hires <;> simp [ends, walk, h]

theorem ends_inserted (hires : Bool) (source : Text) (start : Position) (fresh : Bool)
    (anchor : Nat) (t : Text) :
    ends hires source start (ofText false fresh (.inserted anchor) t) = [] := by
  induction t generalizing start fresh with
  | nil => rfl
  | cons c t ih =>
      rw [ofText, ends_cons, Provenance.past, ih]
      rfl

theorem exists_split_of_mem_ofText {source left t right : Text} {first fresh : Bool} {g : Glyph}
    (hsource : source = left ++ (t ++ right))
    (hg : g ∈ ofText first fresh (.copied left.byteLength) t) :
    ∃ before after, source = before ++ g.char :: after ∧
      g.provenance = .copied before.byteLength := by
  induction t generalizing left first fresh with
  | nil => simp [ofText] at hg
  | cons c t ih =>
      rcases List.mem_cons.mp hg with rfl | hg
      · exact ⟨left, t ++ right, hsource, rfl⟩
      · have hnext : source = (left ++ [c]) ++ (t ++ right) := by simp [hsource]
        exact ih hnext (by simpa [Provenance.past] using hg)

theorem provenance_of_mem_inserted {first fresh : Bool} {anchor : Nat} {t : Text} {g : Glyph}
    (hg : g ∈ ofText first fresh (.inserted anchor) t) : g.provenance = .inserted anchor := by
  induction t generalizing first fresh with
  | nil => simp [ofText] at hg
  | cons c t ih =>
      rcases List.mem_cons.mp hg with rfl | hg
      · rfl
      · exact ih hg

end Glyph

theorem Segment.Fits.exists_split {source : Text} {s : Segment} (h : s.Fits source) {g : Glyph}
    (hg : g ∈ Glyph.ofSegment s) {offset : Nat} (hcopied : g.provenance = .copied offset) :
    ∃ before after, source = before ++ g.char :: after ∧ before.byteLength = offset := by
  obtain ⟨text, provenance⟩ := s
  cases provenance with
  | copied start =>
      obtain ⟨-, left, right, hsource, rfl⟩ := h
      obtain ⟨before, after, hsplit, hbefore⟩ := Glyph.exists_split_of_mem_ofText hsource hg
      exact ⟨before, after, hsplit, Provenance.copied.inj (hbefore.symm.trans hcopied)⟩
  | inserted anchor =>
      rw [Glyph.provenance_of_mem_inserted hg] at hcopied
      simp at hcopied

namespace Mapping

def ends (m : Mapping) : Position × Option Position := (m.generated, some m.source)

theorem map_ends_ofCopied {hires fresh first : Bool} {source left t right : Text}
    (hsource : source = left ++ (t ++ right)) (generated : Position) :
    (ofCopied hires generated (Position.origin.advanceOver left) fresh t).map ends =
      Glyph.ends hires source generated
        (Glyph.ofText first fresh (.copied left.byteLength) t) := by
  induction t generalizing left generated fresh first with
  | nil => rfl
  | cons c t ih =>
      have hhere : (LineIndex.ofText source).position? left.byteLength =
          some (Position.origin.advanceOver left) := by
        rw [hsource]
        exact LineIndex.position?_append left (c :: t ++ right)
      have hnext : (Position.origin.advanceOver left).advance c =
          Position.origin.advanceOver (left ++ [c]) := by simp
      have hoffset : left.byteLength + c.utf8Size = (left ++ [c]).byteLength := by simp
      have hsplit : source = (left ++ [c]) ++ (t ++ right) := by simp [hsource]
      have hothers :
          (ofCopied hires (generated.advance c) (Position.origin.advanceOver (left ++ [c]))
            (decide (c = '\n')) t).map ends =
          Glyph.ends hires source (generated.advance c)
            (Glyph.ofText false (decide (c = '\n')) (.copied (left ++ [c]).byteLength) t) :=
        ih hsplit (generated.advance c)
      rw [Glyph.ofText, Glyph.ends_cons, Provenance.past, hoffset, ← hothers]
      simp only [ofCopied, Glyph.isMapped, Provenance.offset, hhere, hnext]
      by_cases hmapped : c ≠ '\n' ∧ (hires = true ∨ fresh = true)
      · have hmapped' : (decide (c ≠ '\n') && (hires || fresh)) = true := by simpa using hmapped
        rw [if_pos hmapped, hmapped', List.map_cons]
        rfl
      · have hmapped' : (decide (c ≠ '\n') && (hires || fresh)) = false := by
          simpa using hmapped
        rw [if_neg hmapped, hmapped']
        rfl

theorem exists_ofSegment {source : Text} {s : Segment} (h : s.Fits source) (hires : Bool)
    (generated : Position) :
    ∃ maps, ofSegment hires (LineIndex.ofText source) generated s = .ok maps ∧
      maps.map ends = Glyph.ends hires source generated (Glyph.ofSegment s) := by
  obtain ⟨text, provenance⟩ := s
  cases provenance with
  | copied offset =>
      obtain ⟨-, left, right, hsource, rfl⟩ := h
      have hposition : (LineIndex.ofText source).position? left.byteLength =
          some (Position.origin.advanceOver left) := by
        rw [hsource]
        exact LineIndex.position?_append left (text ++ right)
      refine ⟨ofCopied hires generated (Position.origin.advanceOver left) true text, ?_, ?_⟩
      · simp only [ofSegment, hposition]
      · exact map_ends_ofCopied hsource generated
  | inserted anchor =>
      obtain ⟨hne, hanchor⟩ := h
      obtain ⟨left, right, hsource, hleft⟩ := Text.isBoundary_iff.mp hanchor
      have hposition := LineIndex.position?_eq_some_iff.mpr ⟨left, right, hsource, hleft, rfl⟩
      refine ⟨[⟨generated, Position.origin.advanceOver left⟩], ?_, ?_⟩
      · simp only [ofSegment, hposition]
      · obtain ⟨c, rest, rfl⟩ := List.exists_cons_of_ne_nil hne
        rw [Glyph.ofSegment, Glyph.ofText, Glyph.ends_cons, Provenance.past, Glyph.ends_inserted]
        simp only [Glyph.isMapped, Provenance.offset, hposition, if_true]
        rfl

theorem exists_ofSegments {source : Text} {parts : List Segment}
    (h : ∀ s ∈ parts, s.Fits source) (hires : Bool) (generated : Position) :
    ∃ maps, ofSegments hires (LineIndex.ofText source) generated parts = .ok maps ∧
      maps.map ends = Glyph.ends hires source generated (parts.flatMap Glyph.ofSegment) := by
  induction parts generalizing generated with
  | nil => exact ⟨[], rfl, rfl⟩
  | cons s rest ih =>
      obtain ⟨first, hfirst, hfirstEnds⟩ := exists_ofSegment (h s (by simp)) hires generated
      obtain ⟨others, hothers, hothersEnds⟩ :=
        ih (fun r hr => h r (List.mem_cons_of_mem _ hr)) (generated.advanceOver s.text)
      refine ⟨first ++ others, ?_, ?_⟩
      · rw [ofSegments, hfirst, hothers]
        rfl
      · rw [List.map_append, hfirstEnds, hothersEnds, List.flatMap_cons, Glyph.ends_append,
          Glyph.ofSegment, Glyph.map_char_ofText]

end Mapping

namespace Patch

/-- The characters of the patched text. -/
def glyphs (p : Patch) : List Glyph := p.layout.flatMap Glyph.ofSegment

/-- A mapped character has one mapping, from the position reached by walking over the patched text
before it to the position looked up in the source. -/
theorem ends_glyphs (p : Patch) (hires : Bool) :
    Glyph.ends hires p.source Position.origin p.glyphs =
      ((p.layout.flatMap Glyph.ofSegment).zipIdx.filter fun g => g.1.isMapped hires).map fun g =>
        (Position.origin.advanceOver ((p.layout.flatMap (·.text)).take g.2),
          (LineIndex.ofText p.source).position? g.1.provenance.offset) := by
  rw [Glyph.ends, Glyph.walk_eq, List.filter_map, List.map_map, glyphs,
    Glyph.map_char_flatMap_ofSegment]
  rfl

/-- The mappings of a well-formed patch lead from where the mapped characters stand in the patched text
to where they come from. -/
theorem WellFormed.exists_mappings {p : Patch} (h : p.WellFormed) (hires : Bool) :
    ∃ maps, p.mappings hires = .ok maps ∧
      maps.map Mapping.ends = Glyph.ends hires p.source Position.origin p.glyphs := by
  obtain ⟨maps, hmaps, hends⟩ :=
    Mapping.exists_ofSegments (fun s hs => h.fits_of_mem_layout hs) hires Position.origin
  refine ⟨maps, ?_, hends⟩
  rw [mappings, h.segments_eq]
  exact hmaps

end Patch

end HandlerGuard
