import HandlerGuard.Proofs.SourceMap.Resolution

namespace HandlerGuard

namespace Position

theorem line_le_advanceOver (p : Position) (t : Text) : p.line ≤ (p.advanceOver t).line := by
  induction t generalizing p with
  | nil => exact Nat.le_refl _
  | cons c t ih => exact Nat.le_trans (p.precedes_advance c).line_le (ih (p.advance c))

theorem line_lt_advanceOver (p : Position) {t : Text} (h : '\n' ∈ t) :
    p.line < (p.advanceOver t).line := by
  obtain ⟨front, back, rfl⟩ := List.append_of_mem h
  rw [advanceOver_append, advanceOver_cons]
  calc
    p.line ≤ (p.advanceOver front).line := p.line_le_advanceOver front
    _ < ((p.advanceOver front).advance '\n').line := Nat.lt_succ_self _
    _ ≤ (((p.advanceOver front).advance '\n').advanceOver back).line := line_le_advanceOver _ back

end Position

namespace Glyph

theorem map_snd_walk (start : Position) (glyphs : List Glyph) :
    (walk start glyphs).map Prod.snd = glyphs := by
  induction glyphs generalizing start with
  | nil => rfl
  | cons g rest ih => rw [walk, List.map_cons, ih]

theorem first_of_mem_ofText {fresh : Bool} {provenance : Provenance} {t : Text} {g : Glyph}
    (hg : g ∈ ofText false fresh provenance t) : g.first = false := by
  induction t generalizing fresh provenance with
  | nil => simp [ofText] at hg
  | cons c t ih =>
      rcases List.mem_cons.mp hg with rfl | hg
      · rfl
      · exact ih hg

theorem exists_ofSegment_inserted {s : Segment} {anchor : Nat} (hs : s.provenance = .inserted anchor)
    (hne : s.text ≠ []) (hires : Bool) :
    ∃ g tail, ofSegment s = g :: tail ∧ g.provenance = .inserted anchor ∧
      g.isMapped hires = true ∧ ∀ x ∈ tail, x.isMapped hires = false := by
  obtain ⟨c, t, htext⟩ := List.exists_cons_of_ne_nil hne
  have hglyphs : ofSegment s = ⟨c, .inserted anchor, true, true⟩ ::
      ofText false (decide (c = '\n')) (.inserted anchor) t := by
    rw [ofSegment, htext, hs]
    rfl
  refine ⟨_, _, hglyphs, rfl, rfl, ?_⟩
  intro x hx
  have hfirst := first_of_mem_ofText hx
  have hprovenance : x.provenance = .inserted anchor := provenance_of_mem_inserted hx
  simp [isMapped, hprovenance, hfirst]

section Tail

variable {hires : Bool} {start p : Position} {before tail : List Glyph} {g : Glyph}
  (htail : ∀ x ∈ tail, x.isMapped hires = false)

include htail

theorem filter_walk_tail (q : Position) :
    ((walk q tail).filter fun x => x.2.isMapped hires && Mapping.leadsTo p x.1) = [] := by
  apply List.filter_eq_nil_iff.mpr
  intro x hx
  have hmem : x.2 ∈ tail := by
    rw [← map_snd_walk q tail]
    exact List.mem_map_of_mem hx
  simp [htail x.2 hmem]

theorem last?_of_leadsTo (hmapped : g.isMapped hires = true)
    (hleads : Mapping.leadsTo p (start.advanceOver (before.map char)) = true) :
    last? hires start (before ++ g :: tail) p =
      some (start.advanceOver (before.map char), g) := by
  rw [last?, walk_append, walk, List.filter_append, List.filter_cons, filter_walk_tail htail]
  simp [hmapped, hleads]

theorem last?_of_line_lt (hline : (start.advanceOver (before.map char)).line < p.line) :
    last? hires start (before ++ g :: tail) p = none := by
  have hleads : ∀ q : Position, q.line < p.line → Mapping.leadsTo p q = false := by
    intro q hq
    simp only [Mapping.leadsTo, decide_eq_false_iff_not]
    omega
  have hbefore : ((walk start before).filter fun x =>
      x.2.isMapped hires && Mapping.leadsTo p x.1) = [] := by
    apply List.filter_eq_nil_iff.mpr
    intro x hx
    have hle := (precedes_of_mem_walk hx).line_le
    simp [hleads x.1 (by omega)]
  rw [last?, walk_append, walk, List.filter_append, List.filter_cons, filter_walk_tail htail, hbefore]
  simp [hleads _ hline]

end Tail

/-- A position in an inserted segment leads to the start of the segment, unless a line feed of the
segment stands in between. -/
theorem exists_last?_inserted (hires : Bool) (start : Position) (before after : List Segment)
    {s : Segment} {anchor : Nat} {front back : Text} {c : Char}
    (hs : s.provenance = .inserted anchor) (htext : s.text = front ++ c :: back) :
    ∃ g : Glyph, g.provenance = .inserted anchor ∧
      last? hires start ((before ++ s :: after).flatMap ofSegment)
          (start.advanceOver (before.flatMap (·.text) ++ front)) =
        if '\n' ∈ front then none else some (start.advanceOver (before.flatMap (·.text)), g) := by
  have hne : s.text ≠ [] := by simp [htext]
  obtain ⟨g, tail, hglyphs, hprovenance, hmapped, htail⟩ := exists_ofSegment_inserted hs hne hires
  have hchars : (before.flatMap ofSegment).map char = before.flatMap (·.text) :=
    map_char_flatMap_ofSegment before
  have hsegment : (g :: tail).map char = front ++ c :: back := by
    rw [← hglyphs, ofSegment, map_char_ofText, htext]
  refine ⟨g, hprovenance, ?_⟩
  rw [List.flatMap_append, List.flatMap_cons, hglyphs, ← List.append_assoc,
    last?_append_of_precedes, Position.advanceOver_append]
  · split
    · rename_i hfeed
      apply last?_of_line_lt htail
      rw [hchars]
      exact Position.line_lt_advanceOver _ hfeed
    · rename_i hfeed
      rw [← hchars]
      apply last?_of_leadsTo htail hmapped
      rw [Position.advanceOver_of_not_mem _ hfeed]
      simp [Mapping.leadsTo]
  · -- the segment goes on with the character, so what comes after the segment stands behind it
    rw [List.map_append, hchars, hsegment]
    simp only [Position.advanceOver_append]
    exact Position.precedes_advanceOver_cons _ c back

end Glyph

namespace Mapping

theorem last?_eq_none {hires : Bool} {source : Text} {start : Position} {glyphs : List Glyph}
    {maps : List Mapping} (hends : maps.map ends = Glyph.ends hires source start glyphs)
    {p : Position} (hlast : Glyph.last? hires start glyphs p = none) : last? maps p = none := by
  have hmap := map_ends_last? hends p
  rw [hlast] at hmap
  exact Option.map_eq_none_iff.mp hmap

section Ends

variable {hires : Bool} {source : Text} {start : Position} {glyphs : List Glyph} {maps : List Mapping}
  {m : Mapping}

theorem exists_mem_walk_of_ends (hends : maps.map ends = Glyph.ends hires source start glyphs)
    (hm : m ∈ maps) :
    ∃ x ∈ Glyph.walk start glyphs, x.1 = m.generated ∧
      (LineIndex.ofText source).position? x.2.provenance.offset = some m.source := by
  have hmem : m.ends ∈ Glyph.ends hires source start glyphs := by
    rw [← hends]
    exact List.mem_map_of_mem hm
  obtain ⟨x, hx, heq⟩ := List.mem_map.mp hmem
  exact ⟨x, (List.mem_filter.mp hx).1, congrArg Prod.fst heq, congrArg Prod.snd heq⟩

theorem exists_boundary_of_ends (hends : maps.map ends = Glyph.ends hires source start glyphs)
    (hm : m ∈ maps) :
    ∃ offset, source.isBoundary offset = true ∧
      (LineIndex.ofText source).position? offset = some m.source := by
  obtain ⟨x, -, -, hposition⟩ := exists_mem_walk_of_ends hends hm
  obtain ⟨left, right, hsource, hleft, -⟩ := LineIndex.position?_eq_some_iff.mp hposition
  exact ⟨_, Text.isBoundary_iff.mpr ⟨left, right, hsource, hleft⟩, hposition⟩

theorem fitsWord_of_ends
    (hends : maps.map ends = Glyph.ends hires source Position.origin glyphs) (hm : m ∈ maps) :
    (Text.byteLength (glyphs.map Glyph.char) < 4294967296 → m.generated.FitsWord) ∧
      (source.byteLength < 4294967296 → m.source.FitsWord) := by
  obtain ⟨x, hx, hgenerated, hposition⟩ := exists_mem_walk_of_ends hends hm
  constructor
  · intro hsize
    obtain ⟨before, after, hchars, hwalk⟩ := Glyph.exists_split_of_mem_walk hx
    rw [hchars] at hsize
    rw [← hgenerated, hwalk]
    exact Position.fitsWord_advanceOver hsize
  · intro hsize
    obtain ⟨left, right, rfl, -, heq⟩ := LineIndex.position?_eq_some_iff.mp hposition
    rw [heq]
    exact Position.fitsWord_advanceOver hsize

end Ends

end Mapping

namespace Patch

/-- Sparse or full, the mappings of a patch stand in the order of the patched text: line by line and by
increasing column, so that no two stand at one position and no line comes before an earlier one. Each
leads to a boundary between characters of the source. In texts of fewer than `2 ^ 32` bytes all lines and
columns are numbers of 32 bits. -/
theorem reached_mappings_ordered (source : Text) (requests : List Request) (hires : Bool) :
    ∃ text maps, (reached source requests).render = .ok text ∧
      (reached source requests).mappings hires = .ok maps ∧
      maps.Pairwise (fun a b => a.generated.line < b.generated.line ∨
        a.generated.line = b.generated.line ∧ a.generated.column < b.generated.column) ∧
      (maps.map Mapping.generated).Nodup ∧
      maps.Pairwise (fun a b => a.generated.line ≤ b.generated.line) ∧
      (∀ m ∈ maps, ∃ offset, source.isBoundary offset = true ∧
        (LineIndex.ofText source).position? offset = some m.source) ∧
      ∀ m ∈ maps, (text.byteLength < 4294967296 → m.generated.FitsWord) ∧
        (source.byteLength < 4294967296 → m.source.FitsWord) := by
  have hwf := wellFormed_reached source requests
  obtain ⟨maps, hmaps, hends⟩ := hwf.exists_mappings hires
  rw [source_reached] at hends
  have horder := Mapping.pairwise_of_ends hends
  refine ⟨_, maps, hwf.render_eq, hmaps, horder, ?_, horder.imp fun h => h.line_le, ?_, ?_⟩
  · exact List.pairwise_map.mpr (horder.imp fun h => h.ne)
  · intro m hm
    exact Mapping.exists_boundary_of_ends hends hm
  · intro m hm
    rw [← Glyph.map_char_flatMap_ofSegment]
    exact Mapping.fitsWord_of_ends hends hm

theorem mixedText_mappings_ordered : ∃ maps,
    (reached mixedText mixedRequests).mappings false = .ok maps ∧
      maps.map Mapping.generated = [⟨0, 0⟩, ⟨1, 0⟩, ⟨2, 0⟩, ⟨3, 0⟩, ⟨4, 0⟩, ⟨4, 2⟩, ⟨5, 0⟩] ∧
      (maps.map Mapping.generated).Nodup ∧
      (∃ offset, mixedText.isBoundary offset = true ∧
        (LineIndex.ofText mixedText).position? offset = some ⟨1, 3⟩) ∧
      ∀ m ∈ maps, m.generated.FitsWord ∧ m.source.FitsWord := by
  have hcomputed : (reached mixedText mixedRequests).mappings false =
      .ok [⟨⟨0, 0⟩, ⟨0, 0⟩⟩, ⟨⟨1, 0⟩, ⟨0, 0⟩⟩, ⟨⟨2, 0⟩, ⟨0, 0⟩⟩, ⟨⟨3, 0⟩, ⟨1, 0⟩⟩,
        ⟨⟨4, 0⟩, ⟨1, 1⟩⟩, ⟨⟨4, 2⟩, ⟨1, 3⟩⟩, ⟨⟨5, 0⟩, ⟨2, 0⟩⟩] := by
    decide +kernel
  have hrendered : (reached mixedText mixedRequests).render =
      .ok "//\n#!a\ni;\né\n😀d\nc".toList := by
    decide +kernel
  obtain ⟨text, maps, htext, hmaps, -, hnodup, -, hsource, hfits⟩ :=
    reached_mappings_ordered mixedText mixedRequests false
  obtain rfl := Except.ok.inj (htext.symm.trans hrendered)
  obtain rfl := Except.ok.inj (hmaps.symm.trans hcomputed)
  refine ⟨_, hmaps, rfl, hnodup, hsource ⟨⟨4, 2⟩, ⟨1, 3⟩⟩ (by simp), ?_⟩
  intro m hm
  exact ⟨(hfits m hm).1 (by decide), (hfits m hm).2 (by decide)⟩

/-- The character stands in a segment that was inserted at the anchor, `front` is what the segment has
before it, and `lead` is all text in front of the segment. -/
def Inserts (parts : List Segment) (anchor : Nat) (lead front : Text) (c : Char) : Prop :=
  ∃ before s after back, parts = before ++ s :: after ∧ s.provenance = .inserted anchor ∧
    s.text = front ++ c :: back ∧ lead = before.flatMap (·.text)

/-- Every character of inserted text but line feeds leads to the place its segment was inserted at. -/
def InsertedTextLeads (source : Text) (parts : List Segment) (maps : List Mapping) : Prop :=
  ∀ (anchor : Nat) (lead front : Text) (c : Char), Inserts parts anchor lead front c → c ≠ '\n' →
    ∃ m, Mapping.last? maps (Position.origin.advanceOver (lead ++ front)) = some m ∧
      (LineIndex.ofText source).position? anchor = some m.source

theorem Inserts.isPrefix {parts : List Segment} {anchor : Nat} {lead front : Text} {c : Char}
    (h : Inserts parts anchor lead front c) :
    lead ++ (front ++ [c]) <+: parts.flatMap (·.text) := by
  obtain ⟨before, s, after, back, rfl, -, htext, rfl⟩ := h
  exact ⟨back ++ after.flatMap (·.text), by simp [htext]⟩

theorem WellFormed.last?_inserted {p : Patch} (h : p.WellFormed) {hires : Bool}
    {maps : List Mapping}
    (hends : maps.map Mapping.ends = Glyph.ends hires p.source Position.origin p.glyphs)
    {anchor : Nat} {lead front : Text} {c : Char} (hinserts : Inserts p.layout anchor lead front c) :
    ∃ place, (LineIndex.ofText p.source).position? anchor = some place ∧
      Mapping.last? maps (Position.origin.advanceOver (lead ++ front)) =
        if '\n' ∈ front then none else some ⟨Position.origin.advanceOver lead, place⟩ := by
  obtain ⟨before, s, after, back, hlayout, hs, htext, rfl⟩ := hinserts
  have hanchor : p.source.isBoundary anchor = true := by
    have hmem : s ∈ p.layout := by simp [hlayout]
    have hfits := h.fits_of_mem_layout hmem
    rw [Segment.Fits, hs] at hfits
    exact hfits.2
  obtain ⟨left, right, hsource, hleft⟩ := Text.isBoundary_iff.mp hanchor
  have hplace := LineIndex.position?_eq_some_iff.mpr ⟨left, right, hsource, hleft, rfl⟩
  obtain ⟨g, hprovenance, hlast⟩ :=
    Glyph.exists_last?_inserted hires Position.origin before after hs htext
  refine ⟨_, hplace, ?_⟩
  rw [← hlayout, ← glyphs] at hlast
  split at hlast
  · rw [if_pos ‹_›, Mapping.last?_eq_none hends hlast]
  · rw [if_neg ‹_›]
    exact Mapping.last?_eq_some hends hlast (by rw [hprovenance]; exact hplace)

/-- A character of inserted text leads to the place its segment was inserted at, through the mapping at
the start of the segment, exactly if no line feed of the segment comes before it; otherwise there is no
mapping on its line up to it. So all inserted text leads to its places exactly if the line feeds of each
inserted segment stand at its end. -/
theorem inserted_text_leads_on_first_line (source : Text) (requests : List Request)
    (hires : Bool) :
    ∃ parts text maps,
      (reached source requests).segments = .ok parts ∧
      (reached source requests).render = .ok text ∧
      (reached source requests).mappings hires = .ok maps ∧
      (∀ (anchor : Nat) (lead front : Text) (c : Char), Inserts parts anchor lead front c →
        lead ++ (front ++ [c]) <+: text ∧
          ∃ place, (LineIndex.ofText source).position? anchor = some place ∧
            Mapping.last? maps (Position.origin.advanceOver (lead ++ front)) =
              if '\n' ∈ front then none else some ⟨Position.origin.advanceOver lead, place⟩) ∧
      (InsertedTextLeads source parts maps ↔
        ∀ (anchor : Nat) (lead front : Text) (c : Char),
          Inserts parts anchor lead front c → '\n' ∈ front → c = '\n') := by
  have hwf := wellFormed_reached source requests
  obtain ⟨maps, hmaps, hends⟩ := hwf.exists_mappings hires
  have hlast : ∀ (anchor : Nat) (lead front : Text) (c : Char),
      Inserts (reached source requests).layout anchor lead front c →
      ∃ place, (LineIndex.ofText source).position? anchor = some place ∧
        Mapping.last? maps (Position.origin.advanceOver (lead ++ front)) =
          if '\n' ∈ front then none else some ⟨Position.origin.advanceOver lead, place⟩ := by
    intro anchor lead front c hinserts
    have hinserted := hwf.last?_inserted hends hinserts
    rwa [source_reached] at hinserted
  refine ⟨(reached source requests).layout, _, maps, hwf.segments_eq, hwf.render_eq, hmaps, ?_, ?_⟩
  · intro anchor lead front c hinserts
    exact ⟨hinserts.isPrefix, hlast anchor lead front c hinserts⟩
  · constructor
    · intro hleads anchor lead front c hinserts hfeed
      by_contra hc
      obtain ⟨m, hm, -⟩ := hleads anchor lead front c hinserts hc
      obtain ⟨place, -, heq⟩ := hlast anchor lead front c hinserts
      rw [if_pos hfeed, hm] at heq
      exact Option.some_ne_none m heq
    · intro hfeeds anchor lead front c hinserts hc
      obtain ⟨place, hplace, heq⟩ := hlast anchor lead front c hinserts
      rw [if_neg fun hfeed => hc (hfeeds anchor lead front c hinserts hfeed)] at heq
      exact ⟨_, heq, hplace⟩

def callText : Text := "usePrerenderData('k', f)".toList

/-- An import over two lines. -/
def brokenImport : Text := "import \x7b nr \x7d\n  from '#rt';\n".toList

/-- The handler is put under a guard, and the import in front of the call. -/
def brokenRequests : List Request :=
  [.overwriteWith ⟨22, 23⟩ [.inserted "import.meta.prerender ? ".toList, .copied ⟨22, 23⟩,
    .inserted " : nr()".toList], .injectImport brokenImport]

theorem exists_segments_broken : ∃ rest,
    (reached callText brokenRequests).segments = .ok (⟨brokenImport, .inserted 0⟩ :: rest) := by
  refine ⟨[⟨"usePrerenderData('k', ".toList, .copied 0⟩,
    ⟨"import.meta.prerender ? ".toList, .inserted 22⟩, ⟨['f'], .copied 22⟩,
    ⟨" : nr()".toList, .inserted 22⟩, ⟨[')'], .copied 23⟩], ?_⟩
  decide +kernel

theorem inserts_broken (rest : List Segment) :
    Inserts (⟨brokenImport, .inserted 0⟩ :: rest) 0 [] [] 'i' ∧
      Inserts (⟨brokenImport, .inserted 0⟩ :: rest) 0 [] "import \x7b nr \x7d\n  ".toList 'f' := by
  have htext : brokenImport = [] ++ 'i' :: "mport \x7b nr \x7d\n  from '#rt';\n".toList ∧
      brokenImport = "import \x7b nr \x7d\n  ".toList ++ 'f' :: "rom '#rt';\n".toList := by
    decide
  constructor
  · exact ⟨[], _, rest, _, rfl, rfl, htext.1, rfl⟩
  · exact ⟨[], _, rest, _, rfl, rfl, htext.2, rfl⟩

theorem brokenImport_first_line : ∃ maps,
    (reached callText brokenRequests).mappings true = .ok maps ∧
      Mapping.last? maps ⟨0, 0⟩ = some ⟨⟨0, 0⟩, ⟨0, 0⟩⟩ ∧
      Mapping.last? maps (Position.origin.advanceOver "import \x7b nr \x7d\n  ".toList) = none := by
  obtain ⟨rest, hlaid⟩ := exists_segments_broken
  obtain ⟨hstart, hlater⟩ := inserts_broken rest
  obtain ⟨parts, text, maps, hparts, -, hmaps, hlast, -⟩ :=
    inserted_text_leads_on_first_line callText brokenRequests true
  obtain rfl := Except.ok.inj (hparts.symm.trans hlaid)
  obtain ⟨-, place, hplace, hfirst⟩ := hlast 0 [] [] 'i' hstart
  obtain ⟨-, place', -, hsecond⟩ := hlast 0 [] _ 'f' hlater
  have hzero : (LineIndex.ofText callText).position? 0 = some ⟨0, 0⟩ := by decide +kernel
  obtain rfl := Option.some.inj (hplace.symm.trans hzero)
  rw [if_pos (by decide)] at hsecond
  exact ⟨maps, hmaps, hfirst, hsecond⟩

/-- With an import over two lines some inserted text leads nowhere, with sparse and with full mappings. -/
theorem brokenImport_leads_nowhere : ∃ parts sparse full,
    (reached callText brokenRequests).segments = .ok parts ∧
      (reached callText brokenRequests).mappings false = .ok sparse ∧
      (reached callText brokenRequests).mappings true = .ok full ∧
      ¬InsertedTextLeads callText parts sparse ∧ ¬InsertedTextLeads callText parts full := by
  have hwf := wellFormed_reached callText brokenRequests
  obtain ⟨rest, hlaid⟩ := exists_segments_broken
  obtain ⟨sparse, hsparse, -⟩ := hwf.exists_mappings false
  obtain ⟨full, hfull, -⟩ := hwf.exists_mappings true
  have hnowhere : ∀ hires : Bool,
      (((reached callText brokenRequests).mappings hires).toOption.bind fun maps =>
        Mapping.last? maps
          (Position.origin.advanceOver ([] ++ "import \x7b nr \x7d\n  ".toList))) = none := by
    intro hires
    cases hires <;> decide +kernel
  have hrefuted : ∀ {hires : Bool} {maps : List Mapping},
      (reached callText brokenRequests).mappings hires = .ok maps →
      ¬InsertedTextLeads callText (⟨brokenImport, .inserted 0⟩ :: rest) maps := by
    intro hires maps hmaps hleads
    obtain ⟨m, hm, -⟩ := hleads 0 [] _ 'f' (inserts_broken rest).2 (by decide)
    have hnone := hnowhere hires
    rw [hmaps] at hnone
    exact Option.some_ne_none m (hm.symm.trans hnone)
  exact ⟨_, sparse, full, hlaid, hsparse, hfull, hrefuted hsparse, hrefuted hfull⟩

end Patch

end HandlerGuard
