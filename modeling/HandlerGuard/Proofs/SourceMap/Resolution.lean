import HandlerGuard.Proofs.Patch.History

namespace HandlerGuard

namespace Position

/-- The position stands before the other one in a text. -/
def Precedes (p q : Position) : Prop :=
  p.line < q.line ∨ p.line = q.line ∧ p.column < q.column

theorem Precedes.trans {p q r : Position} (h : p.Precedes q) (h' : q.Precedes r) :
    p.Precedes r := by
  unfold Precedes at *
  omega

theorem Precedes.line_le {p q : Position} (h : p.Precedes q) : p.line ≤ q.line := by
  unfold Precedes at h
  omega

theorem Precedes.ne {p q : Position} (h : p.Precedes q) : p ≠ q := by
  rintro rfl
  unfold Precedes at h
  omega

theorem precedes_advance (p : Position) (c : Char) : p.Precedes (p.advance c) := by
  have hunits : 0 < Text.units c := by
    unfold Text.units
    split <;> omega
  by_cases hc : c = '\n'
  · left
    simp [advance, hc]
  · right
    rw [p.advance_of_ne hc]
    exact ⟨rfl, Nat.lt_add_of_pos_right hunits⟩

theorem precedes_advanceOver_cons (p : Position) (c : Char) (t : Text) :
    p.Precedes (p.advanceOver (c :: t)) := by
  induction t generalizing p c with
  | nil => exact p.precedes_advance c
  | cons d t ih => exact (p.precedes_advance c).trans (ih (p.advance c) d)

theorem advanceOver_of_not_mem (p : Position) {t : Text} (h : '\n' ∉ t) :
    p.advanceOver t = ⟨p.line, p.column + t.units16⟩ := by
  induction t generalizing p with
  | nil => rfl
  | cons c t ih =>
      obtain ⟨hc, ht⟩ := not_or.mp (mt List.mem_cons.mpr h)
      rw [advanceOver_cons, p.advance_of_ne (Ne.symm hc), ih _ ht, Text.units16, Nat.add_assoc]

end Position

namespace Mapping

/-- A mapping that stands on the line of a position and not behind it. -/
def leadsTo (p : Position) (generated : Position) : Bool :=
  decide (generated.line = p.line ∧ generated.column ≤ p.column)

/-- The last mapping on the line of a position that does not stand behind it. -/
def last? (maps : List Mapping) (p : Position) : Option Mapping :=
  (maps.filter fun m => leadsTo p m.generated).getLast?

/-- The position of the source that a position leads to: as many columns past its mapping here as
there. -/
def resolve (maps : List Mapping) (p : Position) : Option Position :=
  (last? maps p).map fun m => ⟨m.source.line, m.source.column + (p.column - m.generated.column)⟩

theorem eq_of_ends_eq (m m' : Mapping) (h : m.ends = m'.ends) : m = m' := by
  cases m
  cases m'
  simpa [ends] using h

end Mapping

namespace Glyph

/-- The last mapped character on the line of a position that does not stand behind it. -/
def last? (hires : Bool) (start : Position) (glyphs : List Glyph) (p : Position) :
    Option (Position × Glyph) :=
  ((walk start glyphs).filter fun g => g.2.isMapped hires && Mapping.leadsTo p g.1).getLast?

theorem isMapped_of_sparse {g : Glyph} (h : g.isMapped false = true) : g.isMapped true = true := by
  unfold isMapped at *
  split at h
  · simp only [Bool.and_eq_true] at h
    simpa using h.1
  · exact h

theorem precedes_of_mem_walk {start : Position} {glyphs : List Glyph} {x : Position × Glyph}
    (h : x ∈ walk start glyphs) : x.1.Precedes (start.advanceOver (glyphs.map char)) := by
  induction glyphs generalizing start x with
  | nil => simp [walk] at h
  | cons g rest ih =>
      rcases List.mem_cons.mp h with rfl | h
      · exact start.precedes_advanceOver_cons g.char (rest.map char)
      · exact ih h

theorem eq_or_precedes_of_mem_walk {start : Position} {glyphs : List Glyph}
    {x : Position × Glyph} (h : x ∈ walk start glyphs) : x.1 = start ∨ start.Precedes x.1 := by
  induction glyphs generalizing start with
  | nil => simp [walk] at h
  | cons g rest ih =>
      rcases List.mem_cons.mp h with rfl | h
      · exact Or.inl rfl
      · right
        rcases ih h with heq | hprecedes
        · rw [heq]
          exact start.precedes_advance g.char
        · exact (start.precedes_advance g.char).trans hprecedes

theorem pairwise_walk (start : Position) (glyphs : List Glyph) :
    (walk start glyphs).Pairwise fun x y => x.1.Precedes y.1 := by
  induction glyphs generalizing start with
  | nil => exact List.Pairwise.nil
  | cons g rest ih =>
      refine List.Pairwise.cons ?_ (ih (start.advance g.char))
      intro y hy
      have hstep := start.precedes_advance g.char
      rcases eq_or_precedes_of_mem_walk hy with heq | hprecedes
      · rw [heq]
        exact hstep
      · exact hstep.trans hprecedes

theorem last?_append_of_precedes (hires : Bool) {start p : Position} {glyphs : List Glyph}
    (h : p.Precedes (start.advanceOver (glyphs.map char))) (after : List Glyph) :
    last? hires start (glyphs ++ after) p = last? hires start glyphs p := by
  have hbehind : ∀ x ∈ walk (start.advanceOver (glyphs.map char)) after,
      ¬(x.2.isMapped hires && Mapping.leadsTo p x.1) = true := by
    intro x hx hleads
    have hle : x.1.line = p.line ∧ x.1.column ≤ p.column := by
      simpa [Mapping.leadsTo] using (Bool.and_eq_true_iff.mp hleads).2
    have hprecedes : p.Precedes x.1 := by
      rcases eq_or_precedes_of_mem_walk hx with heq | hprecedes
      · rwa [heq]
      · exact h.trans hprecedes
    unfold Position.Precedes at hprecedes
    omega
  rw [last?, walk_append, List.filter_append, List.filter_eq_nil_iff.mpr hbehind, List.append_nil,
    last?]

theorem last?_append_cons (hires : Bool) (start : Position) (before after : List Glyph) (g : Glyph) :
    last? hires start (before ++ g :: after) (start.advanceOver (before.map char)) =
      last? hires start (before ++ [g]) (start.advanceOver (before.map char)) := by
  have hstep : (start.advanceOver (before.map char)).Precedes
      (start.advanceOver ((before ++ [g]).map char)) := by
    rw [List.map_append, Position.advanceOver_append]
    exact Position.precedes_advance _ g.char
  rw [← last?_append_of_precedes hires hstep after, List.append_assoc, List.singleton_append]

theorem last?_of_isMapped {hires : Bool} {g : Glyph} (h : g.isMapped hires = true)
    (start : Position) (before : List Glyph) :
    last? hires start (before ++ [g]) (start.advanceOver (before.map char)) =
      some (start.advanceOver (before.map char), g) := by
  simp [last?, walk_append, walk, List.filter_append, h, Mapping.leadsTo]

theorem last?_concat_of_not_isMapped {hires : Bool} {g g' : Glyph} (h : g'.isMapped hires = false)
    (hchar : g.char ≠ '\n') (start : Position) (before : List Glyph) :
    last? hires start (before ++ [g] ++ [g'])
        (start.advanceOver ((before ++ [g]).map char)) =
      last? hires start (before ++ [g]) (start.advanceOver (before.map char)) := by
  have hposition : start.advanceOver ((before ++ [g]).map char) =
      ⟨(start.advanceOver (before.map char)).line,
        (start.advanceOver (before.map char)).column + Text.units g.char⟩ := by
    rw [List.map_append, Position.advanceOver_append]
    exact Position.advance_of_ne _ hchar
  have hsame : ∀ x ∈ walk start (before ++ [g]),
      (x.2.isMapped hires && Mapping.leadsTo (start.advanceOver ((before ++ [g]).map char)) x.1) =
        (x.2.isMapped hires && Mapping.leadsTo (start.advanceOver (before.map char)) x.1) := by
    intro x hx
    congr 1
    -- everything up to the character stands at its position or before it
    have hle : x.1 = start.advanceOver (before.map char) ∨
        x.1.Precedes (start.advanceOver (before.map char)) := by
      rw [walk_append, List.mem_append] at hx
      rcases hx with hx | hx
      · exact Or.inr (precedes_of_mem_walk hx)
      · rw [List.mem_singleton.mp hx]
        exact Or.inl rfl
    rw [hposition, Mapping.leadsTo, Mapping.leadsTo, decide_eq_decide]
    rcases hle with heq | hprecedes
    · rw [heq]
      simp
    · unfold Position.Precedes at hprecedes
      dsimp only
      omega
  rw [last?, walk_append, List.filter_append, List.filter_congr hsame, last?]
  simp [walk, h]

theorem head_or_follows_ofText {first fresh : Bool} {provenance : Provenance} {t : Text}
    {before after : List Glyph} {g : Glyph}
    (h : ofText first fresh provenance t = before ++ g :: after) :
    (before = [] ∧ g.fresh = fresh ∧ g.provenance = provenance) ∨
      ∃ front g', before = front ++ [g'] ∧ g.fresh = decide (g'.char = '\n') ∧
        g.provenance = g'.provenance.past g'.char := by
  induction t generalizing first fresh provenance before with
  | nil => simp [ofText] at h
  | cons c t ih =>
      rw [ofText] at h
      rcases before with _ | ⟨head, before⟩
      · obtain ⟨rfl, -⟩ := List.cons.inj h
        exact Or.inl ⟨rfl, rfl, rfl⟩
      · obtain ⟨rfl, htail⟩ := List.cons.inj h
        right
        rcases ih htail with ⟨rfl, hfresh, hprovenance⟩ | ⟨front, g', rfl, hfresh, hprovenance⟩
        · exact ⟨[], _, rfl, hfresh, hprovenance⟩
        · exact ⟨_ :: front, g', rfl, hfresh, hprovenance⟩

theorem fresh_or_follows {parts : List Segment} {before after : List Glyph} {g : Glyph}
    (h : parts.flatMap ofSegment = before ++ g :: after) :
    g.fresh = true ∨ ∃ front g', before = front ++ [g'] ∧ g'.char ≠ '\n' ∧
      g.provenance = g'.provenance.past g'.char := by
  have hfirst : ∀ {s : Segment} {before after : List Glyph},
      ofSegment s = before ++ g :: after →
      g.fresh = true ∨ ∃ front g', before = front ++ [g'] ∧ g'.char ≠ '\n' ∧
        g.provenance = g'.provenance.past g'.char := by
    intro s before after h
    rcases head_or_follows_ofText h with ⟨-, hfresh, -⟩ | ⟨front, g', hfront, hfresh, hfollows⟩
    · exact Or.inl hfresh
    · by_cases hfeed : g'.char = '\n'
      · exact Or.inl (by simp [hfresh, hfeed])
      · exact Or.inr ⟨front, g', hfront, hfeed, hfollows⟩
  induction parts generalizing before with
  | nil => simp at h
  | cons s rest ih =>
      rw [List.flatMap_cons] at h
      rcases List.append_eq_append_iff.mp h with ⟨m, rfl, hrest⟩ | ⟨m, hs, hrest⟩
      · rcases ih hrest with hfresh | ⟨front, g', rfl, hfollows⟩
        · exact Or.inl hfresh
        · exact Or.inr ⟨ofSegment s ++ front, g', by simp, hfollows⟩
      · rcases m with _ | ⟨head, m⟩
        · have hrest : rest.flatMap ofSegment = [] ++ g :: after := hrest.symm
          rcases ih hrest with hfresh | ⟨front, g', hnil, -⟩
          · exact Or.inl hfresh
          · simp at hnil
        · obtain ⟨rfl, -⟩ := List.cons.inj hrest
          exact hfirst hs

/-- The last sparsely mapped character for a copied one stands on its line in front of a piece of the
source that was copied as it is, up to the character. -/
theorem exists_run {source : Text} {parts : List Segment} (hfits : ∀ s ∈ parts, s.Fits source)
    (start : Position) {before after : List Glyph} {g : Glyph} {offset : Nat}
    (hsplit : parts.flatMap ofSegment = before ++ g :: after)
    (hcopied : g.provenance = .copied offset) (hchar : g.char ≠ '\n') :
    ∃ q f left run right,
      last? false start (before ++ [g]) (start.advanceOver (before.map char)) = some (q, f) ∧
      f.provenance = .copied left.byteLength ∧ source = left ++ (run ++ right) ∧
      offset = (left ++ run).byteLength ∧ '\n' ∉ run ∧
      start.advanceOver (before.map char) = q.advanceOver run := by
  have hstands : ∀ {g : Glyph} {offset : Nat}, g ∈ parts.flatMap ofSegment →
      g.provenance = .copied offset →
      ∃ left right, source = left ++ g.char :: right ∧ left.byteLength = offset := by
    intro g offset hg hcopied
    obtain ⟨s, hs, hg⟩ := List.mem_flatMap.mp hg
    exact (hfits s hs).exists_split hg hcopied
  induction before using List.reverseRecOn generalizing g offset after with
  | nil =>
      have hfresh : g.fresh = true := by
        rcases fresh_or_follows hsplit with hfresh | ⟨front, g', hnil, -⟩
        · exact hfresh
        · simp at hnil
      obtain ⟨left, right, hsource, hleft⟩ := hstands (by simp [hsplit]) hcopied
      have hmapped : g.isMapped false = true := by simp [isMapped, hcopied, hchar, hfresh]
      exact ⟨_, g, left, [], g.char :: right, last?_of_isMapped hmapped start [], by rw [hleft, hcopied],
        hsource, by simp [hleft], List.not_mem_nil, rfl⟩
  | append_singleton front g' ih =>
      obtain ⟨left, right, hsource, hleft⟩ := hstands (by simp [hsplit]) hcopied
      cases hfresh : g.fresh with
      | true =>
          have hmapped : g.isMapped false = true := by simp [isMapped, hcopied, hchar, hfresh]
          exact ⟨_, g, left, [], g.char :: right, last?_of_isMapped hmapped start _,
            by rw [hleft, hcopied], hsource, by simp [hleft], List.not_mem_nil, rfl⟩
      | false =>
          obtain ⟨front', g'', heq, hchar', hfollows⟩ : ∃ front' g'', front ++ [g'] = front' ++ [g''] ∧
              g''.char ≠ '\n' ∧ g.provenance = g''.provenance.past g''.char := by
            rcases fresh_or_follows hsplit with h | h
            · simp [hfresh] at h
            · exact h
          obtain ⟨rfl, hlast⟩ := List.append_inj' heq rfl
          obtain rfl : g' = g'' := by simpa using hlast
          obtain ⟨offset', hcopied', rfl⟩ : ∃ offset', g'.provenance = .copied offset' ∧
              offset' + g'.char.utf8Size = offset := by
            rw [hcopied] at hfollows
            cases hprovenance : g'.provenance with
            | copied offset' =>
                rw [hprovenance] at hfollows
                exact ⟨offset', rfl, (Provenance.copied.inj hfollows).symm⟩
            | inserted anchor =>
                rw [hprovenance] at hfollows
                simp [Provenance.past] at hfollows
          have hsplit' : parts.flatMap ofSegment = front ++ g' :: (g :: after) := by simp [hsplit]
          obtain ⟨q, f, left', run, right', hlast, hf, hsource', hoffset, hfeed, hwalk⟩ :=
            ih hsplit' hcopied' hchar'
          -- the run ends where the character before was copied from, and goes on with it
          obtain ⟨left'', right'', hsource'', hleft''⟩ := hstands (by simp [hsplit']) hcopied'
          have hcut : left' ++ run = left'' ∧ right' = g'.char :: right'' := by
            apply Text.append_inj_of_byteLength
            · rw [List.append_assoc, ← hsource', hsource'']
            · rw [hleft'', hoffset]
          have hunmapped : g.isMapped false = false := by simp [isMapped, hcopied, hfresh]
          refine ⟨q, f, left', run ++ [g'.char], right'', ?_, hf, ?_, ?_, ?_, ?_⟩
          · rw [last?_concat_of_not_isMapped hunmapped hchar', hlast]
          · rw [hsource', hcut.2]
            simp
          · rw [← List.append_assoc, Text.byteLength_append (left' ++ run), ← hoffset]
            simp
          · simpa using ⟨hfeed, Ne.symm hchar'⟩
          · rw [List.map_append, Position.advanceOver_append, hwalk, Position.advanceOver_append]
            rfl

end Glyph

namespace Mapping

theorem map_ends_last? {hires : Bool} {source : Text} {start : Position} {glyphs : List Glyph}
    {maps : List Mapping} (hends : maps.map ends = Glyph.ends hires source start glyphs)
    (p : Position) :
    (last? maps p).map ends = (Glyph.last? hires start glyphs p).map fun g =>
      (g.1, (LineIndex.ofText source).position? g.2.provenance.offset) := by
  have hfilter : (maps.filter fun m => leadsTo p m.generated).map ends =
      (maps.map ends).filter fun e => leadsTo p e.1 := by
    rw [List.filter_map]
    rfl
  rw [last?, ← List.getLast?_map, hfilter, hends, Glyph.ends, List.filter_map, List.getLast?_map,
    List.filter_filter, Glyph.last?]
  congr 3
  funext g
  exact Bool.and_comm _ _

theorem last?_eq_some {hires : Bool} {source : Text} {start : Position} {glyphs : List Glyph}
    {maps : List Mapping} (hends : maps.map ends = Glyph.ends hires source start glyphs)
    {p q origin : Position} {f : Glyph} (hlast : Glyph.last? hires start glyphs p = some (q, f))
    (horigin : (LineIndex.ofText source).position? f.provenance.offset = some origin) :
    last? maps p = some ⟨q, origin⟩ := by
  have hmap := map_ends_last? hends p
  rw [hlast, Option.map_some, horigin] at hmap
  obtain ⟨m, hm, hmends⟩ := Option.map_eq_some_iff.mp hmap
  rw [hm, eq_of_ends_eq m ⟨q, origin⟩ hmends]

theorem pairwise_of_ends {hires : Bool} {source : Text} {start : Position} {glyphs : List Glyph}
    {maps : List Mapping} (hends : maps.map ends = Glyph.ends hires source start glyphs) :
    maps.Pairwise fun a b => a.generated.Precedes b.generated := by
  have horder : (maps.map ends).Pairwise fun a b => a.1.Precedes b.1 := by
    rw [hends]
    exact List.pairwise_map.mpr ((Glyph.pairwise_walk start glyphs).filter _)
  rw [List.pairwise_map] at horder
  exact horder

theorem sublist_of_ends {source : Text} {start : Position} {glyphs : List Glyph}
    {sparse full : List Mapping}
    (hsparse : sparse.map ends = Glyph.ends false source start glyphs)
    (hfull : full.map ends = Glyph.ends true source start glyphs) : sparse.Sublist full := by
  have hsublist : (sparse.map ends).Sublist (full.map ends) := by
    rw [hsparse, hfull]
    apply List.Sublist.map
    -- what is mapped sparsely is found among what is mapped fully
    have hagain : ((Glyph.walk start glyphs).filter fun g => g.2.isMapped false) =
        ((Glyph.walk start glyphs).filter fun g => g.2.isMapped true).filter fun g =>
          g.2.isMapped false := by
      rw [List.filter_filter]
      apply List.filter_congr
      intro g _
      cases hmapped : g.2.isMapped false with
      | false => rfl
      | true => rw [Glyph.isMapped_of_sparse hmapped]; rfl
    rw [hagain]
    exact List.filter_sublist
  obtain ⟨kept, hkept, heq⟩ := List.sublist_map_iff.mp hsublist
  rwa [(List.map_inj_right eq_of_ends_eq).mp heq]

end Mapping

namespace Patch

/-- Sparse mappings are some of the full ones, in their order, and lose nothing of the copied text. The
last sparse mapping on the line of a copied character, up to its column, leads to the line that the
character was copied from, and the columns from the mapping to the character are as many there as
here. So the character leads to where it was copied from, with sparse and with full mappings alike. -/
theorem sparse_mappings_resolve (source : Text) (requests : List Request) :
    ∃ parts text sparse full,
      (reached source requests).segments = .ok parts ∧
      (reached source requests).render = .ok text ∧
      (reached source requests).mappings false = .ok sparse ∧
      (reached source requests).mappings true = .ok full ∧
      (parts.flatMap Glyph.ofSegment).map Glyph.char = text ∧
      sparse.Sublist full ∧
      ∀ (index : Nat) (g : Glyph) (offset : Nat) (p : Position),
        (parts.flatMap Glyph.ofSegment)[index]? = some g →
        g.provenance = .copied offset → g.char ≠ '\n' →
        p = Position.origin.advanceOver (text.take index) →
        ∃ origin m,
          (LineIndex.ofText source).position? offset = some origin ∧
          Mapping.last? sparse p = some m ∧
          m.generated.line = p.line ∧ m.generated.column ≤ p.column ∧
          m.source.line = origin.line ∧
          origin.column = m.source.column + (p.column - m.generated.column) ∧
          Mapping.resolve sparse p = some origin ∧
          Mapping.resolve full p = some origin := by
  have hwf := wellFormed_reached source requests
  have hsource := source_reached source requests
  obtain ⟨sparse, hsparse, hsparseEnds⟩ := hwf.exists_mappings false
  obtain ⟨full, hfull, hfullEnds⟩ := hwf.exists_mappings true
  have hfits : ∀ s ∈ (reached source requests).layout, s.Fits source := by
    intro s hs
    rw [← hsource]
    exact hwf.fits_of_mem_layout hs
  rw [hsource] at hsparseEnds hfullEnds
  refine ⟨(reached source requests).layout, _, sparse, full, hwf.segments_eq, hwf.render_eq, hsparse,
    hfull, Glyph.map_char_flatMap_ofSegment _, Mapping.sublist_of_ends hsparseEnds hfullEnds, ?_⟩
  intro index g offset p hg hcopied hchar hp
  obtain ⟨hindex, hget⟩ := List.getElem?_eq_some_iff.mp hg
  have hsplit : (reached source requests).layout.flatMap Glyph.ofSegment =
      ((reached source requests).layout.flatMap Glyph.ofSegment).take index ++ g ::
        ((reached source requests).layout.flatMap Glyph.ofSegment).drop (index + 1) := by
    rw [← hget, List.getElem_cons_drop, List.take_append_drop]
  rw [← Glyph.map_char_flatMap_ofSegment, ← List.map_take] at hp
  generalize ((reached source requests).layout.flatMap Glyph.ofSegment).take index = before at *
  generalize ((reached source requests).layout.flatMap Glyph.ofSegment).drop (index + 1) = after at *
  obtain ⟨q, f, left, run, right, hlast, hf, hsplitSource, rfl, hfeed, hwalk⟩ :=
    Glyph.exists_run hfits Position.origin hsplit hcopied hchar
  have horigin : (LineIndex.ofText source).position? (left ++ run).byteLength =
      some (Position.origin.advanceOver (left ++ run)) := by
    rw [hsplitSource, ← List.append_assoc]
    exact LineIndex.position?_append (left ++ run) right
  have hanchor : (LineIndex.ofText source).position? f.provenance.offset =
      some (Position.origin.advanceOver left) := by
    rw [hf, hsplitSource]
    exact LineIndex.position?_append left (run ++ right)
  -- both texts go over the run on one line
  have hp' : p = ⟨q.line, q.column + run.units16⟩ := by
    rw [hp, hwalk, Position.advanceOver_of_not_mem q hfeed]
  have htarget : Position.origin.advanceOver (left ++ run) =
      ⟨(Position.origin.advanceOver left).line,
        (Position.origin.advanceOver left).column + run.units16⟩ := by
    rw [Position.advanceOver_append, Position.advanceOver_of_not_mem _ hfeed]
  have hsparseLast : Mapping.last? sparse p = some ⟨q, Position.origin.advanceOver left⟩ := by
    refine Mapping.last?_eq_some hsparseEnds ?_ hanchor
    rw [glyphs, hsplit, hp, Glyph.last?_append_cons, hlast]
  have hfullLast : Mapping.last? full p = some ⟨p, Position.origin.advanceOver (left ++ run)⟩ := by
    have hmapped : g.isMapped true = true := by simp [Glyph.isMapped, hcopied, hchar]
    refine Mapping.last?_eq_some hfullEnds (f := g) ?_ (by rw [hcopied]; exact horigin)
    rw [glyphs, hsplit, hp, Glyph.last?_append_cons, Glyph.last?_of_isMapped hmapped]
  refine ⟨_, _, horigin, hsparseLast, ?_, ?_, ?_, ?_, ?_, ?_⟩
  · rw [hp']
  · rw [hp']
    exact Nat.le_add_right _ _
  · rw [htarget]
  · rw [htarget, hp', Nat.add_sub_cancel_left]
  · rw [Mapping.resolve, hsparseLast, htarget, hp', Option.map_some, Nat.add_sub_cancel_left]
  · rw [Mapping.resolve, hfullLast, Option.map_some, Nat.sub_self]
    rfl

theorem mixedText_resolved : ∃ sparse full,
    (reached mixedText mixedRequests).mappings false = .ok sparse ∧
      (reached mixedText mixedRequests).mappings true = .ok full ∧
      sparse.Sublist full ∧
      (∃ m, Mapping.last? sparse ⟨1, 2⟩ = some m ∧ m.generated = ⟨1, 0⟩) ∧
      Mapping.resolve sparse ⟨1, 2⟩ = some ⟨0, 2⟩ ∧
      Mapping.resolve full ⟨1, 2⟩ = some ⟨0, 2⟩ := by
  obtain ⟨hlaid, hrendered, hposition, hlast⟩ :
      (reached mixedText mixedRequests).segments =
        .ok [⟨"//\n".toList, .inserted 0⟩, ⟨"#!a\n".toList, .copied 0⟩,
          ⟨"i;\n".toList, .inserted 0⟩, ⟨"é\n".toList, .inserted 4⟩, ⟨['😀'], .copied 5⟩,
          ⟨"d\nc".toList, .copied 9⟩] ∧
      (reached mixedText mixedRequests).render = .ok "//\n#!a\ni;\né\n😀d\nc".toList ∧
      (LineIndex.ofText mixedText).position? 2 = some ⟨0, 2⟩ ∧
      (((reached mixedText mixedRequests).mappings false).toOption.bind fun maps =>
        (Mapping.last? maps ⟨1, 2⟩).map Mapping.generated) = some ⟨1, 0⟩ := by
    decide +kernel
  obtain ⟨parts, text, sparse, full, hparts, htext, hsparse, hfull, -, hsublist, hcopied⟩ :=
    sparse_mappings_resolve mixedText mixedRequests
  obtain rfl := Except.ok.inj (hparts.symm.trans hlaid)
  obtain rfl := Except.ok.inj (htext.symm.trans hrendered)
  obtain ⟨origin, m, horigin, hm, -, -, -, -, hresolve, hresolve'⟩ :=
    hcopied 5 ⟨'a', .copied 2, false, false⟩ 2 ⟨1, 2⟩ rfl rfl (by decide) rfl
  obtain rfl : origin = ⟨0, 2⟩ := Option.some.inj (horigin.symm.trans hposition)
  rw [hsparse] at hlast
  refine ⟨sparse, full, hsparse, hfull, hsublist, ⟨m, hm, ?_⟩, hresolve, hresolve'⟩
  simpa [Except.toOption, hm] using hlast

end Patch

end HandlerGuard
