import HandlerGuard.CallSite.Guarding
import HandlerGuard.Proofs.Patch.Tiling

namespace HandlerGuard

namespace Patch

/-- The edit that puts the handler of a call under the guard. -/
def guardEdit (target : Target) (source : Text) (site : CallSite) (handler : Span) : Edit :=
  ⟨handler, guardedPieces target handler (site.keyText source).join⟩

/-- The edits of the guardable calls, in the order of the calls. -/
def guardEdits (target : Target) (source : Text) (sites : List CallSite) : List Edit :=
  (sites.filter CallSite.isGuardable).filterMap fun site =>
    site.handler.map (guardEdit target source site)

theorem keyText_eq_ok_iff {p : Patch} {site : CallSite} {key : Option Text} :
    p.keyText site = .ok key ↔ site.keyText p.source = some key := by
  unfold keyText CallSite.keyText
  cases site.key with
  | none => simp
  | some span =>
      unfold read
      cases hslice : p.source.slice? span <;> simp [Except.map, hslice]

theorem guardHandler_eq_ok_iff {p q : Patch} {target : Target} {site : CallSite}
    {handler : Span} :
    p.guardHandler target site handler = .ok q ↔
      (∃ key, site.keyText p.source = some key) ∧
        p.overwriteWith handler (guardEdit target p.source site handler).pieces = .ok q := by
  simp only [guardHandler, bind_eq_ok_iff, keyText_eq_ok_iff, guardEdit]
  constructor
  · rintro ⟨key, hkey, hq⟩
    exact ⟨⟨key, hkey⟩, by rw [hkey]; exact hq⟩
  · rintro ⟨⟨key, hkey⟩, hq⟩
    rw [hkey] at hq
    exact ⟨key, hkey, hq⟩

theorem piecesFit_guardedPieces {source : Text} {target : Target} {handler : Span}
    {key : Option Text} (hcovers : source.covers handler = true) :
    PiecesFit source handler (guardedPieces target handler key) := by
  intro inner hmem
  obtain rfl : inner = handler := by simpa [guardedPieces] using hmem
  exact ⟨hcovers, Span.within_refl inner⟩

theorem tiles_guardEdit (target : Target) (source : Text) (site : CallSite) (handler : Span) :
    Tiles handler.start handler.stop (guardEdit target source site handler).pieces :=
  ⟨rfl, rfl⟩

theorem guardEdits_cons_of_guardable {target : Target} {source : Text} {site : CallSite}
    {sites : List CallSite} {handler : Span} (hguardable : site.isGuardable = true)
    (hhandler : site.handler = some handler) :
    guardEdits target source (site :: sites) =
      guardEdit target source site handler :: guardEdits target source sites := by
  simp [guardEdits, hguardable, hhandler]

theorem guardEdits_cons_of_skipped {target : Target} {source : Text} {site : CallSite}
    {sites : List CallSite} (hskipped : site.isGuardable = false ∨ site.handler = none) :
    guardEdits target source (site :: sites) = guardEdits target source sites := by
  rcases hskipped with h | h
  · simp [guardEdits, h]
  · simp only [guardEdits, List.filter_cons]
    split <;> simp [h]

theorem guardHandlers_cons (p : Patch) (target : Target) (site : CallSite)
    (sites : List CallSite) :
    ((site.isGuardable = false ∨ site.handler = none) ∧
        p.guardHandlers target (site :: sites) = p.guardHandlers target sites) ∨
      ∃ handler, site.isGuardable = true ∧ site.handler = some handler ∧
        ((∃ next, p.guardHandler target site handler = .ok next ∧
            p.guardHandlers target (site :: sites) =
              ((next.guardHandlers target sites).1,
                (next.guardHandlers target sites).2.map (· + 1))) ∨
          ∃ e, p.guardHandler target site handler = .error e ∧
            p.guardHandlers target (site :: sites) = (p, .error e)) := by
  rw [guardHandlers]
  cases hguardable : site.isGuardable with
  | false => exact Or.inl ⟨Or.inl rfl, by simp⟩
  | true =>
      cases hhandler : site.handler with
      | none => exact Or.inl ⟨Or.inr rfl, by simp⟩
      | some handler =>
          refine Or.inr ⟨handler, rfl, rfl, ?_⟩
          cases hresult : p.guardHandler target site handler with
          | ok next => exact Or.inl ⟨next, rfl, by simp [hresult]⟩
          | error e => exact Or.inr ⟨e, rfl, by simp [hresult]⟩

theorem guardHandlers_eq_ok {p q : Patch} {target : Target} {sites : List CallSite} {n : Nat}
    (hwf : p.WellFormed) (h : p.guardHandlers target sites = (q, .ok n)) :
    q.WellFormed ∧ q.source = p.source ∧ q.lead = p.lead ∧
      q.edits.Perm (guardEdits target p.source sites ++ p.edits) ∧
      n = (guardEdits target p.source sites).length ∧
      ∀ site ∈ sites, site.isGuardable = true → site.handler ≠ none →
        ∃ key, site.keyText p.source = some key := by
  induction sites generalizing p n with
  | nil =>
      obtain ⟨rfl, hn⟩ := Prod.mk.inj h
      exact ⟨hwf, rfl, rfl, List.Perm.refl _, by simpa [guardEdits] using hn.symm, by simp⟩
  | cons site sites ih =>
      rcases guardHandlers_cons p target site sites with
        ⟨hskipped, heq⟩ | ⟨handler, hguardable, hhandler, ⟨next, hnext, heq⟩ | ⟨e, -, heq⟩⟩
      · rw [heq] at h
        obtain ⟨hq, hsource, hlead, hperm, hn, hkeys⟩ := ih hwf h
        rw [guardEdits_cons_of_skipped hskipped]
        refine ⟨hq, hsource, hlead, hperm, hn, ?_⟩
        intro site' hmem hguardable hhandler
        rcases List.mem_cons.mp hmem with rfl | hmem
        · rcases hskipped with hskipped | hskipped
          · simp [hskipped] at hguardable
          · exact absurd hskipped hhandler
        · exact hkeys site' hmem hguardable hhandler
      · -- the other calls start from the patch in which this edit is recorded
        obtain ⟨hkey, hoverwrite⟩ := guardHandler_eq_ok_iff.mp hnext
        have hsource' := source_overwriteWith hoverwrite
        rw [heq] at h
        obtain ⟨hlast, hcount⟩ := Prod.mk.inj h
        obtain ⟨m, hm, rfl⟩ : ∃ m, (next.guardHandlers target sites).2 = .ok m ∧ m + 1 = n := by
          cases hresult : (next.guardHandlers target sites).2 with
          | error e => simp [hresult, Except.map] at hcount
          | ok m => exact ⟨m, rfl, by simpa [hresult, Except.map] using hcount⟩
        obtain ⟨hq, hsource, hlead, hperm, rfl, hkeys⟩ :=
          ih (hwf.overwriteWith hoverwrite) (Prod.ext hlast hm)
        rw [hsource'] at hsource hperm hkeys ⊢
        rw [lead_overwriteWith hoverwrite] at hlead
        rw [guardEdits_cons_of_guardable hguardable hhandler]
        refine ⟨hq, hsource, hlead, ?_, rfl, ?_⟩
        · have hnextEdits : (guardEdits target p.source sites ++ next.edits).Perm
              (guardEdits target p.source sites ++
                guardEdit target p.source site handler :: p.edits) :=
            (edits_overwriteWith hoverwrite).append_left _
          exact (hperm.trans hnextEdits).trans List.perm_middle
        · intro site' hmem hguardable' hhandler'
          rcases List.mem_cons.mp hmem with rfl | hmem
          · exact hkey
          · exact hkeys site' hmem hguardable' hhandler'
      · rw [heq] at h
        simp at h

theorem apart_of_mem_overwriteWith {p q : Patch} {s s' : Span} {pieces : List Piece}
    (hq : p.overwriteWith s pieces = .ok q) (hnew : s.Apart s')
    (hold : ∀ e ∈ p.edits, e.span.Apart s') : ∀ e ∈ q.edits, e.span.Apart s' := by
  intro e he
  rcases List.mem_cons.mp ((edits_overwriteWith hq).mem_iff.mp he) with rfl | he
  · exact hnew
  · exact hold e he

theorem guardHandlers_of_apart {p : Patch} {target : Target} {sites : List CallSite}
    (hwf : p.WellFormed)
    (hsound : ∀ site ∈ sites, site.isGuardable = true → ∃ handler,
      site.handler = some handler ∧ p.source.covers handler = true ∧
        (∃ key, site.keyText p.source = some key) ∧ ∀ e ∈ p.edits, e.span.Apart handler)
    (hapart : sites.Pairwise fun a b => a.isGuardable = true → b.isGuardable = true →
      ∀ s ∈ a.handler, ∀ s' ∈ b.handler, s.Apart s') :
    ∃ q, p.guardHandlers target sites = (q, .ok (sites.countP CallSite.isGuardable)) := by
  induction sites generalizing p with
  | nil => exact ⟨p, rfl⟩
  | cons site sites ih =>
      obtain ⟨hfirst, hothers⟩ := List.pairwise_cons.mp hapart
      rcases guardHandlers_cons p target site sites with
        ⟨hskipped, heq⟩ | ⟨handler, hguardable, hhandler, hresult⟩
      · have hnot : site.isGuardable = false := by
          rcases hskipped with h | h
          · exact h
          · cases hguardable : site.isGuardable with
            | false => rfl
            | true =>
                obtain ⟨handler, hhandler, -⟩ := hsound site (by simp) hguardable
                simp [h] at hhandler
        obtain ⟨q, hq⟩ := ih hwf (fun s hs => hsound s (List.mem_cons_of_mem _ hs)) hothers
        exact ⟨q, by rw [heq, hq]; simp [hnot]⟩
      · obtain ⟨handler', hhandler', hcovers, hkey, hfree⟩ := hsound site (by simp) hguardable
        obtain rfl : handler = handler' := by simpa [hhandler] using hhandler'
        obtain ⟨next, hnext⟩ : ∃ next, p.guardHandler target site handler = .ok next :=
          ⟨_, guardHandler_eq_ok_iff.mpr ⟨hkey, hwf.overwriteWith_eq_ok_iff.mpr
            ⟨hcovers, piecesFit_guardedPieces hcovers, hfree, rfl⟩⟩⟩
        have hoverwrite := (guardHandler_eq_ok_iff.mp hnext).2
        have hsource := source_overwriteWith hoverwrite
        have hsound' : ∀ s ∈ sites, s.isGuardable = true → ∃ handler',
            s.handler = some handler' ∧ next.source.covers handler' = true ∧
              (∃ key, s.keyText next.source = some key) ∧
              ∀ e ∈ next.edits, e.span.Apart handler' := by
          intro s hs hguardable'
          obtain ⟨handler', hhandler', hcovers', hkey', hfree'⟩ :=
            hsound s (List.mem_cons_of_mem _ hs) hguardable'
          rw [hsource]
          have hnew := hfirst s hs hguardable hguardable' handler hhandler handler' hhandler'
          exact ⟨handler', hhandler', hcovers', hkey',
            apart_of_mem_overwriteWith hoverwrite hnew hfree'⟩
        obtain ⟨q, hq⟩ := ih (hwf.overwriteWith hoverwrite) hsound' hothers
        rcases hresult with ⟨next', hnext', heq⟩ | ⟨e, herror, -⟩
        · obtain rfl : next = next' := by simpa [hnext] using hnext'
          exact ⟨q, by rw [heq, hq]; simp [hguardable, Except.map]⟩
        · simp [hnext] at herror

theorem overlap_of_guardHandler {p : Patch} {target : Target} {site : CallSite}
    {handler recorded requested : Span} (hwf : p.WellFormed)
    (h : p.guardHandler target site handler = .error (.overlap recorded requested)) :
    ∃ e ∈ p.edits, ¬e.span.Apart handler := by
  rcases bind_eq_error_iff.mp h with h | ⟨key, -, h⟩
  · unfold keyText at h
    split at h
    · simp at h
    · unfold read at h
      split at h <;> simp [Except.map] at h
  · obtain ⟨-, e, he, -, hoverlaps⟩ := hwf.overlap_of_overwriteWith h
    exact ⟨e, he, hoverlaps⟩

/-- Handlers that do not overlap one another or an earlier edit are not refused for an overlap, whatever
else may be wrong with their ranges. -/
theorem guardHandlers_ne_overlap {p : Patch} {target : Target} {sites : List CallSite}
    {recorded requested : Span} (hwf : p.WellFormed)
    (hfree : ∀ site ∈ sites, site.isGuardable = true → ∀ handler ∈ site.handler,
      ∀ e ∈ p.edits, e.span.Apart handler)
    (hapart : sites.Pairwise fun a b => a.isGuardable = true → b.isGuardable = true →
      ∀ s ∈ a.handler, ∀ s' ∈ b.handler, s.Apart s') :
    (p.guardHandlers target sites).2 ≠ .error (.overlap recorded requested) := by
  induction sites generalizing p with
  | nil => simp [guardHandlers]
  | cons site sites ih =>
      obtain ⟨hfirst, hothers⟩ := List.pairwise_cons.mp hapart
      have hfree' : ∀ s ∈ sites, s.isGuardable = true → ∀ handler ∈ s.handler,
          ∀ e ∈ p.edits, e.span.Apart handler := by
        intro s hs
        exact hfree s (List.mem_cons_of_mem _ hs)
      rcases guardHandlers_cons p target site sites with
        ⟨-, heq⟩ | ⟨handler, hguardable, hhandler, ⟨next, hnext, heq⟩ | ⟨e, herror, heq⟩⟩
      · rw [heq]
        exact ih hwf hfree' hothers
      · have hoverwrite := (guardHandler_eq_ok_iff.mp hnext).2
        have hfreeNext : ∀ s ∈ sites, s.isGuardable = true → ∀ handler' ∈ s.handler,
            ∀ e ∈ next.edits, e.span.Apart handler' := by
          intro s hs hguardable' handler' hhandler'
          exact apart_of_mem_overwriteWith hoverwrite
            (hfirst s hs hguardable hguardable' handler hhandler handler' hhandler')
            (hfree' s hs hguardable' handler' hhandler')
        have hkept := ih (hwf.overwriteWith hoverwrite) hfreeNext hothers
        rw [heq]
        intro h
        cases hcount : (next.guardHandlers target sites).2 with
        | ok n => simp [hcount, Except.map] at h
        | error e =>
            simp only [hcount, Except.map, Except.error.injEq] at h
            exact hkept (hcount.trans (congrArg _ h))
      · rw [heq]
        rintro ⟨⟩
        obtain ⟨edit, hedit, hoverlaps⟩ := overlap_of_guardHandler hwf herror
        exact hoverlaps (hfree site (by simp) hguardable handler hhandler edit hedit)

end Patch

end HandlerGuard
