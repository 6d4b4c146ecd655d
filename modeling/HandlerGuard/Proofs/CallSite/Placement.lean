import HandlerGuard.Proofs.CallSite.Disjointness
import HandlerGuard.Proofs.Script.Grammar.Statement

namespace HandlerGuard

open Script

namespace CallSite

section

variable {name guard source : Text} {t : Tree} {p q : Path} {site site' : CallSite} {s s' : Span}

theorem exists_handler_at (hp : siteAt name guard source false t p = some site)
    (hs : site.handler = some s) :
    ∃ handler, t.at? (p ++ [.argument 1]) = some handler ∧ handler.span = s := by
  obtain ⟨c, hcall, -, -, hhandler, -⟩ := exists_call_of_siteAt hp
  rw [hhandler] at hs
  obtain ⟨handler, hargument, hspan⟩ := argumentSpan_eq_some hs
  refine ⟨handler, ?_, hspan⟩
  rw [Tree.at?_concat (Tree.mem_calls_iff.mp hcall)]
  exact hargument

theorem handlers_apart_of_lies {lo hi : Nat} (hlies : t.Lies source lo hi)
    (hp : siteAt name guard source false t p = some site)
    (hguards : site.status.guardsHandler = true) (hs : site.handler = some s)
    (hq : siteAt name guard source false t q = some site')
    (hguards' : site'.status.guardsHandler = true) (hs' : site'.handler = some s')
    (hne : p ≠ q) : s.Apart s' := by
  obtain ⟨handler, hhandler, rfl⟩ := exists_handler_at hp hs
  obtain ⟨handler', hhandler', rfl⟩ := exists_handler_at hq hs'
  refine hlies.apart hhandler hhandler' ?_ ?_
  · intro hbelow
    exact hne (guarding_unique hp hguards hbelow hq hguards' List.prefix_rfl)
  · intro hbelow
    exact hne (guarding_unique hp hguards List.prefix_rfl hq hguards' hbelow)

end

variable {target : Target} {language : ScriptLanguage} {source : Text} {program : Program}

theorem pairwise_handlers_apart_of_parse? (hparse : Program.parse? language source = some program) :
    (find target source program).Pairwise fun a b =>
      a.isGuardable = true → b.isGuardable = true →
        ∀ s ∈ a.handler, ∀ s' ∈ b.handler, s.Apart s' := by
  obtain ⟨hi, hlies⟩ := Program.lies_of_parse? hparse
  rw [find_eq_filterMap, List.pairwise_filterMap]
  apply (Tree.nodup_paths program.tree).pairwise_of_forall_ne
  intro p _ q _ hne site hsite site' hsite' hguardable hguardable' s hs s' hs'
  exact handlers_apart_of_lies hlies hsite (guardsHandler_of_isGuardable hguardable) hs
    hsite' (guardsHandler_of_isGuardable hguardable') hs' hne

theorem guardHandlers_ne_overlap_of_parse? (hparse : Program.parse? language source = some program)
    {recorded requested : Span} :
    ((Patch.ofText source).guardHandlers target (find target source program)).2 ≠
      .error (.overlap recorded requested) :=
  Patch.guardHandlers_ne_overlap (Patch.wellFormed_ofText source) (by simp [Patch.ofText])
    (pairwise_handlers_apart_of_parse? hparse)

theorem first_le_handler (hparse : Program.parse? language source = some program) {site : CallSite}
    (hsite : site ∈ find target source program) {handler : Span}
    (hhandler : site.handler = some handler) : Program.first source ≤ handler.start := by
  obtain ⟨path, hpath⟩ := mem_find_iff.mp hsite
  obtain ⟨part, hpart, rfl⟩ := exists_handler_at hpath hhandler
  obtain ⟨m, n, hm, hlies⟩ := Program.exists_lies_of_at? hparse (by simp) hpart
  exact hm.trans hlies.le_start

end CallSite

end HandlerGuard
