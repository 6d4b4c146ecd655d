import Mathlib.Data.List.Pairwise
import HandlerGuard.Proofs.CallSite.Coverage
import HandlerGuard.Proofs.CallSite.Guarding

namespace HandlerGuard.Script

/-- A call expression. -/
structure Call where
  span : Span
  callee : Tree
  typeArguments : List Tree
  arguments : List Tree
  optional : Bool

def Call.tree (c : Call) : Tree := .call c.span c.callee c.typeArguments c.arguments c.optional

namespace Tree

def call? : Tree → Option Call
  | call span callee types arguments optional => some ⟨span, callee, types, arguments, optional⟩
  | _ => none

def calls (t : Tree) : List (Path × Call) :=
  t.paths.filterMap fun path => ((t.at? path).bind call?).map (path, ·)

theorem mem_calls_iff {t : Tree} {path : Path} {c : Call} :
    (path, c) ∈ t.calls ↔ t.at? path = some c.tree := by
  simp only [calls, List.mem_filterMap, Option.map_eq_some_iff, Option.bind_eq_some_iff,
    Prod.mk.injEq]
  constructor
  · rintro ⟨path', -, c', ⟨part, hpart, hcall⟩, rfl, rfl⟩
    cases part with
    | call span callee types arguments optional =>
        obtain rfl := Option.some.inj hcall
        exact hpart
    | identifier span name => simp [call?] at hcall
    | conditional span test consequent alternate => simp [call?] at hcall
    | spread span argument => simp [call?] at hcall
    | node span kind children => simp [call?] at hcall
  · intro h
    exact ⟨path, mem_paths_iff.mpr (by simp [h]), c, ⟨c.tree, h, rfl⟩, rfl, rfl⟩

/-- How the ranges of the calls in a tree lie in its text. -/
structure SpansFit (source : Text) (t : Tree) : Prop where
  /-- Calls cover text. -/
  covered : ∀ c ∈ t.calls, source.covers c.2.span = true
  /-- Arguments cover text of their call. -/
  arguments_covered : ∀ c ∈ t.calls, ∀ a ∈ c.2.arguments,
    source.covers a.span = true ∧ a.span.within c.2.span = true
  /-- The callee, the type arguments and the arguments of a call do not overlap. -/
  parts_apart : ∀ c ∈ t.calls, c.2.tree.parts.Pairwise fun a b => a.2.span.Apart b.2.span
  /-- A call in a part of another lies in the range of that part. -/
  nested : ∀ c ∈ t.calls, ∀ part ∈ c.2.tree.parts, ∀ d ∈ t.calls,
    c.1 ++ [part.1] <+: d.1 → d.2.span.within part.2.span = true
  /-- Calls neither of which is in the other do not overlap. -/
  apart : ∀ c ∈ t.calls, ∀ d ∈ t.calls, ¬c.1 <+: d.1 → ¬d.1 <+: c.1 →
    c.2.span.Apart d.2.span

instance (source : Text) (t : Tree) : Decidable (t.SpansFit source) :=
  decidable_of_iff
    ((∀ c ∈ t.calls, source.covers c.2.span = true) ∧
      (∀ c ∈ t.calls, ∀ a ∈ c.2.arguments,
        source.covers a.span = true ∧ a.span.within c.2.span = true) ∧
      (∀ c ∈ t.calls, c.2.tree.parts.Pairwise fun a b => a.2.span.Apart b.2.span) ∧
      (∀ c ∈ t.calls, ∀ part ∈ c.2.tree.parts, ∀ d ∈ t.calls,
        c.1 ++ [part.1] <+: d.1 → d.2.span.within part.2.span = true) ∧
      ∀ c ∈ t.calls, ∀ d ∈ t.calls, ¬c.1 <+: d.1 → ¬d.1 <+: c.1 → c.2.span.Apart d.2.span)
    ⟨fun ⟨h₁, h₂, h₃, h₄, h₅⟩ => ⟨h₁, h₂, h₃, h₄, h₅⟩,
      fun ⟨h₁, h₂, h₃, h₄, h₅⟩ => ⟨h₁, h₂, h₃, h₄, h₅⟩⟩

end Tree

end HandlerGuard.Script

namespace HandlerGuard.CallSite

open Script

section

variable {name guard source : Text} {t : Tree}

theorem exists_call_of_siteAt {inside : Bool} {path : Path} {site : CallSite}
    (hsite : siteAt name guard source inside t path = some site) :
    ∃ c : Call, (path, c) ∈ t.calls ∧ site.span = c.span ∧
      site.key = argumentSpan c.arguments[0]? ∧ site.handler = argumentSpan c.arguments[1]? ∧
      site.status = classify source guard (insideAt name guard source inside t path) c.arguments := by
  obtain ⟨span, callee, types, arguments, optional, hpart, -, rfl⟩ :=
    (siteAt_eq_some_iff name guard source).mp hsite
  exact ⟨⟨span, callee, types, arguments, optional⟩, Tree.mem_calls_iff.mpr hpart,
    rfl, rfl, rfl, rfl⟩

theorem argumentSpan_eq_some {argument : Option Tree} {s : Span}
    (h : argumentSpan argument = some s) : ∃ a, argument = some a ∧ a.span = s := by
  cases argument with
  | none => simp [argumentSpan] at h
  | some a =>
      refine ⟨a, rfl, ?_⟩
      cases a with
      | spread span argument => simp [argumentSpan] at h
      | identifier span name => exact Option.some.inj h
      | call span callee types arguments optional => exact Option.some.inj h
      | conditional span test consequent alternate => exact Option.some.inj h
      | node span kind children => exact Option.some.inj h

theorem exists_handler_of_classify {inside : Bool} {arguments : List Tree}
    (h : classify source guard inside arguments = .guardable) :
    ∃ handler, arguments[1]? = some handler ∧
      argumentSpan arguments[1]? = some handler.span := by
  rcases arguments with _ | ⟨key, _ | ⟨handler, rest⟩⟩
  · cases inside <;> simp [classify] at h
  · cases inside <;> simp [classify] at h
  · refine ⟨handler, rfl, ?_⟩
    have hspread : handler.isSpread = false := by
      cases inside with
      | true => simp [classify] at h
      | false =>
          cases hspread : handler.isSpread with
          | false => rfl
          | true => simp [classify, hspread] at h
    cases handler <;> simp_all [argumentSpan, Tree.isSpread]

theorem handler_within {path : Path} {site : CallSite} {s : Span} (hfit : t.SpansFit source)
    (hsite : siteAt name guard source false t path = some site) (hs : site.handler = some s) :
    source.covers s = true ∧ s.within site.span = true := by
  obtain ⟨c, hcall, hspan, -, hhandler, -⟩ := exists_call_of_siteAt hsite
  rw [hhandler] at hs
  obtain ⟨a, ha, rfl⟩ := argumentSpan_eq_some hs
  rw [hspan]
  exact hfit.arguments_covered _ hcall a (List.mem_of_getElem? ha)

theorem handlers_apart_of_nested {p q : Path} {site site' : CallSite} {s s' : Span}
    (hfit : t.SpansFit source)
    (hp : siteAt name guard source false t p = some site)
    (hguards : site.status.guardsHandler = true) (hs : site.handler = some s)
    (hq : siteAt name guard source false t q = some site')
    (hguards' : site'.status.guardsHandler = true) (hs' : site'.handler = some s')
    (hbelow : p <+: q) (hne : p ≠ q) : s.Apart s' := by
  obtain ⟨rest, rfl⟩ := hbelow
  rcases rest with _ | ⟨step, rest⟩
  · simp at hne
  obtain ⟨c, hcall, -, -, hhandler, -⟩ := exists_call_of_siteAt hp
  obtain ⟨d, hinner, hspan', -⟩ := exists_call_of_siteAt hq
  rw [hhandler] at hs
  obtain ⟨handler, hargument, rfl⟩ := argumentSpan_eq_some hs
  have hhandlerPart : (Step.argument 1, handler) ∈ c.tree.parts :=
    Tree.mem_parts_iff.mpr hargument
  have hbelow : p ++ [step] <+: p ++ step :: rest := by
    rw [List.prefix_append_right_inj]
    exact List.prefix_iff_eq_append.mpr rfl
  -- the inner call stands in some part, which is not the handler
  obtain ⟨part, hpart⟩ : ∃ part, (step, part) ∈ c.tree.parts := by
    have hat := Tree.mem_calls_iff.mp hinner
    rw [Tree.at?_append, Tree.mem_calls_iff.mp hcall, Option.bind_some, Tree.at?_cons] at hat
    obtain ⟨part, hpart, -⟩ := Option.bind_eq_some_iff.mp hat
    exact ⟨part, Tree.mem_parts_iff.mpr hpart⟩
  have hstep : Step.argument 1 ≠ step := by
    rintro rfl
    exact not_prefix_of_guardsHandler hp hguards hq hguards' hbelow
  have hsymm : Std.Symm fun a b : Step × Tree => a.2.span.Apart b.2.span :=
    ⟨fun _ _ h => h.symm⟩
  have hpartsApart : handler.span.Apart part.span :=
    (hfit.parts_apart _ hcall).forall hhandlerPart hpart
      (fun heq => hstep (congrArg Prod.fst heq))
  have hinside : site'.span.within part.span = true := by
    rw [hspan']
    exact hfit.nested _ hcall _ hpart _ hinner hbelow
  have hwithin : s'.within site'.span = true := (handler_within hfit hq hs').2
  rw [Span.within_iff] at hinside hwithin
  exact hpartsApart.of_within (Span.within_refl _) (Span.within_iff.mpr (by omega))

theorem handlers_apart {p q : Path} {site site' : CallSite} {s s' : Span}
    (hfit : t.SpansFit source)
    (hp : siteAt name guard source false t p = some site)
    (hguards : site.status.guardsHandler = true) (hs : site.handler = some s)
    (hq : siteAt name guard source false t q = some site')
    (hguards' : site'.status.guardsHandler = true) (hs' : site'.handler = some s')
    (hne : p ≠ q) : s.Apart s' := by
  by_cases hbelow : p <+: q
  · exact handlers_apart_of_nested hfit hp hguards hs hq hguards' hs' hbelow hne
  by_cases hbelow' : q <+: p
  · exact (handlers_apart_of_nested hfit hq hguards' hs' hp hguards hs hbelow' hne.symm).symm
  obtain ⟨c, hcall, hspan, -⟩ := exists_call_of_siteAt hp
  obtain ⟨d, hcall', hspan', -⟩ := exists_call_of_siteAt hq
  have hapart : site.span.Apart site'.span := by
    rw [hspan, hspan']
    exact hfit.apart _ hcall _ hcall' hbelow hbelow'
  exact hapart.of_within (handler_within hfit hp hs).2 (handler_within hfit hq hs').2

end

theorem guardsHandler_of_isGuardable {site : CallSite} (h : site.isGuardable = true) :
    site.status.guardsHandler = true := by
  have hstatus : site.status = .guardable := by simpa [isGuardable] using h
  rw [hstatus]
  rfl

theorem exists_handler_of_isGuardable {name guard source : Text} {t : Tree} {path : Path}
    {site : CallSite} (hsite : siteAt name guard source false t path = some site)
    (h : site.isGuardable = true) : ∃ handler, site.handler = some handler := by
  obtain ⟨c, -, -, -, hhandler, hstatus⟩ := exists_call_of_siteAt hsite
  have hguardable : site.status = .guardable := by simpa [isGuardable] using h
  obtain ⟨handler, -, hspan⟩ := exists_handler_of_classify (hstatus.symm.trans hguardable)
  exact ⟨handler.span, hhandler.trans hspan⟩

theorem exists_handler_of_mem_find {target : Target} {source : Text} {program : Program}
    {site : CallSite} (hmem : site ∈ find target source program) (h : site.isGuardable = true) :
    ∃ handler, site.handler = some handler := by
  obtain ⟨path, hsite⟩ := mem_find_iff.mp hmem
  exact exists_handler_of_isGuardable hsite h

theorem exists_keyText {name guard source : Text} {t : Tree} {path : Path} {site : CallSite}
    (hfit : t.SpansFit source) (hsite : siteAt name guard source false t path = some site) :
    ∃ key, site.keyText source = some key := by
  obtain ⟨c, hcall, -, hkey, -⟩ := exists_call_of_siteAt hsite
  rw [keyText, hkey]
  cases hargument : argumentSpan c.arguments[0]? with
  | none => exact ⟨none, rfl⟩
  | some s =>
      obtain ⟨a, ha, rfl⟩ := argumentSpan_eq_some hargument
      obtain ⟨text, htext⟩ := Text.exists_slice?_of_covers
        (hfit.arguments_covered _ hcall a (List.mem_of_getElem? ha)).1
      exact ⟨some text, by simp [htext]⟩

theorem pairwise_handlers_apart {target : Target} {source : Text} {program : Program}
    (hfit : program.tree.SpansFit source) :
    (find target source program).Pairwise fun a b =>
      a.isGuardable = true → b.isGuardable = true →
        ∀ s ∈ a.handler, ∀ s' ∈ b.handler, s.Apart s' := by
  rw [find_eq_filterMap, List.pairwise_filterMap]
  apply (Tree.nodup_paths program.tree).pairwise_of_forall_ne
  intro p _ q _ hne site hsite site' hsite' hguardable hguardable' s hs s' hs'
  exact handlers_apart hfit hsite (guardsHandler_of_isGuardable hguardable) hs
    hsite' (guardsHandler_of_isGuardable hguardable') hs' hne

theorem guardHandlers_find_eq_ok (target : Target) {source : Text} {program : Program}
    (hfit : program.tree.SpansFit source) :
    ∃ patch, (Patch.ofText source).guardHandlers target (find target source program) =
      (patch, .ok ((find target source program).countP isGuardable)) := by
  apply Patch.guardHandlers_of_apart (Patch.wellFormed_ofText source)
  · intro site hmem hguardable
    obtain ⟨path, hsite⟩ := mem_find_iff.mp hmem
    obtain ⟨handler, hhandler⟩ := exists_handler_of_isGuardable hsite hguardable
    exact ⟨handler, hhandler, (handler_within hfit hsite hhandler).1,
      exists_keyText hfit hsite, by simp [Patch.ofText]⟩
  · exact pairwise_handlers_apart hfit

/-- The handlers of the guardable calls do not overlap, and on the module's own text all of them are
put under the guard: no edit is refused and every key can be read. What is recorded then is one edit for
each guardable call, with the guard before its handler and the fallback after it, and nothing else. -/
theorem guardHandlers_never_refused (target : Target) (source : Text) (program : Program)
    (hfit : program.tree.SpansFit source) :
    (∀ site ∈ find target source program, site.isGuardable = true →
        ∃ handler, site.handler = some handler) ∧
      ((find target source program).filter isGuardable).Pairwise (fun a b =>
        ∀ s ∈ a.handler, ∀ s' ∈ b.handler, s.Apart s') ∧
      ∃ patch, (Patch.ofText source).guardHandlers target (find target source program) =
          (patch, .ok ((find target source program).filter isGuardable).length) ∧
        patch.source = source ∧ patch.lead = [] ∧
        patch.edits.Perm (Patch.guardEdits target source (find target source program)) := by
  refine ⟨fun _ hmem hguardable => exists_handler_of_mem_find hmem hguardable, ?_, ?_⟩
  · rw [List.pairwise_filter]
    exact pairwise_handlers_apart hfit
  · obtain ⟨patch, hpatch⟩ := guardHandlers_find_eq_ok target hfit
    obtain ⟨-, hsource, hlead, hperm, -⟩ :=
      Patch.guardHandlers_eq_ok (Patch.wellFormed_ofText source) hpatch
    rw [List.countP_eq_length_filter] at hpatch
    exact ⟨patch, hpatch, hsource, hlead, by simpa [Patch.ofText] using hperm⟩

set_option maxRecDepth 10000 in
theorem guardHandlers_nestedModule :
    nestedModule.tree.SpansFit nestedText ∧
      ∃ patch, (Patch.ofText nestedText).guardHandlers Target.standard
          (find Target.standard nestedText nestedModule) = (patch, .ok 3) ∧
        patch.edits.Perm
          (Patch.guardEdits Target.standard nestedText
            (find Target.standard nestedText nestedModule)) ∧
        patch.edits.length = 3 := by
  obtain ⟨hfit, hcount, hlength⟩ : nestedModule.tree.SpansFit nestedText ∧
      ((find Target.standard nestedText nestedModule).filter isGuardable).length = 3 ∧
      (Patch.guardEdits Target.standard nestedText
        (find Target.standard nestedText nestedModule)).length = 3 := by
    decide +kernel
  obtain ⟨-, -, patch, hpatch, -, -, hperm⟩ :=
    guardHandlers_never_refused Target.standard nestedText nestedModule hfit
  rw [hcount] at hpatch
  exact ⟨hfit, patch, hpatch, hperm, hperm.length_eq.trans hlength⟩

end HandlerGuard.CallSite
