import HandlerGuard.Proofs.CallSite.Coverage

namespace HandlerGuard.CallSite

open Script

/-- The handler of the call at `outer` is guarded already, and the path leads into it. -/
def AlreadyGuards (target : Target) (source : Text) (program : Program) (outer path : Path) :
    Prop :=
  ∃ site, (outer, site) ∈ reports target source program ∧ site.status = .alreadyGuarded ∧
    outer ++ [.argument 1] <+: path

/-- The path to a part of the handler of the call at `outer`. -/
def handlerPart (outer : Path) (part : Step) : Path := outer ++ [.argument 1, part]

/-- A call that is reported as inside a handler that is guarded already stands in its consequent. -/
def InConsequents (target : Target) (source : Text) (program : Program) : Prop :=
  ∀ (path : Path) (site : CallSite) (outer : Path), (path, site) ∈ reports target source program →
    site.status = .insideGuardedHandler → AlreadyGuards target source program outer path →
      handlerPart outer .consequent <+: path

section

variable {source guard : Text} {inside : Bool} {arguments : List Tree}

theorem classify_eq_alreadyGuarded (h : classify source guard inside arguments = .alreadyGuarded) :
    ∃ handler, arguments[1]? = some handler ∧ isGuarded source guard handler = true := by
  cases inside with
  | true => simp [classify] at h
  | false =>
      rcases arguments with _ | ⟨key, _ | ⟨handler, rest⟩⟩
      · simp [classify] at h
      · simp [classify] at h
      · refine ⟨handler, rfl, ?_⟩
        cases hguarded : isGuarded source guard handler with
        | true => rfl
        | false => cases hspread : handler.isSpread <;> simp [classify, hspread, hguarded] at h

theorem isGuarded_eq_true {handler : Tree} (h : isGuarded source guard handler = true) :
    ∃ span test consequent alternate, handler = .conditional span test consequent alternate ∧
      (source.slice? test.span).map Text.trim = some guard := by
  cases handler with
  | conditional span test consequent alternate =>
      obtain ⟨written, hwritten, htrim⟩ := (Option.any_eq_true _ _).mp h
      exact ⟨span, test, consequent, alternate, rfl, by simp [hwritten, of_decide_eq_true htrim]⟩
  | identifier span name => simp [isGuarded] at h
  | call span callee types arguments optional => simp [isGuarded] at h
  | spread span argument => simp [isGuarded] at h
  | node span kind children => simp [isGuarded] at h

end

section

variable {target : Target} {source : Text} {program : Program}

theorem exists_conditional {outer : Path} {site : CallSite}
    (hreport : (outer, site) ∈ reports target source program)
    (hstatus : site.status = .alreadyGuarded) :
    ∃ span test consequent alternate,
      program.tree.at? (outer ++ [.argument 1]) =
          some (.conditional span test consequent alternate) ∧
        (source.slice? test.span).map Text.trim = some target.guard.trim := by
  obtain ⟨span, callee, types, arguments, optional, hcall, -, rfl⟩ :=
    (siteAt_eq_some_iff _ _ _).mp (mem_reports_iff.mp hreport)
  obtain ⟨handler, hhandler, hguarded⟩ := classify_eq_alreadyGuarded hstatus
  obtain ⟨span', test, consequent, alternate, rfl, htest⟩ := isGuarded_eq_true hguarded
  refine ⟨span', test, consequent, alternate, ?_, htest⟩
  rw [Tree.at?_concat hcall]
  exact hhandler

theorem at?_of_mem_reports {path : Path} {site : CallSite}
    (hreport : (path, site) ∈ reports target source program) :
    ∃ span callee types arguments optional,
      program.tree.at? path = some (.call span callee types arguments optional) := by
  obtain ⟨span, callee, types, arguments, optional, hcall, -⟩ :=
    (siteAt_eq_some_iff _ _ _).mp (mem_reports_iff.mp hreport)
  exact ⟨span, callee, types, arguments, optional, hcall⟩

theorem not_prefix_of_step_ne {path rest : Path} {s s' : Step} (hne : s ≠ s')
    (h : path ++ [s] <+: rest) : ¬path ++ [s'] <+: rest := by
  intro h'
  have heq : path ++ [s] = path ++ [s'] :=
    (List.prefix_of_prefix_length_le h h' (by simp)).eq_of_length (by simp)
  exact hne (by simpa using heq)

theorem handlerPart_eq (outer : Path) (s : Step) :
    handlerPart outer s = (outer ++ [.argument 1]) ++ [s] := by
  simp [handlerPart]

theorem handler_front (outer : Path) (s : Step) :
    outer ++ [.argument 1] <+: handlerPart outer s := by
  rw [handlerPart_eq]
  exact List.prefix_append _ _

/-- A call in a handler that is guarded already stands in exactly one of the three parts of the
conditional. -/
theorem exactlyOne_branch {outer path : Path} {site : CallSite}
    (hreport : (path, site) ∈ reports target source program)
    (hguards : AlreadyGuards target source program outer path) :
    ExactlyOne (handlerPart outer .test <+: path)
      (handlerPart outer .consequent <+: path)
      (handlerPart outer .alternate <+: path) := by
  obtain ⟨outerSite, houter, hstatus, rest, rfl⟩ := hguards
  obtain ⟨span, test, consequent, alternate, hhandler, -⟩ := exists_conditional houter hstatus
  obtain ⟨span', callee, types, arguments, optional, hcall⟩ := at?_of_mem_reports hreport
  rw [Tree.at?_append, hhandler, Option.bind_some] at hcall
  -- the conditional itself is no call, so the path goes on through one of its parts
  rcases rest with _ | ⟨step, rest⟩
  · simp at hcall
  have hhere : (outer ++ [.argument 1]) ++ [step] <+: outer ++ [.argument 1] ++ step :: rest := by
    rw [List.prefix_append_right_inj]
    exact List.prefix_iff_eq_append.mpr rfl
  have hothers : ∀ s, step ≠ s →
      ¬outer ++ [.argument 1] ++ [s] <+: outer ++ [.argument 1] ++ step :: rest :=
    fun s hne => not_prefix_of_step_ne hne hhere
  rw [handlerPart_eq, handlerPart_eq, handlerPart_eq]
  rw [Tree.at?_cons] at hcall
  cases step with
  | test => exact Or.inl ⟨hhere, hothers _ (by simp), hothers _ (by simp)⟩
  | consequent => exact Or.inr (Or.inl ⟨hothers _ (by simp), hhere, hothers _ (by simp)⟩)
  | alternate => exact Or.inr (Or.inr ⟨hothers _ (by simp), hothers _ (by simp), hhere⟩)
  | callee => simp [Tree.part?] at hcall
  | typeArgument index => simp [Tree.part?] at hcall
  | argument index => simp [Tree.part?] at hcall
  | operand => simp [Tree.part?] at hcall
  | child index => simp [Tree.part?] at hcall

theorem AlreadyGuards.guardsPath {outer path : Path}
    (h : AlreadyGuards target source program outer path) :
    GuardsPath target source program outer path := by
  obtain ⟨site, hreport, hstatus, hbelow⟩ := h
  exact ⟨site, hreport, by rw [hstatus]; rfl, hbelow⟩

theorem exists_report_of_mem_targetCalls {path : Path}
    (h : path ∈ targetCalls target.functionName program.tree) :
    ∃ site, (path, site) ∈ reports target source program := by
  obtain ⟨-, htarget⟩ := List.mem_filter.mp h
  rw [← isSome_siteAt target.functionName target.guard.trim source false] at htarget
  obtain ⟨site, hsite⟩ := Option.isSome_iff_exists.mp htarget
  exact ⟨site, mem_reports_iff.mpr hsite⟩

theorem mem_targetCalls_of_mem_reports {path : Path} {site : CallSite}
    (h : (path, site) ∈ reports target source program) :
    path ∈ targetCalls target.functionName program.tree :=
  (List.of_mem_zip h).1

end

/-- A call of the target in a handler that is guarded already is reported as behind the guard, and it
stands in exactly one of the test, the consequent and the alternate of the conditional, whose test is
written like the guard. So all calls reported for such a handler stand in the consequent if and only
if no call of the target stands in the test or in the alternate of one. -/
theorem guarded_branches (target : Target) (source : Text) (program : Program) :
    (∀ (path : Path) (site : CallSite) (outer : Path),
      (path, site) ∈ reports target source program →
      AlreadyGuards target source program outer path →
        site.status = .insideGuardedHandler ∧
        (∃ span test consequent alternate,
          program.tree.at? (outer ++ [.argument 1]) =
              some (.conditional span test consequent alternate) ∧
            (source.slice? test.span).map Text.trim = some target.guard.trim) ∧
        ExactlyOne (handlerPart outer .test <+: path)
          (handlerPart outer .consequent <+: path)
          (handlerPart outer .alternate <+: path)) ∧
      (InConsequents target source program ↔
        ∀ (outer : Path) (site : CallSite), (outer, site) ∈ reports target source program →
          site.status = .alreadyGuarded →
            ∀ path ∈ targetCalls target.functionName program.tree,
              ¬handlerPart outer .test <+: path ∧
                ¬handlerPart outer .alternate <+: path) := by
  have hinside : ∀ path site outer, (path, site) ∈ reports target source program →
      AlreadyGuards target source program outer path → site.status = .insideGuardedHandler :=
    fun path site outer hreport hguards =>
      (exists_guardsPath_iff hreport).mpr ⟨outer, hguards.guardsPath⟩
  refine ⟨?_, ?_, ?_⟩
  · intro path site outer hreport hguards
    obtain ⟨outerSite, houter, hstatus, -⟩ := id hguards
    exact ⟨hinside path site outer hreport hguards, exists_conditional houter hstatus,
      exactlyOne_branch hreport hguards⟩
  · intro hconsequents outer site houter hstatus path hpath
    obtain ⟨inner, hinner⟩ := exists_report_of_mem_targetCalls hpath
    have hnot : ∀ s, s ≠ Step.consequent → ¬handlerPart outer s <+: path := by
      intro s hne hbelow
      have hguards : AlreadyGuards target source program outer path :=
        ⟨site, houter, hstatus, (handler_front outer s).trans hbelow⟩
      have hconsequent := hconsequents path inner outer hinner
        (hinside path inner outer hinner hguards) hguards
      rw [handlerPart_eq] at hbelow hconsequent
      exact not_prefix_of_step_ne hne hbelow hconsequent
    exact ⟨hnot _ (by simp), hnot _ (by simp)⟩
  · intro hfree path site outer hreport _ hguards
    obtain ⟨outerSite, houter, hstatus, -⟩ := id hguards
    obtain ⟨htest, halternate⟩ := hfree outer outerSite houter hstatus path
      (mem_targetCalls_of_mem_reports hreport)
    rcases exactlyOne_branch hreport hguards with ⟨h, -⟩ | ⟨-, h, -⟩ | ⟨-, -, h⟩
    · exact absurd h htest
    · exact h
    · exact absurd h halternate

/-- A module with a call in the alternate of a handler that is guarded already. -/
def fallbackText : Text :=
  "usePrerenderData('a', import.meta.prerender ? f : usePrerenderData('b', g))".toList

def fallbackModule : Program := (Program.parse? .ts fallbackText).getD default

set_option maxRecDepth 10000 in
theorem exists_fallback_report : ∃ (outer path : Path) (site : CallSite),
    (path, site) ∈ reports Target.standard fallbackText fallbackModule ∧
      site.status = .insideGuardedHandler ∧
      AlreadyGuards Target.standard fallbackText fallbackModule outer path ∧
      handlerPart outer .alternate <+: path := by
  have hboth : ((reports Target.standard fallbackText fallbackModule)[0]?.any fun outer =>
      decide (outer.2.status = .alreadyGuarded) &&
        (reports Target.standard fallbackText fallbackModule)[1]?.any fun inner =>
          decide (inner.2.status = .insideGuardedHandler ∧
            handlerPart outer.1 .alternate <+: inner.1)) = true := by
    decide +kernel
  simp only [Option.any_eq_true, Bool.and_eq_true, decide_eq_true_eq] at hboth
  obtain ⟨⟨outer, outerSite⟩, hfirst, hguarded, ⟨path, site⟩, hsecond, hinside, halternate⟩ := hboth
  have houter := List.mem_of_getElem? hfirst
  have hreport := List.mem_of_getElem? hsecond
  have hguards : AlreadyGuards Target.standard fallbackText fallbackModule outer path :=
    ⟨outerSite, houter, hguarded, (handler_front outer .alternate).trans halternate⟩
  exact ⟨outer, path, site, hreport, hinside, hguards, halternate⟩

theorem fallbackModule_branches : ∃ (outer path : Path) (site : CallSite),
    (path, site) ∈ reports Target.standard fallbackText fallbackModule ∧
      AlreadyGuards Target.standard fallbackText fallbackModule outer path ∧
      site.status = .insideGuardedHandler ∧
      ExactlyOne (handlerPart outer .test <+: path)
        (handlerPart outer .consequent <+: path)
        (handlerPart outer .alternate <+: path) := by
  obtain ⟨outer, path, site, hreport, -, hguards, -⟩ := exists_fallback_report
  obtain ⟨hinside, -, hone⟩ := (guarded_branches Target.standard fallbackText fallbackModule).1
    path site outer hreport hguards
  exact ⟨outer, path, site, hreport, hguards, hinside, hone⟩

/-- The call in the alternate is reported as behind the guard, and it runs when the guard is false. -/
theorem fallbackModule_not_inConsequents :
    ¬InConsequents Target.standard fallbackText fallbackModule := by
  intro hconsequents
  obtain ⟨outer, path, site, hreport, hinside, hguards, halternate⟩ := exists_fallback_report
  have hconsequent := hconsequents path site outer hreport hinside hguards
  rw [handlerPart_eq] at halternate hconsequent
  exact not_prefix_of_step_ne (by simp) halternate hconsequent

end HandlerGuard.CallSite
