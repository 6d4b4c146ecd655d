import HandlerGuard.Proofs.CallSite.Occurrence
import HandlerGuard.Proofs.Patch.Recording
import HandlerGuard.Proofs.Script.Grammar.Statement
import HandlerGuard.Proofs.Text.Infix
import HandlerGuard.Transform

namespace HandlerGuard

open Script

theorem Script.Spells.escaped_of_infix {text written name : Text} (h : Spells written name)
    (hin : written <:+: text) (hmissing : ¬name <:+: text) : escapeMark <:+: written := by
  by_contra hplain
  have hname : written = name := h.eq_of_no_escape hplain
  rw [hname] at hin
  exact hmissing hin

theorem Script.Spells.escaped {source written name : Text} {span : Span}
    (h : Spells written name) (hslice : source.slice? span = some written)
    (hmissing : ¬name <:+: source) : escapeMark <:+: written :=
  h.escaped_of_infix (Text.infix_of_slice? hslice) hmissing

namespace CallSite

theorem spelled_callee {target : Target} {language : ScriptLanguage} {source : Text}
    {program : Program} (hparse : Program.parse? language source = some program) {path : Path}
    {site : CallSite} (hreport : (path, site) ∈ reports target source program) :
    ∃ span, program.tree.at? (path ++ [.callee]) = some (.identifier span target.functionName) ∧
      Spelled source span target.functionName := by
  obtain ⟨_, callee, types, arguments, optional, hcall, htarget, -⟩ :=
    (siteAt_eq_some_iff _ _ _).mp (mem_reports_iff.mp hreport)
  obtain ⟨-, span, rfl⟩ := isTarget_iff.mp htarget
  have hcallee := Tree.at?_concat hcall .callee
  exact ⟨span, hcallee, Program.namesSpelled_of_parse? hparse _ _ _ hcallee⟩

theorem exists_report_of_mem_find {target : Target} {source : Text} {program : Program}
    {site : CallSite} (h : site ∈ find target source program) :
    ∃ path, (path, site) ∈ reports target source program := by
  obtain ⟨path, hsite⟩ := mem_find_iff.mp h
  exact ⟨path, mem_reports_iff.mpr hsite⟩

end CallSite

namespace Transformer

theorem functionName_of_ofTarget {target : Target} {mode : BuildMode} {t : Transformer}
    (h : ofTarget target mode = .ok t) : t.filter.functionName = target.functionName := by
  simp only [ofTarget, ModuleFilter.ofTarget, bind_eq_ok_iff] at h
  obtain ⟨-, -, filter, ⟨included, -, excluded, -, hfilter⟩, ht⟩ := h
  rw [← Except.ok.inj ht, ← Except.ok.inj hfilter]

theorem isCandidate_of_scan {t : Transformer} {id code : Text}
    (h : t.scan id code = .error .noCandidateText) : t.filter.isCandidate code = false := by
  unfold scan ModuleFilter.admission at h
  dsimp only at h
  cases hkind : (t.filter.classify id).language? with
  | none => simp [hkind] at h
  | some language =>
      cases hcandidate : t.filter.isCandidate code with
      | false => rfl
      | true =>
          simp only [hkind, hcandidate, if_true] at h
          split at h <;> simp at h

/-- A module is passed over without parsing only if the name of the function is not in its text. If
it can be parsed, the name of each call of the function is spelled at the callee, and of a call that
is passed over it is spelled with an escape. If the text has no escape, no call is passed over. -/
theorem missed_calls_escaped (target : Target) (mode : BuildMode) (t : Transformer)
    (language : ScriptLanguage) (source : Text) (program : Program)
    (ht : ofTarget target mode = .ok t)
    (hparse : Program.parse? language source = some program) :
    (t.filter.isCandidate source = true ↔ target.functionName <:+: source) ∧
      (∀ id, t.scan id source = .error .noCandidateText → t.filter.isCandidate source = false) ∧
      (∀ (path : Path) (site : CallSite), (path, site) ∈ CallSite.reports target source program →
        ∃ span written,
          program.tree.at? (path ++ [.callee]) = some (.identifier span target.functionName) ∧
          source.slice? span = some written ∧
          Spells written target.functionName ∧
          (t.filter.isCandidate source = false → escapeMark <:+: written)) ∧
      (t.filter.isCandidate source = false → ¬escapeMark <:+: source →
        CallSite.find target source program = []) := by
  have hcandidate : t.filter.isCandidate source = true ↔ target.functionName <:+: source := by
    rw [ModuleFilter.isCandidate, functionName_of_ofTarget ht, Text.includes_iff]
  have hmissing : t.filter.isCandidate source = false → ¬target.functionName <:+: source := by
    rw [← hcandidate]
    simp
  refine ⟨hcandidate, fun id => isCandidate_of_scan, ?_, ?_⟩
  · intro path site hreport
    obtain ⟨span, hcallee, written, hslice, hspells⟩ := CallSite.spelled_callee hparse hreport
    exact ⟨span, written, hcallee, hslice, hspells, fun h => hspells.escaped hslice (hmissing h)⟩
  · intro hskipped hplain
    rw [List.eq_nil_iff_forall_not_mem]
    intro site hsite
    obtain ⟨path, hreport⟩ := CallSite.exists_report_of_mem_find hsite
    obtain ⟨span, -, written, hslice, hspells⟩ := CallSite.spelled_callee hparse hreport
    have hescaped := hspells.escaped hslice (hmissing hskipped)
    exact hplain (hescaped.trans (Text.infix_of_slice? hslice))

/-- A module with one call, whose name is written with an escape. -/
def escapedText : Text := "\\u0075sePrerenderData('k', f)".toList

set_option maxRecDepth 10000 in
theorem exists_escaped_report :
    ∃ (t : Transformer) (program : Program) (path : Path) (site : CallSite),
    ofTarget Target.standard .production = .ok t ∧
      t.scan "/app/a.ts".toList escapedText = .error .noCandidateText ∧
      Program.parse? .ts escapedText = some program ∧
      (path, site) ∈ CallSite.reports Target.standard escapedText program ∧
      site.isGuardable = true := by
  have hrun : ((ofTarget Target.standard .production).toOption.any fun t =>
        decide (t.scan "/app/a.ts".toList escapedText = .error .noCandidateText)) = true ∧
      ((Program.parse? .ts escapedText).any fun program =>
        (CallSite.reports Target.standard escapedText program)[0]?.any fun report =>
          report.2.isGuardable) = true := by
    decide +kernel
  obtain ⟨hready, hparsed⟩ := hrun
  cases ht : ofTarget Target.standard .production with
  | error e => simp [ht, Except.toOption] at hready
  | ok t =>
      obtain ⟨program, hparse, h⟩ := (Option.any_eq_true _ _).mp hparsed
      obtain ⟨⟨path, site⟩, hreport, hguardable⟩ := (Option.any_eq_true _ _).mp h
      simp only [ht, Except.toOption, Option.any_some, decide_eq_true_eq] at hready
      exact ⟨t, program, path, site, rfl, hready, hparse, List.mem_of_getElem? hreport, hguardable⟩

theorem escapedText_spelling :
    ∃ (t : Transformer) (program : Program) (path : Path) (site : CallSite) (span : Span)
      (written : Text),
    ofTarget Target.standard .production = .ok t ∧
      Program.parse? .ts escapedText = some program ∧
      (path, site) ∈ CallSite.reports Target.standard escapedText program ∧
      program.tree.at? (path ++ [.callee]) =
        some (.identifier span Target.standard.functionName) ∧
      escapedText.slice? span = some written ∧
      Spells written Target.standard.functionName ∧
      escapeMark <:+: written := by
  obtain ⟨t, program, path, site, ht, hscan, hparse, hreport, -⟩ := exists_escaped_report
  obtain ⟨-, hskips, hcalls, -⟩ := missed_calls_escaped Target.standard .production t .ts
    escapedText program ht hparse
  obtain ⟨span, written, hcallee, hslice, hspells, hescaped⟩ := hcalls path site hreport
  exact ⟨t, program, path, site, span, written, ht, hparse, hreport, hcallee, hslice, hspells,
    hescaped (hskips _ hscan)⟩

/-- The module is passed over for its text, and parsing finds a handler to be guarded in it. -/
theorem escapedText_missed : ∃ (t : Transformer) (program : Program) (site : CallSite),
    ofTarget Target.standard .production = .ok t ∧
      t.scan "/app/a.ts".toList escapedText = .error .noCandidateText ∧
      t.filter.isCandidate escapedText = false ∧
      Program.parse? .ts escapedText = some program ∧
      site ∈ CallSite.find Target.standard escapedText program ∧
      site.isGuardable = true := by
  obtain ⟨t, program, path, site, ht, hscan, hparse, hreport, hguardable⟩ := exists_escaped_report
  have hfound : site ∈ CallSite.find Target.standard escapedText program :=
    CallSite.mem_find_iff.mpr ⟨path, CallSite.mem_reports_iff.mp hreport⟩
  exact ⟨t, program, site, ht, hscan, isCandidate_of_scan hscan, hparse, hfound, hguardable⟩

end Transformer

end HandlerGuard
