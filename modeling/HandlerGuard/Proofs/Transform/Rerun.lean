import HandlerGuard.Proofs.CallSite.Settling
import HandlerGuard.Proofs.Target.Validation
import HandlerGuard.Proofs.Transform.Agreement
import HandlerGuard.Proofs.Transform.Candidate

namespace HandlerGuard

open Script

theorem Text.infix_weave {t : Text} {n : Nat} (f : Nat → Text) (h : t.isBoundary n = true) :
    f n <:+: t.weave f := by
  obtain ⟨left, right, rfl, rfl⟩ := Text.isBoundary_iff.mp h
  rw [weave, weaveFrom_append, Nat.zero_add]
  cases right with
  | nil => exact ⟨weaveFrom f 0 left, [], by simp [weaveFrom]⟩
  | cons c right =>
      refine ⟨weaveFrom f 0 left, c :: weaveFrom f (left.byteLength + c.utf8Size) right ++
        f (left ++ c :: right).byteLength, ?_⟩
      simp [weaveFrom]

namespace CallSite

theorem ofTrees_append (name guard source : Text) (inside : Bool) (a b : List Tree) :
    ofTrees name guard source inside (a ++ b) =
      ofTrees name guard source inside a ++ ofTrees name guard source inside b := by
  induction a with
  | nil => rfl
  | cons t a ih => simp [ofTrees, ih]

/-- A module is read back after its handlers were put under the guard: behind some statements without
a call of the function stand its own, in which a conditional stands in place of each handler. The test
of the conditional is written like the guard, and what nothing was put into is written as before. -/
structure ReadsBack (target : Target) (before after : Text) (program again : Program)
    (lead : List Tree) (w : Wrapping) : Prop where
  statements : again.statements =
    lead ++ (program.wrap (isChosen target before program) w).statements
  silent : ofTrees target.functionName target.guard.trim after false lead = []
  tested : ∀ path, isChosen target before program path = true →
    ∃ written, after.slice? (w.test path).span = some written ∧
      written.trim = target.guard.trim
  copied : ∀ path part, program.tree.at? path = some part →
    (∀ inner, path <+: inner → isChosen target before program inner = false) →
      after.slice? (w.span path) = before.slice? part.span

section

variable {target : Target} {before after : Text} {program again : Program} {lead : List Tree}
  {w : Wrapping}

theorem ReadsBack.keepsTests (h : ReadsBack target before after program again lead w) :
    KeepsTests target.guard.trim before after (isChosen target before program) program.tree w where
  inserted := h.tested
  kept := fun path test htest hfree => h.copied (path ++ [.test]) test htest hfree

theorem ReadsBack.not_guardable (h : ReadsBack target before after program again lead w)
    {site : CallSite} (hsite : site ∈ find target after again) : site.isGuardable = false := by
  rw [find, h.statements, ofTrees_append, h.silent, List.nil_append] at hsite
  have hsite : site ∈ find target after (program.wrap (isChosen target before program) w) := hsite
  obtain ⟨path, hpath⟩ := mem_find_iff.mp hsite
  rw [siteAt_wrap] at hpath
  have hchosen := isChosen_eq target before program
  have hstatus : site.status ≠ .guardable := by
    rcases origin_of_siteAt_wrap hchosen h.keepsTests hpath with
      ⟨old, site', -, -, hsettled⟩ | ⟨call, hcall, hinserted⟩
    · rw [hsettled]
      exact CallStatus.settled_ne_guardable site'.status
    · rw [status_of_inInserted hchosen h.keepsTests hpath hcall hinserted]
      decide
  simpa [isGuardable] using hstatus

theorem isChosen_eq_false_of_identifier {path inner : Path} {span : Span} {name : Text}
    (hname : program.tree.at? path = some (.identifier span name)) (hbelow : path <+: inner) :
    isChosen target before program inner = false := by
  obtain ⟨rest, rfl⟩ := hbelow
  rw [isChosen_eq, guardableAt]
  have hnone : siteAt target.functionName target.guard.trim before false program.tree
      (path ++ rest) = none := by
    rw [siteAt, Tree.at?_append, hname, Option.bind_some]
    cases rest with
    | nil => rfl
    | cons step rest => cases step <;> rfl
  rw [hnone]
  rfl

theorem ReadsBack.copied_name (h : ReadsBack target before after program again lead w)
    {path : Path} {span : Span} {name written : Text}
    (hname : program.tree.at? path = some (.identifier span name))
    (hwritten : before.slice? span = some written) : written <:+: after := by
  have hcopied : after.slice? (w.span path) = before.slice? span :=
    h.copied path (.identifier span name) hname fun inner hbelow =>
      isChosen_eq_false_of_identifier hname hbelow
  exact Text.infix_of_slice? (hcopied.trans hwritten)

end

end CallSite

namespace Transformer

theorem active_of_transformed {t : Transformer} {id code : Text} {output : Output}
    (h : t.transform id code = .ok (.transformed output)) :
    t.target.enabled = true ∧ t.isBypassed = false := by
  unfold transform at h
  split at h
  · simp at h
  split at h
  · simp at h
  rename_i henabled hactive
  exact ⟨by simpa using henabled, by simpa using hactive⟩

theorem scan_of_language {t : Transformer} {id : Text} {language : ScriptLanguage}
    (h : (t.filter.classify id).language? = some language) (text : Text) :
    t.scan id text =
      if t.filter.isCandidate text then
        match Program.parse? language text with
        | none => .error .parseFailed
        | some program => .ok (CallSite.find t.target text program)
      else .error .noCandidateText := by
  rw [scan, ModuleFilter.admission]
  simp only [h]
  cases t.filter.isCandidate text <;> rfl

theorem language_of_admission {t : Transformer} {id text : Text} {language : ScriptLanguage}
    (h : t.filter.admission id text = .ok (some language)) :
    (t.filter.classify id).language? = some language := by
  rw [ModuleFilter.admission] at h
  cases hkind : (t.filter.classify id).language? with
  | none => simp [hkind] at h
  | some found =>
      cases hcandidate : t.filter.isCandidate text with
      | false => simp [hkind, hcandidate] at h
      | true => simpa [hkind, hcandidate] using h

theorem valid_of_ofTarget {target : Target} {mode : BuildMode} {t : Transformer}
    (h : ofTarget target mode = .ok t) : target.Valid := by
  obtain ⟨u, hvalidate, -⟩ := bind_eq_ok_iff.mp h
  exact Target.validate_eq_ok_iff.mp hvalidate

theorem marker_infix_of_transformed {target : Target} {mode : BuildMode} {t : Transformer}
    {id code : Text} {output : Output} (ht : ofTarget target mode = .ok t)
    (houtput : t.transform id code = .ok (.transformed output))
    (hinjected : output.importInjected = true) :
    target.directive.marker <:+: output.code := by
  have hmarker := (valid_of_ofTarget ht).statement_marked
  obtain rfl := target_of_ofTarget ht
  obtain ⟨sites, edited, -, hpositive, hguard, hmissing, final, hfinal, hrender⟩ :=
    transform_eq_transformed houtput
  obtain ⟨hwf, rfl, hlead, hperm, hcount, -⟩ := Patch.guardHandlers_ofText hguard
  have hedits : edited.edits ≠ [] := by
    intro hempty
    rw [hcount, hempty] at hpositive
    exact hpositive rfl
  obtain ⟨hfinalWf, honly, -, himport, htext⟩ :=
    hwf.withImport (Patch.onlyInserts_of_guardEdits hperm) hlead hedits hfinal
  have hmissing : edited.source.includes t.target.directive.marker = false := by
    simpa [hinjected] using hmissing
  have hcode : output.code = final.lead ++ final.source.weave (Patch.insertions final.edits) := by
    rw [← hfinalWf.flatMap_text_layout honly]
    exact Except.ok.inj (hrender.symm.trans hfinalWf.render_eq)
  rw [hcode, htext]
  refine List.IsInfix.trans ?_ (Text.infix_weave _ (himport hmissing).1)
  rw [if_pos ⟨hmissing, rfl⟩]
  exact hmarker.trans (List.infix_append' [] _ _)

/-- What a second run does with a module that came out transformed. It never leaves the module for a
reason that the first did not have either, and it never puts in an import that the first put in. If the
module is read back with a conditional around each guarded handler, there is nothing left to do: no call
is guardable, and the module stays as it is. The name of the function is only missed then if the module
itself writes it with an escape in each of its calls. -/
theorem rerun_settled (target : Target) (mode : BuildMode) (t : Transformer) (id code : Text)
    (output : Output) (ht : ofTarget target mode = .ok t)
    (houtput : t.transform id code = .ok (.transformed output)) :
    (∀ again, t.transform id output.code = .ok (.transformed again) →
        output.importInjected = true → again.importInjected = false) ∧
      (∀ reason, t.transform id output.code = .ok (.unchanged reason) →
        reason = .noCandidateText ∨ reason = .parseFailed ∨ reason = .noMatch) ∧
      ∃ language program, (t.filter.classify id).language? = some language ∧
        Program.parse? language code = some program ∧
        ∀ again lead w, Program.parse? language output.code = some again →
          CallSite.ReadsBack target code output.code program again lead w →
            (∀ site ∈ CallSite.find target output.code again, site.isGuardable = false) ∧
            (target.functionName <:+: output.code →
              t.scan id output.code = .ok (CallSite.find target output.code again) ∧
                t.transform id output.code = .ok (.unchanged .noMatch)) ∧
            (¬target.functionName <:+: output.code →
              t.transform id output.code = .ok (.unchanged .noCandidateText) ∧
                ∀ (path : Path) (site : CallSite),
                  (path, site) ∈ CallSite.reports target code program → ∃ span written,
                    program.tree.at? (path ++ [.callee]) =
                      some (.identifier span target.functionName) ∧
                    code.slice? span = some written ∧ escapeMark <:+: written) := by
  have hmarker := marker_infix_of_transformed ht houtput
  have hname := functionName_of_ofTarget ht
  obtain rfl := target_of_ofTarget ht
  obtain ⟨henabled, hactive⟩ := active_of_transformed houtput
  obtain ⟨sites, edited, hscan, -⟩ := transform_eq_transformed houtput
  obtain ⟨language, program, hadmission, hparse, -⟩ := scan_eq_ok hscan
  have hlanguage := language_of_admission hadmission
  have hrescan := scan_of_language hlanguage output.code
  refine ⟨?_, ?_, language, program, hlanguage, hparse, ?_⟩
  · intro again hagain hinjected
    obtain ⟨sites', edited', -, -, hguard, hmissing, -⟩ := transform_eq_transformed hagain
    obtain ⟨-, hsource, -⟩ := Patch.guardHandlers_ofText hguard
    have hincludes : output.code.includes t.target.directive.marker = true :=
      Text.includes_iff.mpr (hmarker hinjected)
    rw [hmissing, hsource, hincludes]
    rfl
  · intro reason hreason
    by_cases hmatch : reason = .noMatch
    · exact Or.inr (Or.inr hmatch)
    · have herror : t.scan id output.code = .error reason :=
        scan_error_of_transform henabled hactive hreason hmatch
      rw [hrescan] at herror
      split at herror
      · split at herror
        · exact Or.inr (Or.inl (Except.error.inj herror).symm)
        · simp at herror
      · exact Or.inl (Except.error.inj herror).symm
  · intro again lead w hagain hback
    have hnone : ∀ site ∈ CallSite.find t.target output.code again, site.isGuardable = false :=
      fun site hsite => hback.not_guardable hsite
    refine ⟨hnone, ?_, ?_⟩
    · intro hheld
      have hcandidate : t.filter.isCandidate output.code = true := by
        rw [ModuleFilter.isCandidate, hname]
        exact Text.includes_iff.mpr hheld
      rw [hcandidate, hagain] at hrescan
      exact ⟨hrescan, transform_of_none_guardable henabled hactive hrescan hnone⟩
    · intro hmissing
      have hcandidate : t.filter.isCandidate output.code = false := by
        rw [ModuleFilter.isCandidate, hname, Bool.eq_false_iff]
        intro hincludes
        exact hmissing (Text.includes_iff.mp hincludes)
      rw [hcandidate] at hrescan
      refine ⟨transform_of_scan_error henabled hactive hrescan, ?_⟩
      intro path site hreport
      obtain ⟨span, hcallee, written, hslice, hspells⟩ := CallSite.spelled_callee hparse hreport
      refine ⟨span, written, hcallee, hslice, ?_⟩
      by_contra hplain
      have hwritten : written = t.target.functionName := hspells.eq_of_no_escape hplain
      rw [hwritten] at hslice
      exact hmissing (hback.copied_name hcallee hslice)

/-- The script, and what it is read back as. -/
def scriptModule : Program := (Program.parse? .ts scriptText).getD default

def guardedScriptModule : Program := (Program.parse? .ts guardedScriptText).getD default

/-- What leads from the tree of the script to the tree behind the import. -/
def scriptWrapping : Wrapping :=
  let body : Tree := .node default .part (guardedScriptModule.statements.drop 1)
  let found (path rest : Path) : Tree :=
    (body.at? (Tree.lift (CallSite.isChosen Target.standard scriptText scriptModule) path ++
      rest)).getD default
  { span := fun path => (found path []).span
    around := fun path => (found path [.argument 1]).span
    test := fun path => found path [.argument 1, .test]
    alternate := fun path => found path [.argument 1, .alternate] }

set_option maxRecDepth 10000 in
theorem readsBack_scriptText :
    CallSite.ReadsBack Target.standard scriptText guardedScriptText scriptModule
      guardedScriptModule (guardedScriptModule.statements.take 1) scriptWrapping := by
  obtain ⟨hsame, hsilent, htested, hcopied⟩ :
      Tree.sameAll guardedScriptModule.statements
          (guardedScriptModule.statements.take 1 ++ (scriptModule.wrap
            (CallSite.isChosen Target.standard scriptText scriptModule)
            scriptWrapping).statements) = true ∧
      CallSite.ofTrees Target.standard.functionName Target.standard.guard.trim guardedScriptText
        false (guardedScriptModule.statements.take 1) = [] ∧
      (∀ report ∈ CallSite.reports Target.standard scriptText scriptModule,
        report.2.isGuardable = true →
          (guardedScriptText.slice? (scriptWrapping.test report.1).span).map Text.trim =
            some Target.standard.guard.trim) ∧
      ∀ path ∈ scriptModule.tree.paths,
        (∀ inner ∈ scriptModule.tree.paths, path <+: inner →
          CallSite.isChosen Target.standard scriptText scriptModule inner = false) →
        guardedScriptText.slice? (scriptWrapping.span path) =
          scriptText.slice? ((scriptModule.tree.at? path).getD default).span := by
    decide +kernel
  refine ⟨Tree.eq_of_sameAll hsame, hsilent, ?_, ?_⟩
  · intro path hpath
    obtain ⟨⟨path', site⟩, hreport, h⟩ := List.any_eq_true.mp hpath
    simp only [Bool.and_eq_true, decide_eq_true_eq] at h
    obtain ⟨rfl, hguardable⟩ := h
    exact Option.map_eq_some_iff.mp (htested _ hreport hguardable)
  · intro path part hpart hfree
    have hmem : path ∈ scriptModule.tree.paths := Tree.mem_paths_iff.mpr (by simp [hpart])
    have htext := hcopied path hmem fun inner _ hbelow => hfree inner hbelow
    rwa [hpart, Option.getD_some] at htext

set_option maxRecDepth 10000 in
theorem rerun_scriptText : ∃ t output,
    ofTarget Target.standard .production = .ok t ∧
      t.transform scriptId scriptText = .ok (.transformed output) ∧
      output.code = guardedScriptText ∧
      t.transform scriptId output.code = .ok (.unchanged .noMatch) := by
  obtain ⟨hrun, hread, hheld⟩ :
      ((ofTarget Target.standard .production).toOption.any fun t =>
        decide ((t.filter.classify scriptId).language? = some .ts) &&
          ((t.transform scriptId scriptText).toOption.bind TransformResult.output?).any
            fun output => decide (output.code = guardedScriptText)) = true ∧
      (Program.parse? .ts guardedScriptText).isSome = true ∧
      Target.standard.functionName <:+: guardedScriptText := by
    decide +kernel
  obtain ⟨again, hagain⟩ := Option.isSome_iff_exists.mp hread
  obtain ⟨t, ht, hrun⟩ := exists_of_toOption_any hrun
  obtain ⟨hkind, hrun⟩ := Bool.and_eq_true_iff.mp hrun
  obtain ⟨output, hresult, hcode⟩ := exists_of_output?_any hrun
  have hcode : output.code = guardedScriptText := of_decide_eq_true hcode
  obtain ⟨-, -, language, program, hlanguage, hparse, hsettled⟩ :=
    rerun_settled Target.standard .production t scriptId scriptText output ht hresult
  obtain rfl : ScriptLanguage.ts = language :=
    Option.some.inj ((of_decide_eq_true hkind).symm.trans hlanguage)
  have hprogram : scriptModule = program := by simp [scriptModule, hparse]
  have hmodule : guardedScriptModule = again := by simp [guardedScriptModule, hagain]
  have hback := readsBack_scriptText
  rw [hprogram, hmodule] at hback
  rw [hcode] at hsettled
  obtain ⟨-, hnoMatch, -⟩ := hsettled again _ _ hagain hback
  exact ⟨t, output, ht, hresult, hcode, hcode ▸ (hnoMatch hheld).2⟩

/-- A target whose guard has a comment at its end, which is no part of the test. -/
def remarkedTarget : Target :=
  { Target.standard with guard := "import.meta.prerender /* build */".toList }

def callText : Text := "usePrerenderData('k', f)".toList

set_option maxRecDepth 10000 in
/-- The target is accepted, and the second run puts the handler under the guard once more. -/
theorem remarked_guard_repeated : ∃ t output again,
    ofTarget remarkedTarget .production = .ok t ∧
      t.transform scriptId callText = .ok (.transformed output) ∧
      t.transform scriptId output.code = .ok (.transformed again) ∧
      again.guarded = 1 := by
  have hrun : ((ofTarget remarkedTarget .production).toOption.any fun t =>
      ((t.transform scriptId callText).toOption.bind TransformResult.output?).any fun output =>
        ((t.transform scriptId output.code).toOption.bind TransformResult.output?).any fun again =>
          decide (again.guarded = 1)) = true := by
    decide +kernel
  obtain ⟨t, ht, hrun⟩ := exists_of_toOption_any hrun
  obtain ⟨output, houtput, hrun⟩ := exists_of_output?_any hrun
  obtain ⟨again, hagain, hguarded⟩ := exists_of_output?_any hrun
  exact ⟨t, output, again, ht, houtput, hagain, of_decide_eq_true hguarded⟩

end Transformer

end HandlerGuard
