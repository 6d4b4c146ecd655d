import HandlerGuard.Proofs.Transform.Insertion

namespace HandlerGuard

/-- The module, if it came out transformed. -/
def TransformResult.output? : TransformResult → Option Output
  | transformed output => some output
  | unchanged _ => none

namespace Patch

theorem guardHandlers_eq_self {p : Patch} {target : Target} {sites : List CallSite}
    (h : ∀ site ∈ sites, site.isGuardable = false) : p.guardHandlers target sites = (p, .ok 0) := by
  induction sites with
  | nil => rfl
  | cons site sites ih =>
      have hsite : site.isGuardable = false := h site (by simp)
      have hothers : ∀ s ∈ sites, s.isGuardable = false := by
        intro s hs
        exact h s (List.mem_cons_of_mem _ hs)
      rw [guardHandlers, hsite]
      exact ih hothers

theorem result_of_ne_zero {p : Patch} {guarded : Nat} {target : Target} {id : Text}
    (hpositive : guarded ≠ 0) :
    p.result guarded target id =
      (p.withImport target).bind fun final =>
        final.render.bind fun code =>
          (final.mappings target.hires).bind fun mappings =>
            .ok (.transformed ⟨code, ⟨id, final.source, mappings⟩, guarded,
              !p.source.includes target.directive.marker⟩) := by
  rw [result, if_neg hpositive, withImport]
  cases p.source.includes target.directive.marker <;> rfl

theorem exists_output_of_result {p : Patch} {guarded : Nat} {target : Target} {id : Text}
    {result : TransformResult} (hpositive : guarded ≠ 0)
    (h : p.result guarded target id = .ok result) :
    ∃ output, result = .transformed output ∧ output.guarded = guarded := by
  rw [result_of_ne_zero hpositive] at h
  obtain ⟨final, -, h⟩ := bind_eq_ok_iff.mp h
  obtain ⟨code, -, h⟩ := bind_eq_ok_iff.mp h
  obtain ⟨mappings, -, h⟩ := bind_eq_ok_iff.mp h
  exact ⟨_, (Except.ok.inj h).symm, rfl⟩

end Patch

namespace Transformer

theorem exists_of_output?_any {t : Transformer} {id code : Text} {f : Output → Bool}
    (h : ((t.transform id code).toOption.bind TransformResult.output?).any f = true) :
    ∃ output, t.transform id code = .ok (.transformed output) ∧ f output = true := by
  cases hresult : t.transform id code with
  | error e => simp [hresult, Except.toOption] at h
  | ok result =>
      cases result with
      | unchanged reason => simp [hresult, Except.toOption, TransformResult.output?] at h
      | transformed output =>
          exact ⟨output, rfl, by simpa [hresult, Except.toOption, TransformResult.output?] using h⟩

theorem ne_noMatch_of_scan {t : Transformer} {id code : Text} {reason : SkipReason}
    (h : t.scan id code = .error reason) : reason ≠ .noMatch := by
  rintro rfl
  unfold scan at h
  split at h
  · simp at h
  · simp at h
  · split at h <;> simp at h

section

variable {t : Transformer} {id code : Text}

theorem transform_of_scan_error (henabled : t.target.enabled = true)
    (hactive : t.isBypassed = false) {reason : SkipReason}
    (h : t.scan id code = .error reason) : t.transform id code = .ok (.unchanged reason) := by
  simp [transform, henabled, hactive, h]

theorem transform_of_scan_ok (henabled : t.target.enabled = true)
    (hactive : t.isBypassed = false) {sites : List CallSite} {edited : Patch}
    {outcome : Except EditError Nat} (hscan : t.scan id code = .ok sites)
    (hguard : (Patch.ofText code).guardHandlers t.target sites = (edited, outcome)) :
    t.transform id code = outcome.bind (edited.result · t.target id) := by
  simp only [transform, henabled, hactive, hscan, hguard]
  rfl

theorem transform_of_none_guardable (henabled : t.target.enabled = true)
    (hactive : t.isBypassed = false) {sites : List CallSite} (hscan : t.scan id code = .ok sites)
    (hnone : ∀ site ∈ sites, site.isGuardable = false) :
    t.transform id code = .ok (.unchanged .noMatch) := by
  rw [transform_of_scan_ok henabled hactive hscan (Patch.guardHandlers_eq_self hnone)]
  rfl

/-- Every call that a scan reports as guardable has a handler, so none is passed over in silence when
the handlers are put under the guard. -/
theorem exists_handler_of_scan {sites : List CallSite} (h : t.scan id code = .ok sites)
    {site : CallSite} (hsite : site ∈ sites) (hguardable : site.isGuardable = true) :
    ∃ handler, site.handler = some handler := by
  obtain ⟨-, program, -, -, rfl⟩ := scan_eq_ok h
  exact CallSite.exists_handler_of_mem_find hsite hguardable

theorem guarded_of_scan {sites : List CallSite} {edited : Patch} {n : Nat}
    (hscan : t.scan id code = .ok sites)
    (hguard : (Patch.ofText code).guardHandlers t.target sites = (edited, .ok n)) :
    n = (sites.filter CallSite.isGuardable).length ∧ edited.edits.length = n := by
  obtain ⟨-, -, -, hperm, hcount, -⟩ := Patch.guardHandlers_ofText hguard
  have hlength : (Patch.guardEdits t.target edited.source sites).length =
      (sites.filter CallSite.isGuardable).length :=
    Patch.length_guardEdits fun site hsite => exists_handler_of_scan hscan hsite
  exact ⟨by rw [hcount, hperm.length_eq, hlength], hcount.symm⟩

theorem exists_output_of_guardable (henabled : t.target.enabled = true)
    (hactive : t.isBypassed = false) {sites : List CallSite} {result : TransformResult}
    (hscan : t.scan id code = .ok sites) (hsome : ∃ site ∈ sites, site.isGuardable = true)
    (hresult : t.transform id code = .ok result) :
    ∃ output edited, result = .transformed output ∧
      (Patch.ofText code).guardHandlers t.target sites = (edited, .ok output.guarded) ∧
      edited.edits.length = output.guarded ∧
      output.guarded = (sites.filter CallSite.isGuardable).length := by
  obtain ⟨site, hsite, hguardable⟩ := hsome
  rcases hguard : (Patch.ofText code).guardHandlers t.target sites with ⟨edited, outcome⟩
  rw [transform_of_scan_ok henabled hactive hscan hguard] at hresult
  obtain ⟨n, rfl, hresult⟩ := bind_eq_ok_iff.mp hresult
  obtain ⟨hn, hedits⟩ := guarded_of_scan hscan hguard
  have hpositive : n ≠ 0 := by
    rw [hn]
    exact (List.length_pos_of_mem (List.mem_filter.mpr ⟨hsite, hguardable⟩)).ne'
  obtain ⟨output, rfl, rfl⟩ := Patch.exists_output_of_result hpositive hresult
  exact ⟨output, edited, rfl, rfl, hedits, hn⟩

/-- A module that is left as it is for another reason than that it has nothing to guard was not
scanned either. -/
theorem scan_error_of_transform (henabled : t.target.enabled = true)
    (hactive : t.isBypassed = false) {reason : SkipReason}
    (h : t.transform id code = .ok (.unchanged reason)) (hreason : reason ≠ .noMatch) :
    t.scan id code = .error reason := by
  cases hscan : t.scan id code with
  | error found =>
      have hfound := transform_of_scan_error henabled hactive hscan
      rw [h] at hfound
      simpa using hfound.symm
  | ok sites =>
      by_cases hsome : ∃ site ∈ sites, site.isGuardable = true
      · obtain ⟨output, edited, hresult, -⟩ :=
          exists_output_of_guardable henabled hactive hscan hsome h
        simp at hresult
      · have hnone : ∀ site ∈ sites, site.isGuardable = false := by simpa using hsome
        have hunchanged := transform_of_none_guardable henabled hactive hscan hnone
        rw [h] at hunchanged
        have hnoMatch : reason = .noMatch := by simpa using hunchanged
        exact absurd hnoMatch hreason

end

/-- A scan and a transformation of the same module agree: they give the same reason to leave it as it
is, and the guardable calls of the scan are counted as guarded. -/
theorem scan_agrees_with_transform (t : Transformer) (id code : Text)
    (henabled : t.target.enabled = true) (hactive : t.isBypassed = false) :
    (∀ reason, t.scan id code = .error reason ↔
        t.transform id code = .ok (.unchanged reason) ∧ reason ≠ .noMatch) ∧
      ∀ sites, t.scan id code = .ok sites →
        (∀ site ∈ sites, site.isGuardable = true → ∃ handler, site.handler = some handler) ∧
        ((∀ site ∈ sites, site.isGuardable = false) →
          t.transform id code = .ok (.unchanged .noMatch)) ∧
        ∀ result, (∃ site ∈ sites, site.isGuardable = true) → t.transform id code = .ok result →
          ∃ output edited, result = .transformed output ∧
            (Patch.ofText code).guardHandlers t.target sites = (edited, .ok output.guarded) ∧
            edited.edits.length = output.guarded ∧
            output.guarded = (sites.filter CallSite.isGuardable).length := by
  constructor
  · intro reason
    constructor
    · intro hscan
      exact ⟨transform_of_scan_error henabled hactive hscan, ne_noMatch_of_scan hscan⟩
    · rintro ⟨htransform, hreason⟩
      exact scan_error_of_transform henabled hactive htransform hreason
  · intro sites hscan
    refine ⟨fun site hsite => exists_handler_of_scan hscan hsite, ?_, ?_⟩
    · intro hnone
      exact transform_of_none_guardable henabled hactive hscan hnone
    · intro result hsome hresult
      exact exists_output_of_guardable henabled hactive hscan hsome hresult

set_option maxRecDepth 10000 in
theorem scan_scriptText : ∃ t sites output,
    ofTarget Target.standard .production = .ok t ∧
      t.target.enabled = true ∧
      t.isBypassed = false ∧
      t.scan scriptId scriptText = .ok sites ∧
      t.transform scriptId scriptText = .ok (.transformed output) ∧
      output.guarded = 2 := by
  have hrun : ((ofTarget Target.standard .production).toOption.any fun t =>
      t.target.enabled && !t.isBypassed &&
        ((t.scan scriptId scriptText).toOption.any fun sites =>
          sites.any CallSite.isGuardable && (sites.filter CallSite.isGuardable).length = 2) &&
        (t.transform scriptId scriptText).toOption.any fun _ => true) = true := by
    decide +kernel
  obtain ⟨t, ht, hrun⟩ := exists_of_toOption_any hrun
  simp only [Bool.and_eq_true, Bool.not_eq_true'] at hrun
  obtain ⟨⟨⟨henabled, hactive⟩, hscanned⟩, htransformed⟩ := hrun
  obtain ⟨sites, hscan, hsites⟩ := exists_of_toOption_any hscanned
  obtain ⟨result, hresult, -⟩ := exists_of_toOption_any htransformed
  obtain ⟨hsome, hcount⟩ : (∃ site ∈ sites, site.isGuardable = true) ∧
      (sites.filter CallSite.isGuardable).length = 2 := by
    simpa using hsites
  obtain ⟨-, hagree⟩ := scan_agrees_with_transform t scriptId scriptText henabled hactive
  obtain ⟨-, -, hguarded⟩ := hagree sites hscan
  obtain ⟨output, edited, rfl, -, -, hn⟩ := hguarded result hsome hresult
  exact ⟨t, sites, output, ht, henabled, hactive, hscan, hresult, hn.trans hcount⟩

end Transformer

end HandlerGuard
