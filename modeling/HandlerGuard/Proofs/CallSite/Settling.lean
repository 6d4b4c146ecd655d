import HandlerGuard.Proofs.CallSite.Coverage
import HandlerGuard.Proofs.Script.Wrapping

namespace HandlerGuard

/-- What becomes of a call when the handlers are put under the guard. -/
def CallStatus.settled : CallStatus → CallStatus
  | guardable => alreadyGuarded
  | status => status

@[simp] theorem CallStatus.guardsHandler_settled (status : CallStatus) :
    status.settled.guardsHandler = status.guardsHandler := by
  cases status <;> rfl

theorem CallStatus.settled_ne_guardable (status : CallStatus) : status.settled ≠ guardable := by
  cases status <;> decide

theorem CallStatus.settled_of_ne {status : CallStatus} (h : status ≠ guardable) :
    status.settled = status := by
  cases status with
  | guardable => exact absurd rfl h
  | _ => rfl

namespace CallSite

open Script Tree

def guardableAt (name guard source : Text) (t : Tree) (path : Path) : Bool :=
  (siteAt name guard source false t path).any isGuardable

/-- What is known about the text of a rewritten tree: the tests that were put in are written like the
guard, and the old tests into which nothing was put are written as before. -/
structure KeepsTests (guard before after : Text) (chosen : Path → Bool) (t : Tree)
    (w : Wrapping) : Prop where
  inserted : ∀ path, chosen path = true →
    ∃ written, after.slice? (w.test path).span = some written ∧ written.trim = guard
  kept : ∀ path test, t.at? (path ++ [.test]) = some test →
    (∀ inner, path ++ [.test] <+: inner → chosen inner = false) →
    after.slice? (w.span (path ++ [.test])) = before.slice? test.span

theorem isTarget_wrap (name : Text) (chosen : Path → Bool) (w : Wrapping) (path : Path)
    (callee : Tree) (optional : Bool) :
    isTarget name (wrap chosen w path callee) optional = isTarget name callee optional := by
  cases callee <;> rfl

section

variable {name guard before after : Text} {t : Tree} {w : Wrapping} {chosen : Path → Bool}

theorem guardableAt_of_call {path : Path} {span : Span} {callee : Tree}
    {types arguments : List Tree} {optional : Bool}
    (hpart : t.at? path = some (.call span callee types arguments optional))
    (htarget : isTarget name callee optional = true) :
    guardableAt name guard before t path =
      decide (classify before guard (insideAt name guard before false t path) arguments =
        .guardable) := by
  simp [guardableAt, siteAt, hpart, ofNode, htarget, isGuardable]

theorem guardableAt_eq_false {path inner : Path} {site : CallSite}
    (hsite : siteAt name guard before false t path = some site)
    (hguards : site.status.guardsHandler = true) (hbelow : path ++ [.argument 1] <+: inner) :
    guardableAt name guard before t inner = false := by
  unfold guardableAt
  cases hinner : siteAt name guard before false t inner with
  | none => rfl
  | some site' =>
      have hnot := (status_eq_inside_iff hinner).mpr ⟨path, site, hsite, hguards, hbelow⟩
      simp [isGuardable, hnot]

theorem isGuarded_wrap {path : Path} {handler : Tree}
    (hkeeps : KeepsTests guard before after chosen t w) (hhandler : t.at? path = some handler)
    (hfree : ∀ inner, path <+: inner → chosen inner = false)
    (hguarded : isGuarded before guard handler = true) :
    isGuarded after guard (wrap chosen w path handler) = true := by
  cases handler with
  | conditional span test consequent alternate =>
      have htest : t.at? (path ++ [.test]) = some test := at?_concat hhandler .test
      have htext := hkeeps.kept path test htest fun inner hbelow =>
        hfree inner ((List.prefix_append _ _).trans hbelow)
      simpa [isGuarded, wrap, htext] using hguarded
  | identifier span name => simp [isGuarded] at hguarded
  | call span callee types arguments optional => simp [isGuarded] at hguarded
  | spread span argument => simp [isGuarded] at hguarded
  | node span kind children => simp [isGuarded] at hguarded

theorem classify_wrap {path : Path} {span : Span} {callee : Tree} {types arguments : List Tree}
    {optional : Bool} (hchosen : chosen = guardableAt name guard before t)
    (hkeeps : KeepsTests guard before after chosen t w)
    (hpart : t.at? path = some (.call span callee types arguments optional))
    (htarget : isTarget name callee optional = true) :
    classify after guard (insideAt name guard before false t path)
        (if chosen path then
          mapSecond (w.conditional path)
            (wrapAll chosen w (fun index => path ++ [.argument index]) arguments)
        else wrapAll chosen w (fun index => path ++ [.argument index]) arguments) =
      (classify before guard (insideAt name guard before false t path) arguments).settled := by
  have hhere : chosen path =
      decide (classify before guard (insideAt name guard before false t path) arguments =
        .guardable) := by
    rw [hchosen, guardableAt_of_call hpart htarget]
  cases hinside : insideAt name guard before false t path with
  | true => simp [classify, CallStatus.settled]
  | false =>
      rw [hinside] at hhere
      rcases arguments with _ | ⟨key, _ | ⟨handler, rest⟩⟩
      · simp [classify, hhere, wrapAll, CallStatus.settled]
      · simp [classify, hhere, wrapAll, CallStatus.settled]
      · by_cases hspread : handler.isSpread = true
        · simp [classify, hhere, hspread, wrapAll, CallStatus.settled]
        by_cases hguarded : isGuarded before guard handler = true
        · -- nothing below the handler is chosen, so its test is written as before
          have hstatus : classify before guard false (key :: handler :: rest) =
              .alreadyGuarded := by
            simp [classify, hspread, hguarded]
          obtain ⟨site, hsite, hsiteStatus⟩ : ∃ site,
              siteAt name guard before false t path = some site ∧
                site.status = .alreadyGuarded := by
            simp [siteAt, hpart, ofNode, htarget, hinside, hstatus]
          have hhandler : t.at? (path ++ [.argument 1]) = some handler :=
            at?_concat hpart (.argument 1)
          have hfree : ∀ inner, path ++ [.argument 1] <+: inner → chosen inner = false := by
            intro inner hbelow
            rw [hchosen]
            exact guardableAt_eq_false hsite (by rw [hsiteStatus]; rfl) hbelow
          have hstill := isGuarded_wrap hkeeps hhandler hfree hguarded
          simp [classify, hhere, hspread, hguarded, wrapAll, hstill, CallStatus.settled]
        · -- the handler is now the consequent of the conditional that was put in
          have hstatus : classify before guard false (key :: handler :: rest) = .guardable := by
            simp [classify, hspread, hguarded]
          have hhere : chosen path = true := by simp [hhere, hstatus]
          obtain ⟨written, hwritten, htrim⟩ := hkeeps.inserted path hhere
          rw [hstatus]
          simp [hhere, classify, wrapAll, mapSecond, Wrapping.conditional, Tree.isSpread,
            isGuarded, hwritten, htrim, CallStatus.settled]

theorem ofNode_wrap {path : Path} {part : Tree}
    (hchosen : chosen = guardableAt name guard before t)
    (hkeeps : KeepsTests guard before after chosen t w) (hpart : t.at? path = some part) :
    (ofNode name guard after (insideAt name guard before false t path)
        (wrap chosen w path part)).map CallSite.status =
      (siteAt name guard before false t path).map fun site => site.status.settled := by
  rw [siteAt, hpart, Option.bind_some]
  cases part with
  | call span callee types arguments optional =>
      rw [wrap, ofNode, ofNode, isTarget_wrap]
      by_cases htarget : isTarget name callee optional = true
      · rw [if_pos htarget, if_pos htarget, Option.map_some, Option.map_some,
          classify_wrap hchosen hkeeps hpart htarget]
      · rw [if_neg htarget, if_neg htarget]
        rfl
  | identifier span name => rfl
  | conditional span test consequent alternate => rfl
  | spread span argument => rfl
  | node span kind children => rfl

theorem any_guardsHandler_eq {a b : Option CallSite}
    (h : a.map CallSite.status = b.map fun site => site.status.settled) :
    (a.any fun site => site.status.guardsHandler) =
      b.any fun site => site.status.guardsHandler := by
  cases b with
  | none =>
      obtain rfl : a = none := by simpa using h
      rfl
  | some b =>
      obtain ⟨site, rfl, hstatus⟩ := Option.map_eq_some_iff.mp h
      simp [hstatus]

theorem status_siteAt_lift_of_insideAt {path : Path}
    (hchosen : chosen = guardableAt name guard before t)
    (hkeeps : KeepsTests guard before after chosen t w) (hpath : (t.at? path).isSome = true)
    (hinside : insideAt name guard after false (wrap chosen w [] t) (lift chosen path) =
      insideAt name guard before false t path) :
    (siteAt name guard after false (wrap chosen w [] t) (lift chosen path)).map
        CallSite.status =
      (siteAt name guard before false t path).map fun site => site.status.settled := by
  obtain ⟨part, hpart⟩ := Option.isSome_iff_exists.mp hpath
  rw [siteAt, at?_lift chosen w hpart, Option.bind_some, hinside,
    ofNode_wrap hchosen hkeeps hpart]

theorem insideAt_lift {path : Path} (hchosen : chosen = guardableAt name guard before t)
    (hkeeps : KeepsTests guard before after chosen t w) (hpath : (t.at? path).isSome = true) :
    insideAt name guard after false (wrap chosen w [] t) (lift chosen path) =
      insideAt name guard before false t path := by
  induction path using List.reverseRecOn with
  | nil => rfl
  | append_singleton path step ih =>
      obtain ⟨part, hpart, hstep⟩ := exists_of_isSome_at?_concat hpath
      obtain ⟨next, hnext⟩ := Option.isSome_iff_exists.mp hstep
      have hpath : (t.at? path).isSome = true := by simp [hpart]
      have ih := ih hpath
      have hguards := any_guardsHandler_eq
        (status_siteAt_lift_of_insideAt hchosen hkeeps hpath ih)
      have hnew := at?_lift chosen w hpart
      have hnewStep : ((wrap chosen w path part).part? step).isSome = true := by
        simp [part?_wrap, hnext]
      have hhere : insideAt name guard after false (wrap chosen w [] t)
          (lift chosen path ++ [step]) = insideAt name guard before false t (path ++ [step]) := by
        rw [insideAt_concat name guard after false hnew step hnewStep, ih, hguards,
          insideAt_concat name guard before false hpart step hstep]
      rw [lift_concat]
      by_cases hwrapped : chosen path = true ∧ step = .argument 1
      · -- the step to the consequent of the inserted conditional changes nothing
        have hconditional : (wrap chosen w [] t).at? (lift chosen path ++ [step]) =
            some (w.conditional path (wrap chosen w (path ++ [step]) next)) := by
          rw [at?_concat hnew, part?_wrap, hnext, Option.map_some, if_pos hwrapped]
        have hsplit : lift chosen path ++ [step, .consequent] =
            (lift chosen path ++ [step]) ++ [.consequent] := by simp
        rw [if_pos hwrapped, hsplit,
          insideAt_concat name guard after false hconditional .consequent (by simp), hhere]
        simp
      · rw [if_neg hwrapped, hhere]

theorem status_siteAt_lift {path : Path} {site : CallSite}
    (hchosen : chosen = guardableAt name guard before t)
    (hkeeps : KeepsTests guard before after chosen t w)
    (hsite : siteAt name guard before false t path = some site) :
    ∃ site', siteAt name guard after false (wrap chosen w [] t) (lift chosen path) = some site' ∧
      site'.status = site.status.settled := by
  obtain ⟨span, callee, types, arguments, optional, hpart, -⟩ :=
    (siteAt_eq_some_iff name guard before).mp hsite
  have hpath : (t.at? path).isSome = true := by simp [hpart]
  have hstatus := status_siteAt_lift_of_insideAt hchosen hkeeps hpath
    (insideAt_lift hchosen hkeeps hpath)
  rw [hsite, Option.map_some] at hstatus
  exact Option.map_eq_some_iff.mp hstatus

theorem status_of_inInserted {path call : Path} {site : CallSite}
    (hchosen : chosen = guardableAt name guard before t)
    (hkeeps : KeepsTests guard before after chosen t w)
    (hsite : siteAt name guard after false (wrap chosen w [] t) path = some site)
    (hcall : chosen call = true) (hinserted : InInserted chosen [] call path) :
    site.status = .insideGuardedHandler := by
  obtain ⟨outer, houter, hguardable⟩ : ∃ outer,
      siteAt name guard before false t call = some outer ∧ outer.isGuardable = true := by
    rw [hchosen] at hcall
    exact (Option.any_eq_true _ _).mp hcall
  obtain ⟨outer', houter', hstatus⟩ := status_siteAt_lift hchosen hkeeps houter
  have hguards : outer'.status.guardsHandler = true := by
    have hguardable : outer.status = .guardable := by simpa [isGuardable] using hguardable
    rw [hstatus, hguardable]
    rfl
  have hbelow : lift chosen call ++ [.argument 1] <+: path := by
    rcases hinserted with h | h
    · exact (List.prefix_append_right_inj _ |>.mpr (by simp)).trans h
    · exact (List.prefix_append_right_inj _ |>.mpr (by simp)).trans h
  exact (status_eq_inside_iff hsite).mpr ⟨_, outer', houter', hguards, hbelow⟩

theorem origin_of_siteAt_wrap {path : Path} {site : CallSite}
    (hchosen : chosen = guardableAt name guard before t)
    (hkeeps : KeepsTests guard before after chosen t w)
    (hsite : siteAt name guard after false (wrap chosen w [] t) path = some site) :
    (∃ old site', siteAt name guard before false t old = some site' ∧
        path = lift chosen old ∧ site.status = site'.status.settled) ∨
      ∃ call, chosen call = true ∧ InInserted chosen [] call path := by
  obtain ⟨span, callee, types, arguments, optional, hpart, -⟩ :=
    (siteAt_eq_some_iff name guard after).mp hsite
  cases origin_of_at?_wrap hpart with
  | kept old hold hnew =>
      have hnew : path = lift chosen old := hnew
      have hstatus := status_siteAt_lift_of_insideAt hchosen hkeeps hold
        (insideAt_lift hchosen hkeeps hold)
      rw [← hnew, hsite, Option.map_some] at hstatus
      obtain ⟨site', hsite', hsettled⟩ := Option.map_eq_some_iff.mp hstatus.symm
      exact Or.inl ⟨old, site', hsite', hnew, hsettled.symm⟩
  | conditional call argument hconditional => simp [Wrapping.conditional] at hconditional
  | inserted call hcall hnew => exact Or.inr ⟨call, hcall, hnew⟩

end

theorem siteAt_node (name guard source : Text) (inside : Bool) (span span' : Span)
    (kind : NodeKind) (children : List Tree) (path : Path) :
    siteAt name guard source inside (.node span kind children) path =
      siteAt name guard source inside (.node span' kind children) path := by
  cases path with
  | nil => rfl
  | cons step path => cases step <;> rfl

theorem siteAt_wrap (name guard source : Text) (chosen : Path → Bool) (w : Wrapping)
    (program : Program) (path : Path) :
    siteAt name guard source false (program.wrap chosen w).tree path =
      siteAt name guard source false (Tree.wrap chosen w [] program.tree) path :=
  siteAt_node name guard source false _ _ _ _ path

def isChosen (target : Target) (source : Text) (program : Program) (path : Path) : Bool :=
  (reports target source program).any fun report =>
    decide (report.1 = path) && report.2.isGuardable

theorem isChosen_eq (target : Target) (source : Text) (program : Program) :
    isChosen target source program =
      guardableAt target.functionName target.guard.trim source program.tree := by
  funext path
  rw [Bool.eq_iff_iff, isChosen, List.any_eq_true, guardableAt, Option.any_eq_true]
  constructor
  · rintro ⟨⟨path', site⟩, hreport, h⟩
    simp only [Bool.and_eq_true, decide_eq_true_eq] at h
    obtain ⟨rfl, hguardable⟩ := h
    exact ⟨site, mem_reports_iff.mp hreport, hguardable⟩
  · rintro ⟨site, hsite, hguardable⟩
    exact ⟨(path, site), mem_reports_iff.mpr hsite, by simp [hguardable]⟩

/-- Let the handlers of the guardable calls of a module be put under tests that are written like the
guard. Then no call is guardable: a call that was is guarded, every other call of the module is
reported as before, and a call that came in with a test or an alternate stands inside a guarded
handler. -/
theorem wrapped_module_settled (target : Target) (before after : Text) (program : Program)
    (w : Wrapping)
    (hkeeps : KeepsTests target.guard.trim before after (isChosen target before program)
      program.tree w) :
    (∀ site ∈ find target after (program.wrap (isChosen target before program) w),
        site.status ≠ .guardable) ∧
      (∀ path site, (path, site) ∈ reports target before program → ∃ site',
        (lift (isChosen target before program) path, site') ∈
            reports target after (program.wrap (isChosen target before program) w) ∧
          (site.status = .guardable → site'.status = .alreadyGuarded) ∧
          (site.status ≠ .guardable → site'.status = site.status)) ∧
      ∀ path site,
        (path, site) ∈ reports target after (program.wrap (isChosen target before program) w) →
          ((∃ old site', (old, site') ∈ reports target before program ∧
              path = lift (isChosen target before program) old) ∨
            ∃ call, isChosen target before program call = true ∧
              InInserted (isChosen target before program) [] call path) ∧
          ∀ call, isChosen target before program call = true →
            InInserted (isChosen target before program) [] call path →
              site.status = .insideGuardedHandler := by
  have hchosen := isChosen_eq target before program
  refine ⟨?_, ?_, ?_⟩
  · intro site hmem
    obtain ⟨path, hsite⟩ := mem_find_iff.mp hmem
    rw [siteAt_wrap] at hsite
    rcases origin_of_siteAt_wrap hchosen hkeeps hsite with
      ⟨old, site', -, -, hstatus⟩ | ⟨call, hcall, hinserted⟩
    · rw [hstatus]
      exact CallStatus.settled_ne_guardable site'.status
    · rw [status_of_inInserted hchosen hkeeps hsite hcall hinserted]
      decide
  · intro path site hreport
    obtain ⟨site', hsite', hstatus⟩ :=
      status_siteAt_lift hchosen hkeeps (mem_reports_iff.mp hreport)
    refine ⟨site', mem_reports_iff.mpr (by rw [siteAt_wrap]; exact hsite'), ?_, ?_⟩
    · intro hguardable
      rw [hstatus, hguardable]
      rfl
    · intro hother
      rw [hstatus, CallStatus.settled_of_ne hother]
  · intro path site hreport
    have hsite := mem_reports_iff.mp hreport
    rw [siteAt_wrap] at hsite
    constructor
    · rcases origin_of_siteAt_wrap hchosen hkeeps hsite with
        ⟨old, site', hsite', hpath, -⟩ | hinserted
      · exact Or.inl ⟨old, site', mem_reports_iff.mpr hsite', hpath⟩
      · exact Or.inr hinserted
    · intro call hcall hinserted
      exact status_of_inInserted hchosen hkeeps hsite hcall hinserted

/-- A module with a call to be guarded and one that is guarded. -/
def looseText : Text :=
  "f(usePrerenderData('é', g), usePrerenderData('b', import.meta.prerender ? h : i))".toList

/-- The module after guarding, with a call in the fallback. -/
def tiedText : Text :=
  ("f(usePrerenderData('é', import.meta.prerender ? g : usePrerenderData('z', k)), " ++
    "usePrerenderData('b', import.meta.prerender ? h : i))").toList

/-- The tree of the first. -/
def looseModule : Program := (Program.parse? .ts looseText).getD default

/-- What leads from the tree of the first to that of the second. -/
def looseWrapping : Wrapping :=
  let tied := ((Program.parse? .ts tiedText).getD default).tree
  let found (path : Path) (rest : Path) : Tree :=
    (tied.at? (lift (isChosen Target.standard looseText looseModule) path ++ rest)).getD default
  { span := fun path => (found path []).span
    around := fun path => (found path [.argument 1]).span
    test := fun path => found path [.argument 1, .test]
    alternate := fun path => found path [.argument 1, .alternate] }

set_option maxRecDepth 10000 in
theorem wrapped_looseModule_settled :
    KeepsTests Target.standard.guard.trim looseText tiedText
        (isChosen Target.standard looseText looseModule) looseModule.tree looseWrapping ∧
      (find Target.standard looseText looseModule).map CallSite.status =
        [.guardable, .alreadyGuarded] ∧
      (find Target.standard tiedText (looseModule.wrap
        (isChosen Target.standard looseText looseModule) looseWrapping)).map CallSite.status =
        [.alreadyGuarded, .insideGuardedHandler, .alreadyGuarded] ∧
      ∀ site ∈ find Target.standard tiedText (looseModule.wrap
        (isChosen Target.standard looseText looseModule) looseWrapping),
        site.status ≠ .guardable := by
  obtain ⟨hinserted, hkept, hbefore, hafter⟩ :
      (∀ report ∈ reports Target.standard looseText looseModule, report.2.isGuardable = true →
        (tiedText.slice? (looseWrapping.test report.1).span).map Text.trim =
          some Target.standard.guard.trim) ∧
      (∀ path ∈ looseModule.tree.paths, path.getLast? = some .test →
        tiedText.slice? (looseWrapping.span path) =
          looseText.slice? ((looseModule.tree.at? path).getD default).span) ∧
      (find Target.standard looseText looseModule).map CallSite.status =
        [.guardable, .alreadyGuarded] ∧
      (find Target.standard tiedText (looseModule.wrap
        (isChosen Target.standard looseText looseModule) looseWrapping)).map CallSite.status =
        [.alreadyGuarded, .insideGuardedHandler, .alreadyGuarded] := by
    decide +kernel
  have hkeeps : KeepsTests Target.standard.guard.trim looseText tiedText
      (isChosen Target.standard looseText looseModule) looseModule.tree looseWrapping := by
    refine ⟨?_, ?_⟩
    · intro path hpath
      obtain ⟨⟨path', site⟩, hreport, h⟩ := List.any_eq_true.mp hpath
      simp only [Bool.and_eq_true, decide_eq_true_eq] at h
      obtain ⟨rfl, hguardable⟩ := h
      exact Option.map_eq_some_iff.mp (hinserted _ hreport hguardable)
    · intro path test htest _
      have hmem : path ++ [.test] ∈ looseModule.tree.paths := mem_paths_iff.mpr (by simp [htest])
      have htext := hkept _ hmem (by simp)
      rwa [htest, Option.getD_some] at htext
  refine ⟨hkeeps, hbefore, hafter, ?_⟩
  exact (wrapped_module_settled Target.standard looseText tiedText looseModule looseWrapping
    hkeeps).1

end CallSite

end HandlerGuard
