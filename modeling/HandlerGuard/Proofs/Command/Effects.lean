import HandlerGuard.Command.Run
import HandlerGuard.Proofs.SourceMap.RoundTrip
import HandlerGuard.Proofs.Transform.Agreement
import HandlerGuard.Proofs.Workspace

namespace HandlerGuard

namespace Patch

theorem source_withImport {p q : Patch} {target : Target} (h : p.withImport target = .ok q) :
    q.source = p.source := by
  unfold withImport at h
  split at h
  · rw [← Except.ok.inj h]
  · rcases injectImport_eq p target.directive.statement with hprepend | ⟨span, pieces, hedit⟩
    · rw [← Except.ok.inj (hprepend.symm.trans h)]
      rfl
    · exact source_overwriteWith (hedit.symm.trans h)

theorem content_of_result {p : Patch} {guarded : Nat} {target : Target} {id : Text} {output : Output}
    (h : p.result guarded target id = .ok (.transformed output)) : output.map.content = p.source := by
  rw [result_of_ne_zero (result_eq_transformed h).1] at h
  obtain ⟨final, hfinal, h⟩ := bind_eq_ok_iff.mp h
  obtain ⟨code, -, h⟩ := bind_eq_ok_iff.mp h
  obtain ⟨mappings, -, h⟩ := bind_eq_ok_iff.mp h
  obtain rfl := TransformResult.transformed.inj (Except.ok.inj h)
  exact source_withImport hfinal

end Patch

theorem Transformer.content_of_transform {t : Transformer} {id code : Text} {output : Output}
    (h : t.transform id code = .ok (.transformed output)) : output.map.content = code := by
  unfold transform at h
  split at h
  · exact absurd h (by simp)
  split at h
  · exact absurd h (by simp)
  split at h
  · exact absurd h (by simp)
  · rename_i sites hscan
    obtain ⟨guarded, -, hresult⟩ := bind_eq_ok_iff.mp h
    exact (Patch.content_of_result hresult).trans (Patch.grows_guardHandlers _ _ _).source_eq

namespace SourceMap

theorem sourcesContent_toJson (map : SourceMap) :
    (Json.parse? map.toJson).bind (·.get? "sourcesContent".toList) =
      some (.list [.text map.content]) := by
  rw [parse?_toJson]
  rfl

end SourceMap

namespace Action

variable {α β : Type} {x : Action α} {f : α → Action β} {p q : Progress}

theorem bind_of_ok {a : α} (h : x p = (q, .ok a)) : (x >>= f) p = f a q := by
  change Action.bind x f p = f a q
  simp only [Action.bind, h]

theorem bind_of_error {e : CommandError} (h : x p = (q, .error e)) :
    (x >>= f) p = (q, .error e) := by
  change Action.bind x f p = (q, .error e)
  simp only [Action.bind, h]

theorem bind_eq_ok {b : β} (h : (x >>= f) p = (q, .ok b)) :
    ∃ a r, x p = (r, .ok a) ∧ f a r = (q, .ok b) := by
  rcases hx : x p with ⟨r, e | a⟩
  · rw [bind_of_error hx] at h
    exact absurd (congrArg Prod.snd h) (by simp)
  · exact ⟨a, r, rfl, (bind_of_ok hx).symm.trans h⟩

theorem print_eq_ok {t : Text} {u : Unit} (h : print t p = (q, .ok u)) :
    q.workspace = p.workspace ∧ q.printed = p.printed ++ t := by
  obtain rfl := congrArg Prod.fst h
  exact ⟨rfl, rfl⟩

theorem tell_eq_ok {notice : Notice} {u : Unit} (h : tell notice p = (q, .ok u)) :
    q.workspace = p.workspace ∧ q.printed = p.printed := by
  obtain rfl := congrArg Prod.fst h
  exact ⟨rfl, rfl⟩

theorem writeText_eq_ok {path t : Text} {u : Unit} (h : writeText path t p = (q, .ok u)) :
    p.workspace.write path t.toBytes = .ok q.workspace ∧ q.printed = p.printed := by
  unfold writeText at h
  split at h
  · exact absurd (congrArg Prod.snd h) (by simp)
  · rename_i w hwrite
    obtain rfl := congrArg Prod.fst h
    exact ⟨hwrite, rfl⟩

/-! ### Files that stay -/

/-- A step changes no file but those at some paths, and every path leads where it led before. -/
structure Frames (paths : List Text) (x : Action α) : Prop where
  directories : ∀ p, (x p).1.workspace.directories = p.workspace.directories
  fileAt? : ∀ p path, (x p).1.workspace.fileAt? path = p.workspace.fileAt? path
  content? : ∀ p location, (∀ path ∈ paths, p.workspace.fileAt? path ≠ some location) →
    (x p).1.workspace.content? location = p.workspace.content? location

variable {paths : List Text}

theorem frames_of_workspace_eq (h : ∀ p, (x p).1.workspace = p.workspace) : Frames paths x :=
  ⟨fun p => by rw [h p], fun p path => by rw [h p], fun p location _ => by rw [h p]⟩

theorem frames_readText (path : Text) : Frames paths (readText path) := by
  apply frames_of_workspace_eq
  intro p
  unfold readText
  split
  · rfl
  · split <;> rfl

theorem frames_writeText {path : Text} (hpath : path ∈ paths) (t : Text) :
    Frames paths (writeText path t) := by
  have hcases : ∀ p, (writeText path t p).1.workspace = p.workspace ∨
      p.workspace.write path t.toBytes = .ok (writeText path t p).1.workspace := by
    intro p
    unfold writeText
    split
    · exact Or.inl rfl
    · rename_i w hwrite
      exact Or.inr hwrite
  constructor
  · intro p
    rcases hcases p with hsame | hwrite
    · rw [hsame]
    · exact Workspace.directories_write hwrite
  · intro p other
    rcases hcases p with hsame | hwrite
    · rw [hsame]
    · exact Workspace.fileAt?_write hwrite other
  · intro p location hother
    rcases hcases p with hsame | hwrite
    · rw [hsame]
    · rw [Workspace.content?_write hwrite, if_neg (hother path hpath)]

theorem frames_bind (hx : Frames paths x) (hf : ∀ a, Frames paths (f a)) :
    Frames paths (x >>= f) := by
  constructor
  · intro p
    rcases hp : x p with ⟨q, e | a⟩
    · rw [bind_of_error hp]
      simpa [hp] using hx.directories p
    · rw [bind_of_ok hp, (hf a).directories q]
      simpa [hp] using hx.directories p
  · intro p path
    rcases hp : x p with ⟨q, e | a⟩
    · rw [bind_of_error hp]
      simpa [hp] using hx.fileAt? p path
    · rw [bind_of_ok hp, (hf a).fileAt? q path]
      simpa [hp] using hx.fileAt? p path
  · intro p location hother
    rcases hp : x p with ⟨q, e | a⟩
    · rw [bind_of_error hp]
      simpa [hp] using hx.content? p location hother
    · have hq : ∀ path, q.workspace.fileAt? path = p.workspace.fileAt? path := by
        simpa [hp] using hx.fileAt? p
      rw [bind_of_ok hp, (hf a).content? q location fun path hpath => hq path ▸ hother path hpath]
      simpa [hp] using hx.content? p location hother

end Action

namespace Command

variable (options : TransformOptions) (environment : Environment) (config : Option Text)

/-- The paths of the files that the transform command writes. -/
def outputPaths : List Text := options.out.toList ++ options.map.toList

theorem frames_deliver (result : TransformResult) :
    Action.Frames (outputPaths options) (deliver options result) := by
  cases result with
  | unchanged reason => exact Action.frames_of_workspace_eq fun _ => rfl
  | transformed output =>
      have hquiet : ∀ notice, Action.Frames (outputPaths options) (Action.tell notice) :=
        fun _ => Action.frames_of_workspace_eq fun _ => rfl
      have hprint : Action.Frames (outputPaths options) (Action.print output.code) :=
        Action.frames_of_workspace_eq fun _ => rfl
      have hdone : Action.Frames (outputPaths options) (Action.pure ()) :=
        Action.frames_of_workspace_eq fun _ => rfl
      have hcode : ∀ path, options.out = some path →
          Action.Frames (outputPaths options) (Action.writeText path output.code) :=
        fun path hpath => Action.frames_writeText (by simp [outputPaths, hpath]) _
      have hmap : ∀ path, options.map = some path →
          Action.Frames (outputPaths options) (Action.writeText path output.map.toJson) :=
        fun path hpath => Action.frames_writeText (by simp [outputPaths, hpath]) _
      unfold deliver
      cases hout : options.out <;> cases hmapPath : options.map <;> simp only
      · exact Action.frames_bind hprint fun _ => hdone
      · exact Action.frames_bind hprint fun _ => hmap _ hmapPath
      · exact Action.frames_bind (hcode _ hout) fun _ => Action.frames_bind (hquiet _) fun _ => hdone
      · exact Action.frames_bind (hcode _ hout) fun _ =>
          Action.frames_bind (hquiet _) fun _ => hmap _ hmapPath

theorem frames_runTransform :
    Action.Frames (outputPaths options) (runTransform options environment config) := by
  have hload : ∀ mode, Action.Frames (outputPaths options)
      (Action.loadTransformer environment config mode) := by
    intro mode
    exact Action.frames_bind (Action.frames_of_workspace_eq fun _ => rfl) fun _ =>
      Action.frames_of_workspace_eq fun _ => rfl
  refine Action.frames_bind (hload _) fun transformer => ?_
  refine Action.frames_bind (Action.frames_readText options.file) fun code => ?_
  refine Action.frames_bind (Action.frames_of_workspace_eq fun _ => rfl) fun result => ?_
  exact frames_deliver options result

/-! ### What is found out before anything is written -/

def modeOf : BuildMode := if options.dev then .development else .production

/-- Settings, target and input are fine: the text of the input and what becomes of it. -/
def Finds (w : Workspace) (code : Text) (result : TransformResult) : Prop :=
  ∃ (target : Target) (transformer : Transformer) (bytes : List UInt8),
    Settings.load w environment config = .ok target ∧
    Transformer.ofTarget target (modeOf options) = .ok transformer ∧
    w.read options.file = .ok bytes ∧ Text.ofBytes? bytes = some code ∧
    transformer.transform (options.id.getD options.file) code = .ok result

variable {options environment config}

theorem loadTransformer_cases (mode : BuildMode) (p : Progress) :
    (∃ e, Action.loadTransformer environment config mode p = (p, .error e)) ∨
      ∃ target transformer, Settings.load p.workspace environment config = .ok target ∧
        Transformer.ofTarget target mode = .ok transformer ∧
        Action.loadTransformer environment config mode p = (p, .ok transformer) := by
  rw [Action.loadTransformer]
  cases hload : Settings.load p.workspace environment config with
  | error e =>
      have hstop : Action.loadTarget environment config p = (p, .error (.settings e)) := by
        rw [Action.loadTarget, hload]
        rfl
      exact Or.inl ⟨_, Action.bind_of_error hstop⟩
  | ok target =>
      have hgo : Action.loadTarget environment config p = (p, .ok target) := by
        rw [Action.loadTarget, hload]
        rfl
      rw [Action.bind_of_ok hgo, Action.lift]
      cases htarget : Transformer.ofTarget target mode with
      | error e => exact Or.inl ⟨_, rfl⟩
      | ok transformer => exact Or.inr ⟨target, transformer, rfl, htarget, rfl⟩

theorem readText_cases (path : Text) (p : Progress) :
    (∃ e, Action.readText path p = (p, .error e)) ∨
      ∃ bytes code, p.workspace.read path = .ok bytes ∧ Text.ofBytes? bytes = some code ∧
        Action.readText path p = (p, .ok code) := by
  unfold Action.readText
  split
  · exact Or.inl ⟨_, rfl⟩
  · rename_i bytes hread
    split
    · rename_i code hcode
      exact Or.inr ⟨bytes, code, hread, hcode, rfl⟩
    · exact Or.inl ⟨_, rfl⟩

theorem runTransform_cases (options : TransformOptions) (environment : Environment)
    (config : Option Text) (p : Progress) :
    (∃ e, runTransform options environment config p = (p, .error e)) ∨
      ∃ code result, Finds options environment config p.workspace code result ∧
        runTransform options environment config p = deliver options result p := by
  rcases loadTransformer_cases (modeOf options) p with ⟨e, hstop⟩ | ⟨target, t, hload, htarget, hgo⟩
  · exact Or.inl ⟨e, Action.bind_of_error hstop⟩
  have hloaded : runTransform options environment config p = _ := Action.bind_of_ok hgo
  rcases readText_cases options.file p with ⟨e, hstop⟩ | ⟨bytes, code, hread, hcode, hgo⟩
  · exact Or.inl ⟨e, hloaded.trans (Action.bind_of_error hstop)⟩
  have htext := hloaded.trans (Action.bind_of_ok hgo)
  cases hresult : t.transform (options.id.getD options.file) code with
  | error e =>
      refine Or.inl ⟨.edit e, htext.trans (Action.bind_of_error ?_)⟩
      rw [Action.lift, hresult]
      rfl
  | ok result =>
      refine Or.inr ⟨code, result, ⟨target, t, bytes, hload, htarget, hread, hcode, hresult⟩,
        htext.trans (Action.bind_of_ok ?_)⟩
      rw [Action.lift, hresult]
      rfl

theorem Finds.unique {w : Workspace} {code code' : Text} {result result' : TransformResult}
    (h : Finds options environment config w code result)
    (h' : Finds options environment config w code' result') : code = code' ∧ result = result' := by
  obtain ⟨target, t, bytes, hload, htarget, hread, hcode, hresult⟩ := h
  obtain ⟨target', t', bytes', hload', htarget', hread', hcode', hresult'⟩ := h'
  obtain rfl := Except.ok.inj (hload.symm.trans hload')
  obtain rfl := Except.ok.inj (htarget.symm.trans htarget')
  obtain rfl := Except.ok.inj (hread.symm.trans hread')
  obtain rfl := Option.some.inj (hcode.symm.trans hcode')
  exact ⟨rfl, Except.ok.inj (hresult.symm.trans hresult')⟩

/-! ### What is delivered -/

theorem deliver_eq_ok {output : Output} {p q : Progress}
    (h : deliver options (.transformed output) p = (q, .ok ())) :
    ∃ r : Progress,
      (∀ path, options.out = some path →
        p.workspace.write path output.code.toBytes = .ok r.workspace ∧ r.printed = p.printed) ∧
      (options.out = none → r.workspace = p.workspace ∧ r.printed = p.printed ++ output.code) ∧
      (∀ path, options.map = some path →
        r.workspace.write path output.map.toJson.toBytes = .ok q.workspace) ∧
      (options.map = none → q.workspace = r.workspace) ∧ q.printed = r.printed := by
  unfold deliver at h
  cases hout : options.out with
  | none =>
      simp only [hout] at h
      obtain ⟨_, r, hprint, h⟩ := Action.bind_eq_ok h
      refine ⟨r, by simp, fun _ => Action.print_eq_ok hprint, ?_⟩
      cases hmap : options.map with
      | none =>
          simp only [hmap] at h
          obtain rfl := congrArg Prod.fst h
          exact ⟨by simp, fun _ => rfl, rfl⟩
      | some path =>
          simp only [hmap] at h
          obtain ⟨hwrite, hprinted⟩ := Action.writeText_eq_ok h
          exact ⟨by simpa using hwrite, by simp, hprinted⟩
  | some path =>
      simp only [hout] at h
      obtain ⟨_, r, hcode, h⟩ := Action.bind_eq_ok h
      obtain ⟨_, s, htell, h⟩ := Action.bind_eq_ok h
      obtain ⟨hworkspace, htold⟩ := Action.tell_eq_ok htell
      refine ⟨r, ?_, by simp, ?_⟩
      · rintro _ ⟨⟩
        exact Action.writeText_eq_ok hcode
      · rw [← hworkspace, ← htold]
        cases hmap : options.map with
        | none =>
            simp only [hmap] at h
            obtain rfl := congrArg Prod.fst h
            exact ⟨by simp, fun _ => rfl, rfl⟩
        | some mapPath =>
            simp only [hmap] at h
            obtain ⟨hwrite, hprinted⟩ := Action.writeText_eq_ok h
            exact ⟨by simpa using hwrite, by simp, hprinted⟩

/-- The transform command changes no file but those named for the code and the map. If the settings,
the target, the input or the transformation fail or the module is left as it is, it changes no file at
all and prints nothing. If it succeeds with a transformed module and the two files are not one, then
the first holds the code, which is printed if no file is named for it and only then, and the second
holds the map of this output; the map holds the text that the input had before, even if one of the two
files is the input. -/
theorem runTransform_effects (options : TransformOptions) (environment : Environment)
    (config : Option Text) (w : Workspace) :
    let ran := runTransform options environment config { workspace := w }
    (ran.1.workspace.directories = w.directories ∧
      ∀ location, ran.1.workspace.content? location ≠ w.content? location →
        ∃ path ∈ outputPaths options, w.fileAt? path = some location) ∧
    ((∀ code output, ¬Finds options environment config w code (.transformed output)) →
      ran.1.workspace = w ∧ ran.1.printed = []) ∧
    ∀ code output, Finds options environment config w code (.transformed output) →
      ran.2 = .ok () →
      (∀ out map, options.out = some out → options.map = some map →
        w.fileAt? out ≠ w.fileAt? map) →
      (∀ path, options.out = some path →
        ran.1.workspace.read path = .ok output.code.toBytes ∧ ran.1.printed = []) ∧
      (options.out = none → ran.1.printed = output.code) ∧
      (∀ path, options.map = some path →
        ran.1.workspace.read path = .ok output.map.toJson.toBytes) ∧
      (Json.parse? output.map.toJson).bind (·.get? "sourcesContent".toList) =
        some (.list [.text code]) := by
  intro ran
  refine ⟨⟨?_, ?_⟩, ?_, ?_⟩
  · exact (frames_runTransform options environment config).directories _
  · intro location hchanged
    by_contra hnone
    refine hchanged ((frames_runTransform options environment config).content? _ location ?_)
    intro path hpath hfile
    exact hnone ⟨path, hpath, hfile⟩
  · intro hnot
    rcases runTransform_cases options environment config { workspace := w } with
      ⟨e, hstop⟩ | ⟨code, result, hfinds, hgo⟩
    · simp only [ran, hstop, and_self]
    · cases result with
      | transformed output => exact absurd hfinds (hnot code output)
      | unchanged reason =>
          simp only [ran, hgo]
          exact Action.tell_eq_ok rfl
  · intro code output hfinds hok happart
    rcases runTransform_cases options environment config { workspace := w } with
      ⟨e, hstop⟩ | ⟨code', result, hfinds', hgo⟩
    · simp [ran, hstop] at hok
    obtain ⟨rfl, rfl⟩ := hfinds.unique hfinds'
    have hdeliver : deliver options (.transformed output) { workspace := w } = (ran.1, .ok ()) := by
      rw [← hgo, ← hok]
    obtain ⟨r, hcode, hprint, hmap, hsame, hprinted⟩ := deliver_eq_ok hdeliver
    obtain ⟨target, t, bytes, -, -, -, -, hresult⟩ := hfinds
    refine ⟨?_, ?_, ?_, ?_⟩
    · intro path hpath
      obtain ⟨hwrite, hquiet⟩ := hcode path hpath
      refine ⟨?_, hprinted.trans hquiet⟩
      cases hmapPath : options.map with
      | none =>
          rw [hsame hmapPath]
          exact Workspace.read_write hwrite
      | some mapPath =>
          -- the map goes to another file, which leaves the code where it is
          refine Workspace.read_write_of_ne (hmap mapPath hmapPath) ?_ (Workspace.read_write hwrite)
          rw [Workspace.fileAt?_write hwrite, Workspace.fileAt?_write hwrite]
          exact happart path mapPath hpath hmapPath
    · intro hout
      exact hprinted.trans (hprint hout).2
    · intro path hpath
      exact Workspace.read_write (hmap path hpath)
    · rw [SourceMap.sourcesContent_toJson, Transformer.content_of_transform hresult]

def scriptText : Text := "usePrerenderData('k', f)".toList

def scriptWorkspace : Workspace where
  files := [(["a.ts".toList], scriptText.toBytes)]
  directories := []

/-- The script is to be replaced, with a map beside it. -/
def inPlace : TransformOptions where
  file := "a.ts".toList
  id := none
  dev := false
  out := some "./a.ts".toList
  map := some "a.map".toList

set_option maxRecDepth 10000 in
theorem inPlace_effects :
    (∀ code output, ¬Finds inPlace [] none Workspace.empty code (.transformed output)) ∧
      (runTransform inPlace [] none { workspace := Workspace.empty }).1.workspace =
        Workspace.empty ∧
      ∃ output, Finds inPlace [] none scriptWorkspace scriptText (.transformed output) ∧
        (runTransform inPlace [] none { workspace := scriptWorkspace }).2 = .ok () ∧
        scriptWorkspace.fileAt? "./a.ts".toList = scriptWorkspace.fileAt? "a.ts".toList ∧
        scriptWorkspace.fileAt? "./a.ts".toList ≠ scriptWorkspace.fileAt? "a.map".toList ∧
        (runTransform inPlace [] none { workspace := scriptWorkspace }).1.workspace.read
          "./a.ts".toList = .ok output.code.toBytes ∧
        (Json.parse? output.map.toJson).bind (·.get? "sourcesContent".toList) =
          some (.list [.text scriptText]) := by
  have hmissing : ∀ code output,
      ¬Finds inPlace [] none Workspace.empty code (.transformed output) := by
    rintro code output ⟨target, t, bytes, -, -, hread, -⟩
    have hvacant : Workspace.empty.read inPlace.file = .error .notFound := by decide
    exact absurd (hvacant.symm.trans hread) (by simp)
  have hrun : ((Settings.load scriptWorkspace [] none).toOption.any fun target =>
      (Transformer.ofTarget target (modeOf inPlace)).toOption.any fun t =>
        ((t.transform "a.ts".toList scriptText).toOption.bind TransformResult.output?).any
          fun _ => true) = true ∧
      (runTransform inPlace [] none { workspace := scriptWorkspace }).2.toOption = some () ∧
      Text.ofBytes? scriptText.toBytes = some scriptText := by
    decide +kernel
  obtain ⟨hresult, hdone, htext⟩ := hrun
  obtain ⟨target, hload, hresult⟩ := exists_of_toOption_any hresult
  obtain ⟨t, htarget, hresult⟩ := exists_of_toOption_any hresult
  obtain ⟨output, houtput, -⟩ := Transformer.exists_of_output?_any hresult
  have hfinds : Finds inPlace [] none scriptWorkspace scriptText (.transformed output) :=
    ⟨target, t, scriptText.toBytes, hload, htarget, by decide, htext, houtput⟩
  have hok : (runTransform inPlace [] none { workspace := scriptWorkspace }).2 = .ok () := by
    cases hran : (runTransform inPlace [] none { workspace := scriptWorkspace }).2 with
    | error e => simp [hran, Except.toOption] at hdone
    | ok u => rfl
  have happart : scriptWorkspace.fileAt? "./a.ts".toList ≠
      scriptWorkspace.fileAt? "a.map".toList := by decide
  obtain ⟨hcode, -, -, hcontent⟩ :=
    (runTransform_effects inPlace [] none scriptWorkspace).2.2 scriptText output hfinds hok (by
      rintro _ _ ⟨⟩ ⟨⟩
      exact happart)
  exact ⟨hmissing, ((runTransform_effects inPlace [] none Workspace.empty).2.1 hmissing).1, output,
    hfinds, hok, by decide, happart, (hcode _ rfl).1, hcontent⟩

end Command

end HandlerGuard
