import Mathlib.Algebra.GroupWithZero.Nat
import HandlerGuard.Proofs.Command.Checking

namespace HandlerGuard

/-- A file with its text, and the calls in it or why it is skipped. -/
structure FileScan where
  file : Text
  code : Text
  calls : Except SkipReason (List CallSite)

namespace FileScan

/-- The file is there, its text is this one, and the calls are those that are found in it. -/
structure IsOf (t : Transformer) (id : Option Text) (w : Workspace) (file : Text) (s : FileScan) :
    Prop where
  file_eq : s.file = file
  code_read : ∃ bytes, w.read file = .ok bytes ∧ Text.ofBytes? bytes = some s.code
  calls_eq : s.calls = t.scan (id.getD file) s.code

/-- The calls in the file; none if it is skipped. -/
def sites (s : FileScan) : List CallSite :=
  match s.calls with
  | .ok sites => sites
  | .error _ => []

def notices (s : FileScan) : List Notice :=
  match s.calls with
  | .ok _ => []
  | .error reason => [Command.skipNotice s.file reason]

end FileScan

/-- A call that is found in a file. -/
structure FoundCall where
  scan : FileScan
  site : CallSite

namespace FoundCall

def IsToldBy (call : FoundCall) (line : Text) : Prop :=
  call.site.line? call.scan.file (LineIndex.ofText call.scan.code) = some line

/-- Neither the path of the file nor the key of the call has a line feed. -/
def Unbroken (call : FoundCall) : Prop :=
  '\n' ∉ call.scan.file ∧ ∀ key, call.site.keyText call.scan.code = some (some key) → '\n' ∉ key

/-- The number of line feeds in the path of the file and in the key of the call. -/
def lineFeeds (call : FoundCall) : Nat :=
  call.scan.file.count '\n' + ((call.site.keyText call.scan.code).join.getD []).count '\n'

end FoundCall

namespace FileScan

/-- The calls of all files, in the order of the files and of the calls in them. -/
def allCalls (scans : List FileScan) : List FoundCall :=
  scans.flatMap fun s => s.sites.map (FoundCall.mk s)

theorem length_allCalls (scans : List FileScan) :
    (allCalls scans).length = (scans.map fun s => s.sites.length).sum := by
  simp [allCalls, List.length_flatMap]

end FileScan

theorem Text.lineFeed_not_mem_ofNat (n : Nat) : '\n' ∉ Text.ofNat n := by
  intro hmem
  exact absurd (Nat.isDigit_of_mem_toDigits (by decide) (by decide) hmem) (by decide)

theorem CallStatus.lineFeed_not_mem_note {status : CallStatus} {note : Text}
    (h : status.note? = some note) : '\n' ∉ note := by
  cases status <;> simp only [note?, reduceCtorEq, Option.some.injEq] at h <;> subst h <;> decide

namespace FoundCall

variable {call : FoundCall} {line : Text}

theorem IsToldBy.count_lineFeed (h : call.IsToldBy line) : line.count '\n' = call.lineFeeds := by
  obtain ⟨position, -, h⟩ := Option.bind_eq_some_iff.mp h
  obtain ⟨key, hkey, h⟩ := Option.bind_eq_some_iff.mp h
  obtain rfl := Option.some.inj h
  have hkey : call.site.keyText call.scan.code = some key := hkey
  have hnumber : ∀ n, (Text.ofNat n).count '\n' = 0 :=
    fun n => List.count_eq_zero.mpr (Text.lineFeed_not_mem_ofNat n)
  have hwritten : (key.getD CallSite.noKey).count '\n' = (key.getD []).count '\n' := by
    cases key with
    | none => rfl
    | some written => rfl
  have hnote : (call.site.status.note?.elim [] fun note => " (".toList ++ note ++ [')']).count '\n' =
      0 := by
    cases hstatus : call.site.status.note? with
    | none => rfl
    | some note =>
        have hplain := CallStatus.lineFeed_not_mem_note hstatus
        exact List.count_eq_zero.mpr (by simp [hplain])
  simp only [List.count_append, hnumber, hnote, hwritten, lineFeeds, hkey, Option.join_some]
  simp

theorem lineFeeds_eq_zero_iff : call.lineFeeds = 0 ↔ call.Unbroken := by
  rw [lineFeeds, Nat.add_eq_zero_iff, List.count_eq_zero, List.count_eq_zero, Unbroken]
  refine and_congr_right fun _ => ?_
  rcases call.site.keyText call.scan.code with _ | _ | key
  · simp
  · simp
  · simp

theorem count_lineFeed_printed {calls : List FoundCall} {lines : List Text}
    (h : List.Forall₂ IsToldBy calls lines) :
    (lines.flatMap (· ++ ['\n'])).count '\n' = calls.length + (calls.map lineFeeds).sum := by
  induction h with
  | nil => rfl
  | cons hline hlines ih =>
      rw [List.flatMap_cons, List.count_append, List.count_append, hline.count_lineFeed, ih,
        List.length_cons, List.map_cons, List.sum_cons, List.count_singleton_self]
      omega

end FoundCall

namespace Progress

/-- The progress after something more is printed and told. -/
def goOn (p : Progress) (printed : Text) (notices : List Notice) : Progress :=
  { p with printed := p.printed ++ printed, notices := p.notices ++ notices }

theorem goOn_nil (p : Progress) : p.goOn [] [] = p := by
  simp [goOn]

theorem goOn_goOn (p : Progress) (a b : Text) (m n : List Notice) :
    (p.goOn a m).goOn b n = p.goOn (a ++ b) (m ++ n) := by
  simp [goOn]

end Progress

namespace Action

theorem print_eq_goOn (t : Text) (p : Progress) : print t p = (p.goOn t [], .ok ()) := by
  simp [print, Progress.goOn]

theorem tell_eq_goOn (notice : Notice) (p : Progress) :
    tell notice p = (p.goOn [] [notice], .ok ()) := by
  simp [tell, Progress.goOn]

end Action

namespace Command

variable {t : Transformer} {id : Option Text} {p q : Progress}

theorem printCalls_eq_ok {path : Text} {index : LineIndex} {sites : List CallSite} {u : Unit}
    (h : printCalls path index sites p = (q, .ok u)) :
    ∃ lines, List.Forall₂ (fun site line => site.line? path index = some line) sites lines ∧
      q = p.goOn (lines.flatMap (· ++ ['\n'])) [] := by
  induction sites generalizing p with
  | nil =>
      obtain rfl : p = q := congrArg Prod.fst h
      exact ⟨[], .nil, p.goOn_nil.symm⟩
  | cons site rest ih =>
      unfold printCalls at h
      cases hline : site.line? path index with
      | none =>
          simp only [hline] at h
          obtain ⟨_, r, hstop, -⟩ := Action.bind_eq_ok h
          exact absurd (congrArg Prod.snd hstop) (by simp [Action.lift, Except.mapError])
      | some line =>
          simp only [hline] at h
          rw [Action.bind_of_ok (Action.print_eq_goOn _ p)] at h
          obtain ⟨lines, hlines, rfl⟩ := ih h
          exact ⟨line :: lines, .cons hline hlines, p.goOn_goOn _ _ _ _⟩

theorem scanFiles_cons_eq_ok {file : Text} {rest : List Text} {total guardable : Nat}
    (h : scanFiles t id (file :: rest) p = (q, .ok (total, guardable))) :
    ∃ s lines total' guardable', FileScan.IsOf t id p.workspace file s ∧
      List.Forall₂ (fun site line => FoundCall.IsToldBy ⟨s, site⟩ line) s.sites lines ∧
      scanFiles t id rest (p.goOn (lines.flatMap (· ++ ['\n'])) s.notices) =
        (q, .ok (total', guardable')) ∧
      total = s.sites.length + total' ∧
      guardable = s.sites.countP CallSite.isGuardable + guardable' := by
  unfold scanFiles at h
  rcases readText_cases file p with ⟨e, hstop⟩ | ⟨bytes, code, hbytes, hcode, hgo⟩
  · rw [Action.bind_of_error hstop] at h
    exact absurd (congrArg Prod.snd h) (by simp)
  rw [Action.bind_of_ok hgo] at h
  cases hscan : t.scan (id.getD file) code with
  | error reason =>
      simp only [hscan] at h
      rw [Action.bind_of_ok (Action.tell_eq_goOn _ p)] at h
      exact ⟨⟨file, code, .error reason⟩, [], total, guardable,
        ⟨rfl, ⟨bytes, hbytes, hcode⟩, hscan.symm⟩, .nil, h, (Nat.zero_add _).symm,
        (Nat.zero_add _).symm⟩
  | ok sites =>
      simp only [hscan] at h
      obtain ⟨_, r, hprint, h⟩ := Action.bind_eq_ok h
      obtain ⟨lines, hlines, rfl⟩ := printCalls_eq_ok hprint
      obtain ⟨⟨total', guardable'⟩, r, hrest, h⟩ := Action.bind_eq_ok h
      obtain ⟨rfl, hcounts⟩ := Prod.mk.inj h
      obtain ⟨rfl, rfl⟩ := Prod.mk.inj (Except.ok.inj hcounts)
      exact ⟨⟨file, code, .ok sites⟩, lines, total', guardable',
        ⟨rfl, ⟨bytes, hbytes, hcode⟩, hscan.symm⟩, hlines, hrest, rfl, rfl⟩

theorem scanFiles_eq_ok {files : List Text} {total guardable : Nat}
    (h : scanFiles t id files p = (q, .ok (total, guardable))) :
    ∃ scans lines, List.Forall₂ (FileScan.IsOf t id p.workspace) files scans ∧
      List.Forall₂ FoundCall.IsToldBy (FileScan.allCalls scans) lines ∧
      q = p.goOn (lines.flatMap (· ++ ['\n'])) (scans.flatMap FileScan.notices) ∧
      total = (scans.map fun s => s.sites.length).sum ∧
      guardable = (scans.map fun s => s.sites.countP CallSite.isGuardable).sum := by
  induction files generalizing p total guardable with
  | nil =>
      obtain ⟨rfl, hcounts⟩ := Prod.mk.inj h
      obtain ⟨rfl, rfl⟩ := Prod.mk.inj (Except.ok.inj hcounts)
      exact ⟨[], [], .nil, .nil, p.goOn_nil.symm, rfl, rfl⟩
  | cons file rest ih =>
      obtain ⟨s, lines, total', guardable', hs, hlines, hrest, rfl, rfl⟩ := scanFiles_cons_eq_ok h
      obtain ⟨scans, more, hscans, hmore, rfl, rfl, rfl⟩ := ih hrest
      -- what the first file adds to the output stands before what the others add
      have hfirst : List.Forall₂ FoundCall.IsToldBy (s.sites.map (FoundCall.mk s)) lines :=
        List.forall₂_map_left_iff.mpr hlines
      refine ⟨s :: scans, lines ++ more, .cons hs hscans, List.rel_append hfirst hmore, ?_, rfl, rfl⟩
      rw [Progress.goOn_goOn, List.flatMap_append, List.flatMap_cons]

theorem runScan_eq_ok {options : ScanOptions} {environment : Environment} {config : Option Text}
    {u : Unit} (h : runScan options environment config p = (q, .ok u)) :
    ∃ target t r total guardable, Settings.load p.workspace environment config = .ok target ∧
      Transformer.ofTarget target .production = .ok t ∧
      scanFiles t options.id options.files p = (r, .ok (total, guardable)) ∧
      q = r.goOn [] [scanSummary total guardable] := by
  unfold runScan at h
  split at h
  · -- one id for several files
    obtain ⟨_, r, hstop, -⟩ := Action.bind_eq_ok h
    exact absurd (congrArg Prod.snd hstop) (by simp [Action.lift, Except.mapError])
  obtain ⟨t, r, hloaded, h⟩ := Action.bind_eq_ok h
  rcases loadTransformer_cases .production p with ⟨e, hstop⟩ | ⟨target, t', hload, htarget, hgo⟩
  · rw [hstop] at hloaded
    exact absurd (congrArg Prod.snd hloaded) (by simp)
  obtain ⟨rfl, ht⟩ := Prod.mk.inj (hgo.symm.trans hloaded)
  obtain rfl := Except.ok.inj ht
  obtain ⟨⟨total, guardable⟩, r, hfiles, h⟩ := Action.bind_eq_ok h
  refine ⟨target, t', r, total, guardable, hload, htarget, hfiles, ?_⟩
  exact (congrArg Prod.fst ((Action.tell_eq_goOn _ r).symm.trans h)).symm

/-- A scan that succeeds has read every file and found the calls in those that it does not skip. It prints
them in the order of the files and of the calls in them, each with a line feed behind it, and tells their
number and how many of them are guardable. The output has a line for each call, and one more for each line
feed in a path or a key; so there are as many lines as calls exactly if the paths and keys have none. -/
theorem scan_lists_calls (options : ScanOptions) (environment : Environment) (config : Option Text)
    (w : Workspace) (q : Progress)
    (h : runScan options environment config { workspace := w } = (q, .ok ())) :
    ∃ target t scans lines total guardable,
      Settings.load w environment config = .ok target ∧
      Transformer.ofTarget target .production = .ok t ∧
      List.Forall₂ (FileScan.IsOf t options.id w) options.files scans ∧
      total = (scans.map fun s => s.sites.length).sum ∧
      guardable = (scans.map fun s => s.sites.countP CallSite.isGuardable).sum ∧
      q.workspace = w ∧
      q.notices = scans.flatMap FileScan.notices ++ [scanSummary total guardable] ∧
      List.Forall₂ FoundCall.IsToldBy (FileScan.allCalls scans) lines ∧
      lines.length = total ∧
      q.printed = lines.flatMap (· ++ ['\n']) ∧
      q.printed.count '\n' = total + ((FileScan.allCalls scans).map FoundCall.lineFeeds).sum ∧
      (q.printed.count '\n' = total ↔ ∀ call ∈ FileScan.allCalls scans, call.Unbroken) := by
  obtain ⟨target, t, r, total, guardable, hload, htarget, hfiles, rfl⟩ := runScan_eq_ok h
  obtain ⟨scans, lines, hscans, hlines, rfl, htotal, hguardable⟩ := scanFiles_eq_ok hfiles
  have hlength : lines.length = total := by
    rw [← hlines.length_eq, FileScan.length_allCalls, htotal]
  rw [Progress.goOn_goOn, List.append_nil]
  have hcount : (lines.flatMap (· ++ ['\n'])).count '\n' =
      total + ((FileScan.allCalls scans).map FoundCall.lineFeeds).sum := by
    rw [FoundCall.count_lineFeed_printed hlines, FileScan.length_allCalls, htotal]
  refine ⟨target, t, scans, lines, total, guardable, hload, htarget, hscans, htotal, hguardable, rfl,
    rfl, hlines, hlength, rfl, hcount, ?_⟩
  -- before the scan nothing was printed
  change (lines.flatMap (· ++ ['\n'])).count '\n' = total ↔ _
  rw [hcount, Nat.add_eq_left, List.sum_eq_zero_iff_forall_eq_nat]
  simp only [List.forall_mem_map, FoundCall.lineFeeds_eq_zero_iff]

/-- A script with a call whose key is written over two lines. -/
def tallKeyText : Text := "usePrerenderData(`a\nb`, f)".toList

/-- A workspace with the script and a style sheet. -/
def tallKeyWorkspace : Workspace where
  files := [(["a.ts".toList], tallKeyText.toBytes), (["b.css".toList], [])]
  directories := []

def tallKeyScan : ScanOptions where
  files := ["b.css".toList, "a.ts".toList]
  id := none

set_option maxRecDepth 10000 in
theorem exists_runScan_tallKey :
    ∃ q, runScan tallKeyScan [] none { workspace := tallKeyWorkspace } = (q, .ok ()) ∧
      q.notices = [.info "b.css: skipped (excluded by filter)".toList,
        .success "1 call site found, 1 rewritable".toList] ∧
      q.printed = "a.ts:1:1 `a\nb`\n".toList := by
  have hrun : (runScan tallKeyScan [] none { workspace := tallKeyWorkspace }).2.toOption = some () ∧
      (runScan tallKeyScan [] none { workspace := tallKeyWorkspace }).1.notices =
        [.info "b.css: skipped (excluded by filter)".toList,
          .success "1 call site found, 1 rewritable".toList] ∧
      (runScan tallKeyScan [] none { workspace := tallKeyWorkspace }).1.printed =
        "a.ts:1:1 `a\nb`\n".toList := by
    decide +kernel
  revert hrun
  rcases runScan tallKeyScan [] none { workspace := tallKeyWorkspace } with ⟨q, e | u⟩
  · rintro ⟨hdone, -⟩
    exact absurd hdone (by simp [Except.toOption])
  · rintro ⟨-, hnotices, hprinted⟩
    exact ⟨q, rfl, hnotices, hprinted⟩

theorem tallKey_listed :
    ∃ (q : Progress) (t : Transformer) (scans : List FileScan) (lines : List Text),
      runScan tallKeyScan [] none { workspace := tallKeyWorkspace } = (q, .ok ()) ∧
      List.Forall₂ (FileScan.IsOf t none tallKeyWorkspace) ["b.css".toList, "a.ts".toList] scans ∧
      List.Forall₂ FoundCall.IsToldBy (FileScan.allCalls scans) lines ∧
      lines.flatMap (· ++ ['\n']) = "a.ts:1:1 `a\nb`\n".toList ∧
      lines.length + ((FileScan.allCalls scans).map FoundCall.lineFeeds).sum = 2 := by
  obtain ⟨q, hrun, -, hprinted⟩ := exists_runScan_tallKey
  obtain ⟨target, t, scans, lines, total, guardable, -, -, hscans, -, -, -, -, hlines, hlength, hlist,
    hcount, -⟩ := scan_lists_calls tallKeyScan [] none tallKeyWorkspace q hrun
  refine ⟨q, t, scans, lines, hrun, hscans, hlines, hlist.symm.trans hprinted, ?_⟩
  rw [hlength, ← hcount, hprinted]
  decide

/-- One call is found, and the output has two lines. -/
theorem tallKey_two_lines :
    ∃ q, runScan tallKeyScan [] none { workspace := tallKeyWorkspace } = (q, .ok ()) ∧
      q.notices.getLast? = some (.success "1 call site found, 1 rewritable".toList) ∧
      q.printed.count '\n' = 2 := by
  obtain ⟨q, hrun, hnotices, hprinted⟩ := exists_runScan_tallKey
  refine ⟨q, hrun, ?_, ?_⟩
  · rw [hnotices]
    rfl
  · rw [hprinted]
    decide

end Command

end HandlerGuard
