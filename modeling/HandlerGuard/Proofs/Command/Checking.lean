import HandlerGuard.Proofs.Command.Effects
import HandlerGuard.Proofs.Settings.Precedence
import HandlerGuard.Proofs.Target.Validation
import HandlerGuard.Proofs.Target.Writing
import HandlerGuard.Proofs.Text.Utf8

namespace HandlerGuard

namespace Environment

theorem settings?_of_unset {environment : Environment}
    (h : ∀ entry ∈ environment, variablePath? entry.1 = none) :
    environment.settings? = some (.table .environment []) := by
  unfold settings?
  induction environment with
  | nil => rfl
  | cons entry environment ih =>
      have hentry : addVariable? (.table .environment []) entry = some (.table .environment []) := by
        rw [addVariable?, h entry List.mem_cons_self]
      rw [List.foldlM_cons, hentry]
      exact ih fun other hother => h other (List.mem_cons_of_mem _ hother)

end Environment

namespace Settings

variable {w : Workspace} {environment : Environment} {path t : Text}
  {entries : List (Text × Value)} {target : Target}

theorem fileLayer_of_text (hread : w.read path = .ok (Text.toBytes t))
    (hparse : parseTable? (formatOf path) t = some (.table entries)) :
    fileLayer w (some path) =
      .ok (some (Setting.ofValue (.file (formatOf path) (displayPath path)) (.table entries))) := by
  have hsource : sourceFile w (some path) = .ok (some path) := by
    rw [sourceFile, if_pos (Workspace.hasPath_of_read hread)]
  refine bind_eq_ok_iff.mpr ⟨_, hsource, ?_⟩
  rw [Option.elim_some, fileSettings, hread]
  simp only [Text.ofBytes?_toBytes, Option.bind_some, hparse]

/-- A file that has every single setting of a valid target is loaded as this target, if no variable sets
anything. -/
theorem load_of_leaves (hread : w.read path = .ok (Text.toBytes t))
    (hparse : parseTable? (formatOf path) t = some (.table entries))
    (hleaves : ∀ (layer : Layer) (leaf : TargetLeaf),
      (Setting.ofValue layer (.table entries)).find? leaf.path =
        some (.leaf layer (leaf.valueIn target).toValue))
    (henvironment : ∀ entry ∈ environment, Environment.variablePath? entry.1 = none)
    (hvalid : target.validate = .ok ()) : load w environment (some path) = .ok target := by
  let layer := Layer.file (formatOf path) (displayPath path)
  obtain ⟨merged, hmerged⟩ := Setting.merge_table defaults layer (Setting.ofEntries layer entries)
  have hsetting : (defaults.merge (Setting.ofValue layer (.table entries))).merge
      (.table .environment []) = .table .environment merged := by
    rw [Setting.ofValue, hmerged, Setting.table_merge_empty]
  have hlayered : layered w environment (some path) = .ok (.table .environment merged) :=
    layered_eq_ok_iff.mpr ⟨_, _, fileLayer_of_text hread hparse,
      Environment.settings?_of_unset henvironment, hsetting.symm⟩
  have hdecoded : Decoder.target false [] (.table .environment merged) = .ok target := by
    refine TargetLeaf.target_of_leaves fun leaf => ⟨layer, ?_⟩
    have hpasses : (Setting.table .environment []).passes leaf.path = true := by
      cases leaf <;> rfl
    rw [← hsetting]
    exact Setting.find?_merge_eq_leaf_iff.mpr
      (Or.inr ⟨hpasses, Setting.find?_merge_eq_leaf_iff.mpr (Or.inl (hleaves layer leaf))⟩)
  exact load_eq_ok_iff.mpr ⟨_, hlayered, hdecoded, hvalid⟩

end Settings

namespace Transformer

theorem exists_ofTarget {target : Target} (h : target.validate = .ok ()) (mode : BuildMode) :
    ∃ t, ofTarget target mode = .ok t := by
  obtain ⟨included, hincluded⟩ := (Target.validate_eq_ok_iff.mp h).included_read
  obtain ⟨excluded, hexcluded⟩ := (Target.validate_eq_ok_iff.mp h).excluded_read
  simp only [ofTarget, ModuleFilter.ofTarget, bind_eq_ok_iff]
  exact ⟨_, (), h, _, ⟨_, hincluded, _, hexcluded, rfl⟩, rfl⟩

end Transformer

namespace Action

theorem hasPath_eq (path : Text) (p : Progress) :
    hasPath path p = (p, .ok (p.workspace.hasPath path)) :=
  rfl

theorem print_eq (t : Text) (p : Progress) :
    print t p = ({ p with printed := p.printed ++ t }, .ok ()) :=
  rfl

theorem tell_eq (notice : Notice) (p : Progress) :
    tell notice p = ({ p with notices := p.notices ++ [notice] }, .ok ()) :=
  rfl

end Action

namespace Command

variable {w : Workspace} {environment : Environment} {config : Option Text} {target : Target}

theorem runCheck_of_load {p : Progress} (json : Bool)
    (hload : Settings.load p.workspace environment config = .ok target) :
    ∃ q, runCheck json environment config p = (q, .ok ()) ∧ q.workspace = p.workspace ∧
      q.printed = p.printed ++ (document json target ++ ['\n']) := by
  obtain ⟨-, -, -, hvalid⟩ := Settings.load_eq_ok_iff.mp hload
  obtain ⟨t, ht⟩ := Transformer.exists_ofTarget hvalid .production
  have hloaded : ∀ notices, Action.loadTarget environment config { p with notices } =
      ({ p with notices }, .ok target) := by
    intro notices
    rw [Action.loadTarget, hload]
    rfl
  have hfiltered : ∀ r : Progress, Action.lift (.settings ∘ .invalid)
      (Transformer.ofTarget target .production) r = (r, .ok t) := by
    intro r
    rw [Action.lift, ht]
    rfl
  unfold runCheck
  rw [Action.bind_of_ok (Action.hasPath_eq Settings.usualFile p)]
  dsimp only
  rw [Action.bind_of_ok (Action.tell_eq _ p), Action.bind_of_ok (hloaded _),
    Action.bind_of_ok (hfiltered _), Action.bind_of_ok (Action.print_eq _ _), Action.tell_eq]
  exact ⟨_, rfl, rfl, rfl⟩

theorem load_of_document {w' : Workspace} {path tail : Text} {json : Bool}
    (hvalid : target.validate = .ok ()) (htail : tail = [] ∨ tail = ['\n'])
    (hformat : Settings.formatOf path = Target.documentFormat json)
    (hwrite : w.write path (Text.toBytes (document json target ++ tail)) = .ok w')
    (henvironment : ∀ entry ∈ environment, Environment.variablePath? entry.1 = none) :
    Settings.load w' environment (some path) = .ok target := by
  obtain ⟨entries, hparse, hleaves⟩ := target.parseTable?_document json htail
  rw [← hformat] at hparse
  exact Settings.load_of_leaves (Workspace.read_write hwrite) hparse hleaves henvironment hvalid

/-- A file that holds what the check command prints for a valid target, with or without the line feed
at the end, is loaded as this target, whatever texts it has, if no variable sets anything. The command
prints this document wherever the target is loaded from, and so also for the file itself. -/
theorem check_reproduces_target (target : Target) :
    (∀ (w w' : Workspace) (path tail : Text) (json : Bool) (environment : Environment),
        target.validate = .ok () → tail = [] ∨ tail = ['\n'] →
        Settings.formatOf path = Target.documentFormat json →
        w.write path (Text.toBytes (document json target ++ tail)) = .ok w' →
        (∀ entry ∈ environment, Environment.variablePath? entry.1 = none) →
        Settings.load w' environment (some path) = .ok target) ∧
      ∀ (json : Bool) (environment : Environment) (config : Option Text) (p : Progress),
        Settings.load p.workspace environment config = .ok target →
          ∃ q, runCheck json environment config p = (q, .ok ()) ∧ q.workspace = p.workspace ∧
            q.printed = p.printed ++ (document json target ++ ['\n']) := by
  constructor
  · intro w w' path tail json environment hvalid htail hformat hwrite henvironment
    exact load_of_document hvalid htail hformat hwrite henvironment
  · intro json environment config p hload
    exact runCheck_of_load json hload

/-- A target with quotes, control characters and a line feed in its texts, and without patterns. -/
def oddTarget : Target :=
  { Target.standard with
    guard := "mode === \"pré\" /*\\\t\n\x7f*/".toList
    included := []
    excluded := []
    markupExtensions := ["".toList, " '''".toList]
    hires := false }

theorem oddTarget_reproduced :
    ∃ w', Workspace.empty.write "odd.json".toList
        (Text.toBytes (document true oddTarget ++ ['\n'])) = .ok w' ∧
      Settings.load w' [("HOME".toList, "/".toList)] (some "odd.json".toList) = .ok oddTarget ∧
      ∃ q, runCheck false [("HOME".toList, "/".toList)] (some "odd.json".toList) ⟨w', [], []⟩ =
          (q, .ok ()) ∧ q.workspace = w' ∧ q.printed = document false oddTarget ++ ['\n'] := by
  have hvalid : oddTarget.validate = .ok () := by decide +kernel
  have hformat : Settings.formatOf "odd.json".toList = .json := by decide
  have hunset : ∀ entry ∈ [("HOME".toList, "/".toList)],
      Environment.variablePath? entry.1 = none := by
    decide
  have hwrite : ∀ bytes, ∃ w', Workspace.empty.write "odd.json".toList bytes = .ok w' :=
    fun bytes => ⟨_, rfl⟩
  obtain ⟨w', hw'⟩ := hwrite (Text.toBytes (document true oddTarget ++ ['\n']))
  obtain ⟨hread, hcheck⟩ := check_reproduces_target oddTarget
  have hload := hread _ w' _ _ true _ hvalid (Or.inr rfl) hformat hw' hunset
  exact ⟨w', hw', hload, hcheck false _ _ ⟨w', [], []⟩ hload⟩

end Command

end HandlerGuard
