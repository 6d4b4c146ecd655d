import HandlerGuard.Command.Run
import HandlerGuard.Proofs.Json.Printing
import HandlerGuard.Proofs.Toml.Documents

namespace HandlerGuard

namespace Toml

theorem printPlain_fieldValues {fields : Fields} (h : ∀ f ∈ fields, isBareKey f.1 = true) :
    printPlain (fieldValues fields) = fieldLines fields := by
  induction fields with
  | nil => rfl
  | cons f fields ih =>
      have hrest := ih fun g hg => h g (List.mem_cons_of_mem _ hg)
      have hentry : printPlain (fieldValues (f :: fields)) =
          printEntry f.1 f.2.toValue ++ printPlain (fieldValues fields) := by
        obtain ⟨key, v⟩ := f
        cases v <;> rfl
      rw [hentry, hrest, printEntry, printKey_of_bare (h f List.mem_cons_self)]
      rfl

theorem printTables_fieldValues (path : List Text) (fields : Fields) (rest : List (Text × Value)) :
    printTables path (fieldValues fields ++ rest) = printTables path rest := by
  induction fields with
  | nil => rfl
  | cons f fields ih =>
      obtain ⟨key, v⟩ := f
      have hfirst : printTables path ((key, v.toValue) :: (fieldValues fields ++ rest)) =
          printTables path (fieldValues fields ++ rest) := by
        cases v <;> simp [LeafValue.toValue, printTables]
      exact hfirst.trans ih

def sectionValues (tables : List Section) : List (Text × Value) :=
  tables.map fun table => (table.1, .table (fieldValues table.2))

theorem printTables_sectionValues {tables : List Section}
    (h : ∀ table ∈ tables, ∀ f ∈ table.2, isBareKey f.1 = true) (rest : List (Text × Value)) :
    printTables [] (sectionValues tables ++ rest) =
      tables.flatMap sectionText ++ printTables [] rest := by
  induction tables with
  | nil => rfl
  | cons table tables ih =>
      have hinner : printTables [table.1] (fieldValues table.2) = [] := by
        rw [← List.append_nil (fieldValues table.2), printTables_fieldValues, printTables]
      rw [sectionValues, List.map_cons, List.cons_append, printTables, List.nil_append,
        printPlain_fieldValues (h table List.mem_cons_self), hinner]
      change _ ++ printTables [] (sectionValues tables ++ rest) = _
      rw [ih fun other hother => h other (List.mem_cons_of_mem _ hother)]
      simp [sectionText, headerText]

end Toml

namespace Target

/-- The settings of a target outside of its structures. -/
def topFields (target : Target) : Toml.Fields :=
  [("functionName".toList, .text target.functionName), ("guard".toList, .text target.guard),
    ("include".toList, .texts target.included), ("exclude".toList, .texts target.excluded),
    ("markupExtensions".toList, .texts target.markupExtensions),
    ("devBypass".toList, .flag target.devBypass), ("enabled".toList, .flag target.enabled)]

/-- The structures of a target but for the last. -/
def sections (target : Target) : List Toml.Section :=
  [("fallback".toList, [("symbol".toList, .text target.fallback.symbol),
      ("shape".toList, .shape target.fallback.shape)]),
    ("import".toList, [("statement".toList, .text target.directive.statement),
      ("marker".toList, .text target.directive.marker)])]

def lastSections (target : Target) : List Toml.Section :=
  [("sourcemap".toList, [("hires".toList, .flag target.hires)])]

/-- The settings of a target in their order. -/
def entries (target : Target) : List (Text × Value) :=
  Toml.fieldValues (target.topFields.take 2) ++ (Toml.sectionValues target.sections ++
    (Toml.fieldValues (target.topFields.drop 2) ++ Toml.sectionValues target.lastSections))

theorem toValue_eq (target : Target) : target.toValue = .table target.entries :=
  rfl

/-- The settings of a target in the order of its TOML document. -/
def tomlEntries (target : Target) : List (Text × Value) :=
  Toml.fieldValues target.topFields ++
    Toml.sectionValues target.sections ++ Toml.sectionValues target.lastSections

theorem proper_keys : Toml.Proper ["functionName".toList, "guard".toList, "include".toList,
    "exclude".toList, "markupExtensions".toList, "devBypass".toList, "enabled".toList,
    "fallback".toList, "import".toList, "sourcemap".toList] :=
  ⟨by decide, by decide⟩

theorem proper_sections (target : Target) :
    ∀ table ∈ target.sections, Toml.Proper (table.2.map Prod.fst) := by
  have hfallback : Toml.Proper ["symbol".toList, "shape".toList] := ⟨by decide, by decide⟩
  have hdirective : Toml.Proper ["statement".toList, "marker".toList] := ⟨by decide, by decide⟩
  intro table htable
  rcases List.mem_cons.mp htable with rfl | htable
  · exact hfallback
  · obtain rfl := List.mem_singleton.mp htable
    exact hdirective

/-- The lines of the TOML document of a target but for the last one. -/
def tomlFront (target : Target) : Text :=
  Toml.fieldLines target.topFields ++ target.sections.flatMap Toml.sectionText ++
    Toml.headerText "sourcemap".toList

theorem print_toValue (target : Target) : Toml.print target.toValue =
    target.tomlFront ++ (Toml.fieldText "hires".toList (.flag target.hires) ++ ['\n']) := by
  have hplain : Toml.printPlain (Toml.fieldValues target.topFields) =
      Toml.fieldLines target.topFields := by
    refine Toml.printPlain_fieldValues fun f hf => ?_
    have hmem : f.1 ∈ target.topFields.map Prod.fst := List.mem_map_of_mem hf
    exact proper_keys.bare f.1 (List.mem_append_left ["fallback".toList, "import".toList,
      "sourcemap".toList] hmem)
  have hbare : ∀ table ∈ target.sections, ∀ f ∈ table.2, Toml.isBareKey f.1 = true := by
    intro table htable f hf
    exact (target.proper_sections table htable).bare f.1 (List.mem_map_of_mem hf)
  have hlast : ∀ table ∈ target.lastSections, ∀ f ∈ table.2, Toml.isBareKey f.1 = true := by
    have hkey : Toml.isBareKey "hires".toList = true := by decide
    exact List.forall_mem_singleton.mpr (List.forall_mem_singleton.mpr hkey)
  change Toml.printPlain (Toml.fieldValues target.topFields) ++
    Toml.printTables [] (Toml.fieldValues (target.topFields.take 2) ++
      (Toml.sectionValues target.sections ++ (Toml.fieldValues (target.topFields.drop 2) ++
        (Toml.sectionValues target.lastSections ++ [])))) = _
  rw [hplain, Toml.printTables_fieldValues, Toml.printTables_sectionValues hbare,
    Toml.printTables_fieldValues, Toml.printTables_sectionValues hlast, Toml.printTables]
  simp [tomlFront, lastSections, Toml.sectionText, Toml.fieldLines]

theorem parse?_toml (target : Target) {tail : Text} (htail : tail = [] ∨ tail = ['\n']) :
    Toml.parse? (target.tomlFront ++
        (Toml.fieldText "hires".toList (.flag target.hires) ++ tail)) =
      some (.table target.tomlEntries) :=
  Toml.parse?_lines (.flag target.hires) htail (by simp [topFields]) proper_keys (by decide)
    target.proper_sections

theorem readsBack_leaf (level depth : Nat) (v : LeafValue) :
    Json.ReadsBack level (depth + 1) v.toValue := by
  cases v with
  | text t => exact Json.readsBack_text level (depth + 1) t
  | shape s => exact Json.readsBack_text level (depth + 1) s.label
  | flag b => exact Json.readsBack_bool level (depth + 1) b
  | texts ts =>
      refine Json.readsBack_list fun v hv => ?_
      obtain ⟨t, -, rfl⟩ := List.mem_map.mp hv
      exact Json.readsBack_text (level + 1) depth t

theorem readsBack_fieldValues (level depth : Nat) (fields : Toml.Fields) :
    ∀ entry ∈ Toml.fieldValues fields, Json.ReadsBack level (depth + 1) entry.2 := by
  intro entry hentry
  obtain ⟨f, -, rfl⟩ := List.mem_map.mp hentry
  exact readsBack_leaf level depth f.2

theorem readsBack_sectionValues (level depth : Nat) {tables : List Toml.Section}
    (h : ∀ table ∈ tables, (table.2.map Prod.fst).Nodup) :
    ∀ entry ∈ Toml.sectionValues tables, Json.ReadsBack level (depth + 2) entry.2 := by
  intro entry hentry
  obtain ⟨table, htable, rfl⟩ := List.mem_map.mp hentry
  refine Json.readsBack_table (readsBack_fieldValues (level + 1) depth table.2) ?_
  simpa [Toml.fieldValues, Function.comp_def] using h table htable

theorem readsBack_toValue (target : Target) (level depth : Nat) :
    Json.ReadsBack level (depth + 3) target.toValue := by
  have hkeys : (["functionName".toList, "guard".toList, "fallback".toList, "import".toList,
      "include".toList, "exclude".toList, "markupExtensions".toList, "devBypass".toList,
      "enabled".toList, "sourcemap".toList] : List Text).Nodup := by
    decide
  have hsections := readsBack_sectionValues (level + 1) depth fun table htable =>
    (target.proper_sections table htable).nodup
  have hlast : ∀ entry ∈ Toml.sectionValues target.lastSections,
      Json.ReadsBack (level + 1) (depth + 2) entry.2 := by
    refine readsBack_sectionValues (level + 1) depth ?_
    simp [lastSections]
  rw [toValue_eq]
  refine Json.readsBack_table ?_ hkeys
  simp only [entries, List.forall_mem_append]
  exact ⟨readsBack_fieldValues (level + 1) (depth + 1) _, hsections,
    readsBack_fieldValues (level + 1) (depth + 1) _, hlast⟩

theorem parse?_json (target : Target) {tail : Text} (htail : tail = [] ∨ tail = ['\n']) :
    Json.parse? (Json.print target.toValue ++ tail) = some target.toValue := by
  refine Json.parse?_print (target.readsBack_toValue 0 124) ?_
  rcases htail with rfl | rfl <;> rfl

end Target

namespace Text

theorem trimEnd_append_of_not_blank {t : Text} {c : Char} (h : isBlank c = false) (blanks : Text)
    (hblanks : ∀ b ∈ blanks, isBlank b = true) : trimEnd (t ++ [c] ++ blanks) = t ++ [c] := by
  have hdrop : ((t ++ [c] ++ blanks).reverse).dropWhile isBlank = (t ++ [c]).reverse := by
    have hback : ∀ b ∈ blanks.reverse, isBlank b = true := fun b hb =>
      hblanks b (List.mem_reverse.mp hb)
    rw [List.reverse_append, List.dropWhile_append_of_pos hback]
    simp [h]
  rw [trimEnd, hdrop, List.reverse_reverse]

end Text

namespace Target

theorem document_toml (target : Target) : Command.document false target =
    target.tomlFront ++ Toml.fieldText "hires".toList (.flag target.hires) := by
  have hlast : ∃ t c, Toml.fieldText "hires".toList (.flag target.hires) = t ++ [c] ∧
      Text.isBlank c = false := by
    cases target.hires
    · exact ⟨"hires = fals".toList, 'e', rfl, rfl⟩
    · exact ⟨"hires = tru".toList, 'e', rfl, rfl⟩
  obtain ⟨t, c, hfield, hc⟩ := hlast
  change Text.trimEnd (Toml.print target.toValue) = _
  rw [print_toValue, hfield, ← List.append_assoc, ← List.append_assoc]
  exact Text.trimEnd_append_of_not_blank hc ['\n'] (List.forall_mem_singleton.mpr rfl)

theorem document_json (target : Target) :
    Command.document true target = Json.print target.toValue := by
  have hlast : ∃ t, Json.print target.toValue = t ++ ['\x7d'] := ⟨_, rfl⟩
  obtain ⟨t, hprint⟩ := hlast
  change Text.trimEnd (Json.print target.toValue) = _
  rw [hprint, ← List.append_nil (t ++ _)]
  exact (Text.trimEnd_append_of_not_blank rfl [] (by simp)).trans (List.append_nil _).symm

def documentFormat (json : Bool) : FileFormat := if json then .json else .toml

/-- In the document of a target every single setting stands under its keys, also if a line feed ends the
document. -/
theorem parseTable?_document (json : Bool) (target : Target) {tail : Text}
    (htail : tail = [] ∨ tail = ['\n']) :
    ∃ entries,
      Settings.parseTable? (documentFormat json) (Command.document json target ++ tail) =
        some (.table entries) ∧
      ∀ (layer : Layer) (leaf : TargetLeaf),
        (Setting.ofValue layer (.table entries)).find? leaf.path =
          some (.leaf layer (leaf.valueIn target).toValue) := by
  cases json with
  | true =>
      have hparse := target.toValue_eq ▸ parse?_json target htail
      refine ⟨target.entries, ?_, fun layer leaf => ?_⟩
      · rw [document_json]
        simp only [documentFormat, if_true, Settings.parseTable?, toValue_eq, hparse]
      · cases leaf <;> rfl
  | false =>
      have hparse := parse?_toml target htail
      refine ⟨target.tomlEntries, ?_, fun layer leaf => ?_⟩
      · rw [document_toml, List.append_assoc]
        simp only [documentFormat, Bool.false_eq_true, if_false, Settings.parseTable?, hparse]
      · cases leaf <;> rfl

end Target

end HandlerGuard
