import HandlerGuard.Proofs.Settings.Variables
import HandlerGuard.Settings.Loading

namespace HandlerGuard

namespace Decoder

variable {α : Type} {entries : List (Text × α)} {name : Text} {content : α}

theorem exists_least (h : entries ≠ []) : ∃ entry, leastNamed? entries = some entry := by
  cases entries with
  | nil => exact absurd rfl h
  | cons entry entries =>
      rw [leastNamed?]
      cases leastNamed? entries <;> exact ⟨_, rfl⟩

theorem lookup_of_least (h : leastNamed? entries = some (name, content)) :
    entries.lookup name = some content ∧ ∀ entry ∈ entries, ¬entry.1 < name := by
  induction entries generalizing name content with
  | nil => exact absurd h (by simp [leastNamed?])
  | cons first entries ih =>
      rw [leastNamed?] at h
      split at h
      case h_1 other hother =>
          obtain ⟨hlookup, hleast⟩ := ih hother
          split at h
          case isTrue hlt =>
              obtain rfl := Option.some.inj h
              have hne : name ≠ first.1 := fun heq => List.lt_irrefl _ (heq ▸ hlt)
              refine ⟨?_, ?_⟩
              · rw [List.lookup_cons, beq_false_of_ne hne]
                exact hlookup
              · intro entry hentry
                rcases List.mem_cons.mp hentry with rfl | hentry
                · exact List.not_lt.mpr (List.le_of_lt hlt)
                · exact hleast entry hentry
          case isFalse hge =>
              obtain rfl := Option.some.inj h
              refine ⟨by simp, ?_⟩
              intro entry hentry
              rcases List.mem_cons.mp hentry with rfl | hentry
              · exact List.lt_irrefl _
              · exact List.not_lt.mpr
                  (List.le_trans (List.not_lt.mp hge) (List.not_lt.mp (hleast entry hentry)))
      case h_2 hnone =>
          obtain rfl := Option.some.inj h
          have hnil : entries = [] := by
            by_contra hne
            obtain ⟨entry, hentry⟩ := exists_least hne
            exact absurd (hnone.symm.trans hentry) (by simp)
          subst hnil
          simp

theorem least_eq_some_iff : leastNamed? entries = some (name, content) ↔
    entries.lookup name = some content ∧ ∀ entry ∈ entries, ¬entry.1 < name := by
  refine ⟨lookup_of_least, ?_⟩
  rintro ⟨hlookup, hleast⟩
  have hne : entries ≠ [] := by
    rintro rfl
    exact absurd hlookup (by simp)
  obtain ⟨⟨name', content'⟩, h⟩ := exists_least hne
  obtain ⟨hlookup', hleast'⟩ := lookup_of_least h
  obtain ⟨entry, hentry, rfl⟩ := exists_mem_of_lookup hlookup
  obtain ⟨entry', hentry', rfl⟩ := exists_mem_of_lookup hlookup'
  have hname : entry'.1 = entry.1 :=
    List.le_antisymm (List.not_lt.mp (hleast' entry hentry)) (List.not_lt.mp (hleast entry' hentry'))
  rw [hname, hlookup] at hlookup'
  rw [h, hname, Option.some.inj hlookup']

end Decoder

namespace Setting

theorem map_fst_mergeEntries (below above : List (Text × Setting)) :
    (mergeEntries below above).map Prod.fst = below.map Prod.fst := by
  induction below with
  | nil => rfl
  | cons entry below ih =>
      obtain ⟨key, lower⟩ := entry
      rw [mergeEntries, List.map_cons, List.map_cons, ih]
      cases above.lookup key <;> rfl

theorem find?_append (setting : Setting) (front rest : List Text) :
    setting.find? (front ++ rest) = (setting.find? front).bind (·.find? rest) := by
  induction front generalizing setting with
  | nil => rfl
  | cons key front ih =>
      rw [List.cons_append, find?, find?]
      cases setting.get? key with
      | none => rfl
      | some inner => exact ih inner

theorem Filled.of_find? {setting inner : Setting} {path : List Text} (h : setting.Filled)
    (hfind : setting.find? path = some inner) : inner.Filled := by
  intro rest layer hnull
  refine h (path ++ rest) layer ?_
  rw [find?_append, hfind, Option.bind_some, hnull]

theorem Filled.shape_ne {path : List Text} {layer : Layer} {entries : List (Text × Setting)}
    (h : (table layer entries).Filled) (s : FallbackShape) :
    Decoder.shape path (table layer entries) ≠ .ok s := by
  intro hshape
  obtain ⟨name, source, hleast, -⟩ := Decoder.shape_table_eq_ok_iff.mp hshape
  have hlookup := (Decoder.least_eq_some_iff.mp hleast).1
  exact filled_table_iff.mp h name _ hlookup [] source rfl

theorem shape_of_shape_merge {path : List Text} {layer layer' : Layer}
    {below above : List (Text × Setting)} {s : FallbackShape} (hfilled : (table layer' above).Filled)
    (h : Decoder.shape path ((table layer below).merge (table layer' above)) = .ok s) :
    Decoder.shape path (table layer below) = .ok s := by
  rw [merge, Decoder.shape_table_eq_ok_iff] at h
  obtain ⟨name, source, hleast, hname⟩ := h
  obtain ⟨hlookup, hmin⟩ := Decoder.least_eq_some_iff.mp hleast
  have hget : ((table layer below).merge (table layer' above)).find? [name] =
      some (leaf source .null) := by
    simp only [merge, find?, get?, hlookup, Option.bind_some]
  -- The upper table has no null, so that the lower one is seen here.
  have hbelow : below.lookup name = some (leaf source .null) := by
    rcases find?_merge_eq_leaf_iff.mp hget with habove | ⟨-, hbelow⟩
    · exact absurd habove (hfilled [name] source)
    · exact TargetLeaf.get?_of_find? hbelow
  rw [Decoder.shape_table_eq_ok_iff]
  refine ⟨name, source, Decoder.least_eq_some_iff.mpr ⟨hbelow, ?_⟩, hname⟩
  intro entry hentry
  have hkey : entry.1 ∈ (mergeEntries below above).map Prod.fst := by
    rw [map_fst_mergeEntries]
    exact List.mem_map_of_mem hentry
  obtain ⟨entry', hentry', heq⟩ := List.mem_map.mp hkey
  rw [← heq]
  exact hmin entry' (List.mem_append_left _ hentry')

/-- The setting is a value, not a table. -/
def isLeaf : Setting → Bool
  | leaf _ _ => true
  | table _ _ => false

end Setting

namespace TargetLeaf

/-- The layer has a value for the setting, or a table that is read as one. -/
def sets (leaf : TargetLeaf) (layer : Setting) : Bool :=
  (layer.find? leaf.path).any fun found => found.isLeaf || (leaf.read? found).isSome

/-- What the highest of the layers that set the setting has for it. The layers stand from the highest
to the lowest. -/
def highest? (leaf : TargetLeaf) (layers : List Setting) : Option LeafValue :=
  (layers.find? leaf.sets).bind fun layer => (layer.find? leaf.path).bind leaf.read?

/-- What the highest layer that has anything there has in place of the structure of the setting. -/
def structureIn? (leaf : TargetLeaf) (layers : List Setting) : Option Setting :=
  leaf.structure?.bind fun place => layers.findSome? (·.get? place.1)

variable {leaf : TargetLeaf} {below above : Setting} {v : LeafValue}

theorem path_cases (leaf : TargetLeaf) : (leaf.structure? = none ∧ ∃ key, leaf.path = [key]) ∨
    ∃ group index key, leaf.structure? = some (group, index) ∧ leaf.path = [group, key] := by
  cases leaf <;> first
    | exact Or.inl ⟨rfl, _, rfl⟩
    | exact Or.inr ⟨_, _, _, rfl, rfl⟩

theorem items?_get?_merge {layer layer' : Layer} {below above : List (Text × Setting)} {key : Text}
    {layers : List Setting} (h : ((Setting.table layer below).get? key).bind items? =
      (layers.findSome? (·.get? key)).bind items?) :
    (((Setting.table layer below).merge (.table layer' above)).get? key).bind items? =
      ((Setting.table layer' above :: layers).findSome? (·.get? key)).bind items? := by
  change (below.lookup key).bind items? = _ at h
  rw [Setting.get?_merge_table, List.findSome?_cons, Setting.get?]
  cases above.lookup key with
  | none =>
      rw [← h]
      cases below.lookup key <;> rfl
  | some upper =>
      cases below.lookup key with
      | none => rfl
      | some lower =>
          cases upper with
          | leaf source value => simp [Setting.merge_leaf]
          | table source entries =>
              obtain ⟨merged, hmerged⟩ := Setting.merge_table lower source entries
              simp [hmerged, items?]

theorem shape_of_read?_table {layer : Layer} {entries : List (Text × Setting)}
    (h : leaf.read? (.table layer entries) = some v) :
    leaf = fallbackShape ∧ ∃ s, v = .shape s ∧
      Decoder.shape leaf.path (.table layer entries) = .ok s := by
  have hok : leaf.decoder leaf.path (.table layer entries) = .ok v := by
    unfold read? at h
    cases hd : leaf.decoder leaf.path (.table layer entries) with
    | error e => exact absurd h (by simp [hd, Except.toOption])
    | ok v' =>
        rw [hd] at h
        rw [Option.some.inj h]
  cases leaf
  case fallbackShape =>
      obtain ⟨s, hs, rfl⟩ := map_eq_ok_iff.mp hok
      exact ⟨rfl, s, rfl, hs⟩
  all_goals
    obtain ⟨a, ha, -⟩ := map_eq_ok_iff.mp hok
    exact absurd ha (by simp [Decoder.text, Decoder.boolean, Decoder.list, Decoder.refuse])

theorem readFrom_merge (h : leaf.ReadFrom ((below.merge above).find? leaf.path) v) :
    (∃ layer value, above.find? leaf.path = some (.leaf layer value) ∧
        leaf.read? (.leaf layer value) = some v) ∨
      (∃ layer entries, above.find? leaf.path = some (.table layer entries) ∧
        leaf.read? (((below.find? leaf.path).elim (.table layer entries)
          (·.merge (.table layer entries)))) = some v) ∨
      (above.passes leaf.path = true ∧ leaf.ReadFrom (below.find? leaf.path) v) ∨
      (above.find? leaf.path = none ∧ above.passes leaf.path = false ∧
        v = leaf.valueIn Target.standard) := by
  cases habove : above.find? leaf.path with
  | some upper =>
      rw [Setting.find?_merge_of_some habove] at h
      cases upper with
      | table layer entries => exact Or.inr (Or.inl ⟨layer, entries, rfl, h⟩)
      | leaf layer value =>
          refine Or.inl ⟨layer, value, rfl, ?_⟩
          cases hbelow : below.find? leaf.path with
          | none => simpa [hbelow, ReadFrom] using h
          | some lower => simpa [hbelow, ReadFrom, Setting.merge_leaf] using h
  | none =>
      cases hpasses : above.passes leaf.path with
      | true =>
          rw [Setting.find?_merge_of_passes hpasses] at h
          exact Or.inr (Or.inr (Or.inl ⟨rfl, h⟩))
      | false =>
          rw [Setting.find?_merge_of_blocked habove hpasses] at h
          exact Or.inr (Or.inr (Or.inr ⟨rfl, rfl, h⟩))

theorem highest?_cons_of_find? {found : Setting} (layers : List Setting)
    (hfind : above.find? leaf.path = some found) (hread : leaf.read? found = some v) :
    leaf.highest? (above :: layers) = some v := by
  have hsets : leaf.sets above = true := by simp [sets, hfind, hread]
  rw [highest?, List.find?_cons_of_pos hsets, Option.bind_some, hfind, Option.bind_some, hread]

theorem highest?_cons_of_not_sets (layers : List Setting) (h : leaf.sets above = false) :
    leaf.highest? (above :: layers) = leaf.highest? layers := by
  rw [highest?, List.find?_cons_of_neg (by simp [h]), highest?]

theorem sets_of_find?_none (h : above.find? leaf.path = none) : leaf.sets above = false := by
  rw [sets, h]
  rfl

theorem highest?_of_merge_filled {layers : List Setting} (hfilled : above.Filled)
    (hopen : above.find? leaf.path = none → above.passes leaf.path = true)
    (h : leaf.ReadFrom ((below.merge above).find? leaf.path) v)
    (hbelow : leaf.ReadFrom (below.find? leaf.path) v → leaf.highest? layers = some v) :
    leaf.highest? (above :: layers) = some v := by
  rcases readFrom_merge h with ⟨_, _, hfind, hread⟩ | ⟨layer, entries, hfind, hread⟩ |
    ⟨hpasses, hread⟩ | ⟨hnone, hblocked, -⟩
  · exact highest?_cons_of_find? layers hfind hread
  · have hinner := hfilled.of_find? hfind
    have hnone : leaf.read? (.table layer entries) = none := by
      cases hread' : leaf.read? (.table layer entries) with
      | none => rfl
      | some v' =>
          obtain ⟨-, s, -, hs⟩ := shape_of_read?_table hread'
          exact absurd hs (hinner.shape_ne s)
    have hsets : leaf.sets above = false := by simp [sets, hfind, hnone, Setting.isLeaf]
    rw [highest?_cons_of_not_sets layers hsets]
    refine hbelow ?_
    -- Only a table below can be what is read.
    cases hlower : below.find? leaf.path with
    | none =>
        rw [hlower] at hread
        exact absurd (hnone.symm.trans hread) (by simp)
    | some lower =>
        rw [hlower] at hread
        cases lower with
        | leaf layer' value =>
            rw [Option.elim_some, Setting.leaf_merge] at hread
            exact absurd (hnone.symm.trans hread) (by simp)
        | table layer' entries' =>
            obtain ⟨rfl, s, rfl, hs⟩ := shape_of_read?_table hread
            exact read?_of_decoder (map_eq_ok_iff.mpr
              ⟨s, Setting.shape_of_shape_merge hinner hs, rfl⟩)
  · rw [highest?_cons_of_not_sets layers (sets_of_find?_none (Setting.find?_of_passes hpasses))]
    exact hbelow hread
  · exact absurd (hopen hnone) (by simp [hblocked])

theorem passes_of_formed {layer layer' : Layer} {entries entries' : List (Text × Setting)}
    (hlisted : leaf.listed? ((Setting.table layer entries).merge (.table layer' entries')) = none)
    (h : leaf.ReadsAs ((Setting.table layer entries).merge (.table layer' entries')) v)
    (hnone : (Setting.table layer' entries').find? leaf.path = none) :
    (Setting.table layer' entries').passes leaf.path = true := by
  rcases path_cases leaf with ⟨-, key, hpath⟩ | ⟨group, index, key, hplace, hpath⟩
  · rw [hpath] at hnone ⊢
    cases hkey : entries'.lookup key with
    | none => simp [Setting.passes, hkey]
    | some inner => exact absurd hnone (by simp [Setting.find?, Setting.get?, hkey])
  · rw [hpath] at hnone ⊢
    cases hgroup : entries'.lookup group with
    | none => simp [Setting.passes, hgroup]
    | some inner =>
        cases inner with
        | table source inner =>
            cases hkey : inner.lookup key with
            | none => simp [Setting.passes, hgroup, hkey]
            | some found => exact absurd hnone (by simp [Setting.find?, Setting.get?, hgroup, hkey])
        | leaf source value =>
            have hget : ((Setting.table layer entries).merge (.table layer' entries')).get? group =
                some (.leaf source value) := by
              rw [Setting.get?_merge_table, hgroup]
              cases entries.lookup group with
              | none => rfl
              | some lower => simp [Setting.merge_leaf]
            rw [listed?, hplace, Option.bind_some, hget, Option.bind_some] at hlisted
            rcases h.formed group index _ hplace hget with hitems | ⟨_, _, htable⟩
            · rw [hlisted] at hitems
              exact absurd hitems (by simp)
            · exact absurd htable (by simp)

/-- A layer on one that has a value for the setting either gives it its value, or is not the highest
that sets it. -/
theorem highest?_of_merge_leaf {layers : List Setting} {layer : Layer} {value : Value}
    (hlower : below.find? leaf.path = some (.leaf layer value))
    (hstandard : leaf.read? (.leaf layer value) = some (leaf.valueIn Target.standard))
    (h : leaf.ReadFrom ((below.merge above).find? leaf.path) v)
    (hbelow : leaf.ReadFrom (below.find? leaf.path) v → leaf.highest? layers = some v) :
    leaf.highest? (above :: layers) = some v := by
  rcases readFrom_merge h with ⟨_, _, hfind, hread⟩ | ⟨layer', entries, hfind, hread⟩ |
    ⟨hpasses, hread⟩ | ⟨hnone, -, rfl⟩
  · exact highest?_cons_of_find? layers hfind hread
  · rw [hlower, Option.elim_some, Setting.leaf_merge] at hread
    exact highest?_cons_of_find? layers hfind hread
  · rw [highest?_cons_of_not_sets layers (sets_of_find?_none (Setting.find?_of_passes hpasses))]
    exact hbelow hread
  · rw [highest?_cons_of_not_sets layers (sets_of_find?_none hnone)]
    refine hbelow ?_
    rw [hlower]
    exact hstandard

end TargetLeaf

namespace Settings

/-- The lowest layer. -/
def defaults : Setting := Setting.ofValue .defaults Target.standard.toValue

/-- The layer of the file with settings, if there is one. -/
def fileLayer (w : Workspace) (path : Option Text) : Except SettingsError (Option Setting) := do
  let file ← sourceFile w path
  file.elim (.ok none) (fileSettings w)

/-- All layers, from the highest to the lowest. -/
def layers (above : Setting) (inFile : Option Setting) : List Setting :=
  above :: (inFile.toList ++ [defaults])

theorem layered_eq_ok_iff {w : Workspace} {environment : Environment} {path : Option Text}
    {setting : Setting} : layered w environment path = .ok setting ↔
      ∃ inFile above, fileLayer w path = .ok inFile ∧ environment.settings? = some above ∧
        setting = (inFile.elim defaults defaults.merge).merge above := by
  unfold layered
  constructor
  · intro h
    obtain ⟨file, hfile, h⟩ := bind_eq_ok_iff.mp h
    split at h
    · exact absurd h (by simp)
    · next above habove =>
        obtain ⟨inFile, hin, h⟩ := bind_eq_ok_iff.mp h
        refine ⟨inFile, above, ?_, habove, (Except.ok.inj h).symm⟩
        exact bind_eq_ok_iff.mpr ⟨file, hfile, hin⟩
  · rintro ⟨inFile, above, hlayer, habove, rfl⟩
    obtain ⟨file, hfile, hin⟩ := bind_eq_ok_iff.mp hlayer
    refine bind_eq_ok_iff.mpr ⟨file, hfile, ?_⟩
    rw [habove]
    exact bind_eq_ok_iff.mpr ⟨inFile, hin, rfl⟩

theorem find?_defaults (leaf : TargetLeaf) : defaults.find? leaf.path =
    some (.leaf .defaults (leaf.valueIn Target.standard).toValue) := by
  cases leaf <;> rfl

theorem read?_defaults (leaf : TargetLeaf) :
    leaf.read? (.leaf .defaults (leaf.valueIn Target.standard).toValue) =
      some (leaf.valueIn Target.standard) := by
  cases leaf <;> decide

theorem exists_table_of_fileLayer {w : Workspace} {path : Option Text} {setting : Setting}
    (h : fileLayer w path = .ok (some setting)) : ∃ layer entries, setting = .table layer entries := by
  obtain ⟨file, -, h⟩ := bind_eq_ok_iff.mp h
  cases file with
  | none => exact absurd h (by simp)
  | some file =>
      rw [Option.elim_some, fileSettings] at h
      split at h
      · exact absurd h (by simp)
      · split at h
        · next value hvalue =>
            obtain ⟨t, -, hparse⟩ := Option.bind_eq_some_iff.mp hvalue
            unfold parseTable? at hparse
            dsimp only at hparse
            split at hparse
            · obtain rfl := Option.some.inj hparse
              exact ⟨_, _, (Option.some.inj (Except.ok.inj h)).symm⟩
            · exact absurd hparse (by simp)
        · exact absurd h (by simp)

theorem exists_table_of_elim {inFile : Option Setting}
    (h : ∀ setting, inFile = some setting → ∃ layer entries, setting = .table layer entries) :
    ∃ layer entries, inFile.elim defaults defaults.merge = .table layer entries := by
  cases inFile with
  | none => exact ⟨_, _, rfl⟩
  | some setting =>
      obtain ⟨layer, entries, rfl⟩ := h setting rfl
      exact ⟨layer, Setting.merge_table defaults layer entries⟩

theorem listed?_layers {inFile : Option Setting} (layer : Layer) (entries : List (Text × Setting))
    (hfile : ∀ setting, inFile = some setting → ∃ layer entries, setting = .table layer entries)
    (leaf : TargetLeaf) :
    leaf.listed? ((inFile.elim defaults defaults.merge).merge (.table layer entries)) =
      (leaf.structureIn? (layers (.table layer entries) inFile)).bind TargetLeaf.items? := by
  rw [TargetLeaf.listed?, TargetLeaf.structureIn?]
  cases leaf.structure? with
  | none => rfl
  | some place =>
      have hdefaults : (defaults.get? place.1).bind TargetLeaf.items? =
          ([defaults].findSome? (·.get? place.1)).bind TargetLeaf.items? := by
        rw [List.findSome?_singleton]
      cases inFile with
      | none => exact TargetLeaf.items?_get?_merge hdefaults
      | some setting =>
          obtain ⟨source, inner, rfl⟩ := hfile setting rfl
          obtain ⟨merged, hmerged⟩ := Setting.merge_table defaults source inner
          have hbelow : ((defaults.merge (.table source inner)).get? place.1).bind TargetLeaf.items? =
              ([.table source inner, defaults].findSome? (·.get? place.1)).bind TargetLeaf.items? :=
            TargetLeaf.items?_get?_merge hdefaults
          rw [hmerged] at hbelow
          rw [Option.elim_some, hmerged]
          exact TargetLeaf.items?_get?_merge hbelow

theorem highest?_of_elim {inFile : Option Setting} {leaf : TargetLeaf} {v : LeafValue}
    (h : leaf.ReadFrom ((inFile.elim defaults defaults.merge).find? leaf.path) v) :
    leaf.highest? (inFile.toList ++ [defaults]) = some v := by
  have hdefaults : leaf.ReadFrom (defaults.find? leaf.path) v →
      leaf.highest? [defaults] = some v := by
    intro hread
    rw [find?_defaults] at hread
    exact TargetLeaf.highest?_cons_of_find? [] (find?_defaults leaf) hread
  cases inFile with
  | none => exact hdefaults h
  | some setting =>
      exact TargetLeaf.highest?_of_merge_leaf (find?_defaults leaf) (read?_defaults leaf) h hdefaults

variable {w : Workspace} {environment : Environment} {path : Option Text} {target : Target}

theorem load_eq_ok_iff : load w environment path = .ok target ↔
    ∃ setting, layered w environment path = .ok setting ∧
      Decoder.target false [] setting = .ok target ∧ target.validate = .ok () := by
  simp only [load, bind_eq_ok_iff, mapError_eq_ok_iff]
  constructor
  · rintro ⟨setting, hsetting, target', htarget, ⟨⟩, hvalid, heq⟩
    obtain rfl := Except.ok.inj heq
    exact ⟨setting, hsetting, htarget, hvalid⟩
  · rintro ⟨setting, hsetting, htarget, hvalid⟩
    exact ⟨setting, hsetting, target, htarget, (), hvalid, rfl⟩

/-- Every setting of a loaded target is that of the highest layer which sets it, or an item of the list
that its structure is given as. In the layer of the environment stands the last value that a variable
gives, and the variable of a setting is found by its name in any spelling. -/
theorem load_precedence (h : load w environment path = .ok target) :
    ∃ inFile above, fileLayer w path = .ok inFile ∧ environment.settings? = some above ∧
      (∀ keys layer value, above.find? keys = some (.leaf layer value) ↔
        (environment.deciding? keys).bind (·.find? keys) = some (.leaf layer value)) ∧
      ∀ leaf : TargetLeaf,
        ((leaf.structureIn? (layers above inFile)).bind TargetLeaf.items? = none →
          leaf.highest? (layers above inFile) = some (leaf.valueIn target)) ∧
        (∀ layer items,
          (leaf.structureIn? (layers above inFile)).bind TargetLeaf.items? = some (layer, items) →
          leaf.ReadFrom (leaf.itemOf? layer items) (leaf.valueIn target)) ∧
        ∀ name : Text, name.map Char.toLower = leaf.variableName.map Char.toLower →
          Environment.variablePath? name = some leaf.path := by
  obtain ⟨setting, hsetting, htarget, -⟩ := load_eq_ok_iff.mp h
  obtain ⟨inFile, above, hfile, habove, rfl⟩ := layered_eq_ok_iff.mp hsetting
  refine ⟨inFile, above, hfile, habove, fun keys layer value => Environment.find?_eq_leaf_iff habove,
    fun leaf => ?_⟩
  have htable : ∀ setting, inFile = some setting → ∃ layer entries, setting = .table layer entries :=
    fun setting hsetting => exists_table_of_fileLayer (hsetting ▸ hfile)
  have hfilled := Environment.filled_of_settings? habove
  obtain ⟨layer, entries, rfl⟩ := Environment.exists_table_of_settings? habove
  obtain ⟨source, below, hbelow⟩ := exists_table_of_elim htable
  have hlisted := listed?_layers layer entries htable leaf
  obtain ⟨merged, hmerged⟩ := Setting.merge_table (.table source below) layer entries
  rw [hbelow] at htarget hlisted
  have hreads : leaf.ReadsAs ((Setting.table source below).merge (.table layer entries))
      (leaf.valueIn target) := by
    rw [hmerged] at htarget ⊢
    exact TargetLeaf.readsAs_of_target htarget leaf
  refine ⟨fun hnone => ?_, fun source items hitems => ?_, fun name hname =>
    TargetLeaf.variablePath?_variableName hname⟩
  · have hunlisted := hlisted.trans hnone
    refine TargetLeaf.highest?_of_merge_filled hfilled
      (fun hfind => TargetLeaf.passes_of_formed hunlisted hreads hfind) (hreads.of_table hunlisted) ?_
    intro hread
    rw [← hbelow] at hread
    exact highest?_of_elim hread
  · exact hreads.of_list source items (hlisted.trans hitems)

/-- A workspace whose file with settings asks for coarse maps. -/
def coarseWorkspace : Workspace where
  files := [(usualFile :: [], Text.toBytes "[sourcemap]\nhires = false\n".toList)]
  directories := []

def guardVariable : Environment := [("Prerender_Guard".toList, "import.meta.server".toList)]

theorem guardVariable_precedence :
    ∃ target inFile above, load coarseWorkspace guardVariable none = .ok target ∧
      fileLayer coarseWorkspace none = .ok inFile ∧ guardVariable.settings? = some above ∧
      TargetLeaf.guard.highest? (layers above inFile) = some (.text target.guard) ∧
      TargetLeaf.hires.highest? (layers above inFile) = some (.flag target.hires) ∧
      target.guard = "import.meta.server".toList ∧ target.hires = false := by
  have hload : (load coarseWorkspace guardVariable none).toOption.any (fun target =>
      target.guard = "import.meta.server".toList ∧ target.hires = false) = true ∧
      (guardVariable.settings?.bind fun above => (fileLayer coarseWorkspace none).toOption.map
        fun inFile => ((TargetLeaf.hires.structureIn? (layers above inFile)).bind
          TargetLeaf.items?).isNone) = some true := by
    decide +kernel
  obtain ⟨target, htarget, hvalues⟩ := exists_of_toOption_any hload.1
  obtain ⟨inFile, above, hfile, habove, -, hleaf⟩ := load_precedence htarget
  obtain ⟨hguard, hhires⟩ := of_decide_eq_true hvalues
  refine ⟨target, inFile, above, htarget, hfile, habove, (hleaf .guard).1 rfl, (hleaf .hires).1 ?_,
    hguard, hhires⟩
  have hstructure := hload.2
  rw [habove, hfile] at hstructure
  exact Option.isNone_iff_eq_none.mp (Option.some.inj hstructure)

/-- A variable that gives the options of maps as a list, without a first item. -/
def listVariable : Environment := [("PRERENDER_SOURCEMAP".toList, "[]".toList)]

/-- A structure that is given as a list hides what lower layers say about its settings. -/
theorem listVariable_hides_file :
    (load coarseWorkspace listVariable none).toOption.map (TargetLeaf.hires.valueIn ·) =
        some (.flag true) ∧
      (listVariable.settings?.bind fun above => (fileLayer coarseWorkspace none).toOption.bind
        fun inFile => TargetLeaf.hires.highest? (layers above inFile)) = some (.flag false) := by
  decide +kernel

end Settings

end HandlerGuard
