import HandlerGuard.Proofs.Patch.Recording
import HandlerGuard.Settings.Decoding

namespace HandlerGuard

/-- What a single setting of a target can be. -/
inductive LeafValue where
  | text (t : Text)
  | texts (ts : List Text)
  | flag (b : Bool)
  | shape (s : FallbackShape)
deriving DecidableEq, Repr

/-- The value of a setting that writes it. -/
def LeafValue.toValue : LeafValue → Value
  | text t => .text t
  | texts ts => .list (ts.map .text)
  | flag b => .bool b
  | shape s => .text s.label

/-- A single setting of a target. -/
inductive TargetLeaf where
  | functionName
  | guard
  | fallbackSymbol
  | fallbackShape
  | importStatement
  | importMarker
  | included
  | excluded
  | markupExtensions
  | devBypass
  | enabled
  | hires
deriving DecidableEq, Repr

namespace TargetLeaf

/-- The keys under which the setting stands. -/
def path : TargetLeaf → List Text
  | functionName => ["functionName".toList]
  | guard => ["guard".toList]
  | fallbackSymbol => ["fallback".toList, "symbol".toList]
  | fallbackShape => ["fallback".toList, "shape".toList]
  | importStatement => ["import".toList, "statement".toList]
  | importMarker => ["import".toList, "marker".toList]
  | included => ["include".toList]
  | excluded => ["exclude".toList]
  | markupExtensions => ["markupExtensions".toList]
  | devBypass => ["devBypass".toList]
  | enabled => ["enabled".toList]
  | hires => ["sourcemap".toList, "hires".toList]

/-- The key of the structure that the setting belongs to, and its place among the settings there. -/
def structure? : TargetLeaf → Option (Text × Nat)
  | fallbackSymbol => some ("fallback".toList, 0)
  | fallbackShape => some ("fallback".toList, 1)
  | importStatement => some ("import".toList, 0)
  | importMarker => some ("import".toList, 1)
  | hires => some ("sourcemap".toList, 0)
  | _ => none

def valueIn (target : Target) : TargetLeaf → LeafValue
  | functionName => .text target.functionName
  | guard => .text target.guard
  | fallbackSymbol => .text target.fallback.symbol
  | fallbackShape => .shape target.fallback.shape
  | importStatement => .text target.directive.statement
  | importMarker => .text target.directive.marker
  | included => .texts target.included
  | excluded => .texts target.excluded
  | markupExtensions => .texts target.markupExtensions
  | devBypass => .flag target.devBypass
  | enabled => .flag target.enabled
  | hires => .flag target.hires

def decoder : TargetLeaf → Decoder LeafValue
  | fallbackShape => fun path setting => .shape <$> Decoder.shape path setting
  | included | excluded | markupExtensions =>
      fun path setting => .texts <$> Decoder.list Decoder.text path setting
  | devBypass | enabled | hires => fun path setting => .flag <$> Decoder.boolean path setting
  | _ => fun path setting => .text <$> Decoder.text path setting

/-- What a value or a table is read as where the setting should stand. -/
def read? (leaf : TargetLeaf) (setting : Setting) : Option LeafValue :=
  (leaf.decoder leaf.path setting).toOption

/-- The setting is read from what stands in its place, and is that of the standard target if nothing
does. -/
def ReadFrom (leaf : TargetLeaf) (setting : Option Setting) (v : LeafValue) : Prop :=
  setting.elim (v = leaf.valueIn Target.standard) fun found => leaf.read? found = some v

def items? : Setting → Option (Layer × List Value)
  | .leaf layer (.list items) => some (layer, items)
  | _ => none

/-- The list in which the structure of the setting is given, if it is given as one. -/
def listed? (leaf : TargetLeaf) (setting : Setting) : Option (Layer × List Value) :=
  leaf.structure?.bind fun place => (setting.get? place.1).bind items?

/-- What stands for a structure: a list or a table. -/
def Formed (setting : Setting) : Prop :=
  (items? setting).isSome ∨ ∃ layer entries, setting = .table layer entries

/-- The item of the list for the structure that stands in the place of the setting. -/
def itemOf? (leaf : TargetLeaf) (layer : Layer) (items : List Value) : Option Setting :=
  leaf.structure?.bind fun place => items[place.2]?.map (Setting.ofValue layer)

/-- The setting is read from its place in the list, if its structure is given as a list, and otherwise
from under its keys. -/
structure ReadsAs (leaf : TargetLeaf) (setting : Setting) (v : LeafValue) : Prop where
  of_list : ∀ layer items, leaf.listed? setting = some (layer, items) →
    leaf.ReadFrom (leaf.itemOf? layer items) v
  of_table : leaf.listed? setting = none → leaf.ReadFrom (setting.find? leaf.path) v
  formed : ∀ group index inner, leaf.structure? = some (group, index) →
    setting.get? group = some inner → Formed inner

end TargetLeaf

namespace Decoder

variable {α : Type}

/-! ### Fields of structures -/

section Fields

variable {decoder : Decoder α} {path : List Text} {setting : Setting} {key : Text} {layer : Layer}
  {values : List Value} {index : Nat} {o : Option α} {default a : α}

theorem field?_eq_ok_iff : field? decoder path setting key = .ok o ↔
    (∃ inner a, setting.get? key = some inner ∧ decoder (path ++ [key]) inner = .ok a ∧
      o = some a) ∨ (setting.get? key = none ∧ o = none) := by
  unfold field?
  cases setting.get? key with
  | none => simp [eq_comm]
  | some inner =>
      rw [map_eq_ok_iff]
      constructor
      · rintro ⟨a, ha, rfl⟩
        exact Or.inl ⟨inner, a, rfl, ha, rfl⟩
      · rintro (⟨_, a, ⟨⟩, ha, rfl⟩ | ⟨⟨⟩, -⟩)
        exact ⟨a, ha, rfl⟩

theorem fieldD_eq_ok_iff : fieldD decoder path setting key default = .ok a ↔
    (∃ inner, setting.get? key = some inner ∧ decoder (path ++ [key]) inner = .ok a) ∨
      (setting.get? key = none ∧ a = default) := by
  unfold fieldD
  rw [map_eq_ok_iff]
  simp only [field?_eq_ok_iff]
  constructor
  · rintro ⟨_, ⟨inner, b, hinner, hb, rfl⟩ | ⟨hnone, rfl⟩, rfl⟩
    · exact Or.inl ⟨inner, hinner, hb⟩
    · exact Or.inr ⟨hnone, rfl⟩
  · rintro (⟨inner, hinner, ha⟩ | ⟨hnone, rfl⟩)
    · exact ⟨some a, Or.inl ⟨inner, a, hinner, ha, rfl⟩, rfl⟩
    · exact ⟨none, Or.inr ⟨hnone, rfl⟩, rfl⟩

theorem found_eq_ok_iff : found path setting key o = .ok a ↔ o = some a := by
  cases o <;> simp [found]

theorem item?_eq_ok_iff : item? decoder path layer values index = .ok o ↔
    (∃ value a, values[index]? = some value ∧
      decoder (path ++ [Text.ofNat index]) (Setting.ofValue layer value) = .ok a ∧ o = some a) ∨
      (values[index]? = none ∧ o = none) := by
  unfold item?
  cases values[index]? with
  | none => simp [eq_comm]
  | some value =>
      rw [map_eq_ok_iff]
      constructor
      · rintro ⟨a, ha, rfl⟩
        exact Or.inl ⟨value, a, rfl, ha, rfl⟩
      · rintro (⟨_, a, ⟨⟩, ha, rfl⟩ | ⟨⟨⟩, -⟩)
        exact ⟨a, ha, rfl⟩

theorem itemD_eq_ok_iff : itemD decoder path layer values index default = .ok a ↔
    (∃ value, values[index]? = some value ∧
      decoder (path ++ [Text.ofNat index]) (Setting.ofValue layer value) = .ok a) ∨
      (values[index]? = none ∧ a = default) := by
  unfold itemD
  rw [map_eq_ok_iff]
  simp only [item?_eq_ok_iff]
  constructor
  · rintro ⟨_, ⟨value, b, hvalue, hb, rfl⟩ | ⟨hnone, rfl⟩, rfl⟩
    · exact Or.inl ⟨value, hvalue, hb⟩
    · exact Or.inr ⟨hnone, rfl⟩
  · rintro (⟨value, hvalue, ha⟩ | ⟨hnone, rfl⟩)
    · exact ⟨some a, Or.inl ⟨value, a, hvalue, ha, rfl⟩, rfl⟩
    · exact ⟨none, Or.inr ⟨hnone, rfl⟩, rfl⟩

theorem foundItem_eq_ok_iff {expected : Expectation} {fields : Nat} :
    foundItem path layer expected fields index o = .ok a ↔ o = some a := by
  cases o <;> simp [foundItem]

end Fields

/-! ### Where faults would be found does not matter -/

/-- A value that is read at one path is read at every path. -/
def Steady (decoder : Decoder α) : Prop :=
  ∀ path other setting a, decoder path setting = .ok a → decoder other setting = .ok a

theorem steady_text : Steady text := by
  intro path other setting a h
  unfold text at h ⊢
  split at h
  · exact h
  · exact h
  · exact absurd h (by simp [refuse])

theorem steady_boolean : Steady boolean := by
  intro path other setting a h
  unfold boolean at h ⊢
  split at h
  · exact h
  · exact absurd h (by simp [refuse])

theorem shapeNamed_eq_ok_iff {path : List Text} {layer : Layer} {name : Text} {s : FallbackShape} :
    shapeNamed path layer name = .ok s ↔ shapeNames.lookup name = some s := by
  unfold shapeNamed
  cases shapeNames.lookup name <;> simp

theorem shape_table_eq_ok_iff {path : List Text} {layer : Layer} {entries : List (Text × Setting)}
    {s : FallbackShape} : shape path (.table layer entries) = .ok s ↔
      ∃ name layer', leastNamed? entries = some (name, .leaf layer' .null) ∧
        shapeNames.lookup name = some s := by
  cases hleast : leastNamed? entries with
  | none => simp [shape, hleast, refuse]
  | some entry =>
      obtain ⟨name, content⟩ := entry
      simp only [shape, hleast, bind_eq_ok_iff, shapeNamed_eq_ok_iff]
      constructor
      · rintro ⟨found, hfound, h⟩
        split at h
        · obtain rfl := Except.ok.inj h
          exact ⟨name, _, rfl, hfound⟩
        · exact absurd h (by simp [refuse])
      · rintro ⟨_, layer', ⟨⟩, hfound⟩
        exact ⟨s, hfound, rfl⟩

theorem steady_shape : Steady shape := by
  intro path other setting s h
  cases setting with
  | table layer entries =>
      rw [shape_table_eq_ok_iff] at h ⊢
      exact h
  | leaf layer value =>
      cases value with
      | text name => exact shapeNamed_eq_ok_iff.mpr (shapeNamed_eq_ok_iff.mp h)
      | _ => exact absurd h (by simp [shape, refuse])

theorem items_of_steady {item : Decoder α} (hitem : Steady item) {path : List Text} {layer : Layer}
    {index : Nat} {values : List Value} {as : List α} (h : items item path layer index values = .ok as)
    (other : List Text) (index' : Nat) : items item other layer index' values = .ok as := by
  induction values generalizing index index' as with
  | nil => exact h
  | cons value values ih =>
      simp only [items, bind_eq_ok_iff] at h ⊢
      obtain ⟨first, hfirst, rest, hrest, has⟩ := h
      exact ⟨first, hitem _ _ _ _ hfirst, rest, ih hrest _, has⟩

theorem steady_list {item : Decoder α} (hitem : Steady item) : Steady (list item) := by
  intro path other setting as h
  unfold list at h ⊢
  split at h
  · exact items_of_steady hitem h other 0
  · exact absurd h (by simp [refuse])

end Decoder

namespace TargetLeaf

theorem read?_of_decoder {leaf : TargetLeaf} {path : List Text} {setting : Setting} {v : LeafValue}
    (h : leaf.decoder path setting = .ok v) : leaf.read? setting = some v := by
  have hsteady : Decoder.Steady leaf.decoder := by
    intro path other setting v h
    cases leaf <;> obtain ⟨a, ha, rfl⟩ := map_eq_ok_iff.mp h <;>
      refine map_eq_ok_iff.mpr ⟨a, ?_, rfl⟩
    case fallbackShape => exact Decoder.steady_shape _ _ _ _ ha
    case included | excluded | markupExtensions =>
      exact Decoder.steady_list Decoder.steady_text _ _ _ _ ha
    case devBypass | enabled | hires => exact Decoder.steady_boolean _ _ _ _ ha
    all_goals exact Decoder.steady_text _ _ _ _ ha
  rw [read?, hsteady path leaf.path setting v h]
  rfl

end TargetLeaf

namespace Decoder

/-! ### Structures -/

/-- A field of a structure is read from its place in the list that the structure is, or from under its
key, and is a default if nothing stands there. -/
structure FieldOf {α : Type} (decoder : Decoder α) (setting : Setting) (key : Text) (index : Nat)
    (default a : α) : Prop where
  of_list : ∀ layer values, TargetLeaf.items? setting = some (layer, values) →
    values[index]?.elim (a = default) fun value =>
      ∃ path, decoder path (Setting.ofValue layer value) = .ok a
  of_table : TargetLeaf.items? setting = none →
    (setting.get? key).elim (a = default) fun inner => ∃ path, decoder path inner = .ok a
  formed : TargetLeaf.Formed setting

section FieldOf

variable {α : Type} {decoder : Decoder α} {path : List Text} {layer : Layer} {key : Text}
  {index : Nat} {default a : α}

theorem fieldOf_list {values : List Value}
    (h : itemD decoder path layer values index default = .ok a) :
    FieldOf decoder (.leaf layer (.list values)) key index default a := by
  refine ⟨?_, by simp [TargetLeaf.items?], Or.inl rfl⟩
  rintro _ _ ⟨⟩
  rcases itemD_eq_ok_iff.mp h with ⟨value, hvalue, ha⟩ | ⟨hnone, rfl⟩
  · rw [hvalue]
    exact ⟨_, ha⟩
  · rw [hnone]
    rfl

theorem fieldOf_table {entries : List (Text × Setting)}
    (h : fieldD decoder path (.table layer entries) key default = .ok a) :
    FieldOf decoder (.table layer entries) key index default a := by
  refine ⟨by simp [TargetLeaf.items?], fun _ => ?_, Or.inr ⟨layer, entries, rfl⟩⟩
  rcases fieldD_eq_ok_iff.mp h with ⟨inner, hinner, ha⟩ | ⟨hnone, rfl⟩
  · rw [hinner]
    exact ⟨_, ha⟩
  · rw [hnone]
    rfl

theorem fieldD_of_found {setting : Setting} {o : Option α}
    (h : field? decoder path setting key = .ok o) (ho : found path setting key o = .ok a) :
    fieldD decoder path setting key default = .ok a := by
  rw [found_eq_ok_iff] at ho
  subst ho
  rw [fieldD, h]
  rfl

theorem itemD_of_found {values : List Value} {o : Option α} {expected : Expectation} {fields : Nat}
    (h : item? decoder path layer values index = .ok o)
    (ho : foundItem path layer expected fields index o = .ok a) :
    itemD decoder path layer values index default = .ok a := by
  rw [foundItem_eq_ok_iff] at ho
  subst ho
  rw [itemD, h]
  rfl

end FieldOf

variable {path : List Text} {setting : Setting}

theorem fieldOf_fallback {f : Fallback} (h : fallback false path setting = .ok f) (symbol : Text) :
    FieldOf text setting "symbol".toList 0 symbol f.symbol ∧
      FieldOf shape setting "shape".toList 1 .call f.shape := by
  unfold fallback at h
  split at h
  · simp only [bind_eq_ok_iff] at h
    obtain ⟨_, hitem, _, hfound, _, hshape, -, -, hf⟩ := h
    obtain rfl := Except.ok.inj hf
    exact ⟨fieldOf_list (itemD_of_found hitem hfound), fieldOf_list hshape⟩
  · simp only [bind_eq_ok_iff] at h
    obtain ⟨_, hshape, _, hfield, _, hfound, hf⟩ := h
    obtain rfl := Except.ok.inj hf
    exact ⟨fieldOf_table (fieldD_of_found hfield hfound), fieldOf_table hshape⟩
  · exact absurd h (by simp [refuse])

theorem fieldOf_directive {d : ImportDirective} (h : directive false path setting = .ok d)
    (statement marker : Text) :
    FieldOf text setting "statement".toList 0 statement d.statement ∧
      FieldOf text setting "marker".toList 1 marker d.marker := by
  unfold directive at h
  split at h
  · simp only [bind_eq_ok_iff] at h
    obtain ⟨_, hitem, _, hfound, _, hitem', _, hfound', -, -, hd⟩ := h
    obtain rfl := Except.ok.inj hd
    exact ⟨fieldOf_list (itemD_of_found hitem hfound), fieldOf_list (itemD_of_found hitem' hfound')⟩
  · simp only [bind_eq_ok_iff] at h
    obtain ⟨_, hfield', _, hfield, _, hfound, _, hfound', hd⟩ := h
    obtain rfl := Except.ok.inj hd
    exact ⟨fieldOf_table (fieldD_of_found hfield hfound),
      fieldOf_table (fieldD_of_found hfield' hfound')⟩
  · exact absurd h (by simp [refuse])

theorem fieldOf_mapOptions {b : Bool} (h : mapOptions false path setting = .ok b) :
    FieldOf boolean setting "hires".toList 0 true b := by
  unfold mapOptions at h
  split at h
  · simp only [bind_eq_ok_iff] at h
    obtain ⟨_, hitem, -, -, hb⟩ := h
    obtain rfl := Except.ok.inj hb
    exact fieldOf_list hitem
  · exact fieldOf_table h
  · exact absurd h (by simp [refuse])

end Decoder

namespace TargetLeaf

section ReadsAs

variable {leaf : TargetLeaf} {α : Type} {decoder : Decoder α} (wrap : α → LeafValue)
  {group key : Text} {index : Nat} {default a : α} {setting inner : Setting}

theorem read?_of_wrap (hdecoder : ∀ path setting, leaf.decoder path setting =
    wrap <$> decoder path setting) (h : ∃ path, decoder path setting = .ok a) :
    leaf.read? setting = some (wrap a) := by
  obtain ⟨path, h⟩ := h
  exact read?_of_decoder ((hdecoder path setting).trans (map_eq_ok_iff.mpr ⟨a, h, rfl⟩))

theorem readsAs_of_fieldOf (hplace : leaf.structure? = some (group, index))
    (hpath : leaf.path = [group, key])
    (hdecoder : ∀ path setting, leaf.decoder path setting = wrap <$> decoder path setting)
    (hdefault : leaf.valueIn Target.standard = wrap default)
    (hinner : setting.get? group = some inner)
    (h : Decoder.FieldOf decoder inner key index default a) : leaf.ReadsAs setting (wrap a) := by
  have hlisted : leaf.listed? setting = items? inner := by
    simp only [listed?, hplace, Option.bind_some, hinner]
  refine ⟨?_, ?_, ?_⟩
  · intro layer items hitems
    have hread := h.of_list layer items (hlisted.symm.trans hitems)
    simp only [ReadFrom, itemOf?, hplace, Option.bind_some]
    cases hitem : items[index]? with
    | none =>
        rw [hitem] at hread
        rw [Option.map_none, Option.elim_none, hdefault, show a = default from hread]
    | some value =>
        rw [hitem] at hread
        exact read?_of_wrap wrap hdecoder hread
  · intro hnone
    have hread := h.of_table (hlisted.symm.trans hnone)
    have hfind : setting.find? leaf.path = inner.get? key := by
      rw [hpath, Setting.find?, hinner, Option.bind_some, Setting.find?]
      cases inner.get? key <;> rfl
    simp only [ReadFrom, hfind]
    cases hkey : inner.get? key with
    | none =>
        rw [hkey] at hread
        rw [Option.elim_none, hdefault, show a = default from hread]
    | some found =>
        rw [hkey] at hread
        exact read?_of_wrap wrap hdecoder hread
  · intro group' index' inner' hplace' hinner'
    obtain ⟨rfl, rfl⟩ := Prod.mk.inj (Option.some.inj (hplace.symm.trans hplace'))
    obtain rfl := Option.some.inj (hinner.symm.trans hinner')
    exact h.formed

theorem readsAs_of_absent (hplace : leaf.structure? = some (group, index))
    (hpath : leaf.path = [group, key]) (hnone : setting.get? group = none) :
    leaf.ReadsAs setting (leaf.valueIn Target.standard) := by
  refine ⟨by simp [listed?, hplace, hnone], fun _ => ?_, ?_⟩
  · simp only [ReadFrom, hpath, Setting.find?, hnone, Option.bind_none, Option.elim_none]
  · intro group' index' inner' hplace' hinner'
    obtain ⟨rfl, rfl⟩ := Prod.mk.inj (Option.some.inj (hplace.symm.trans hplace'))
    exact absurd (hnone.symm.trans hinner') (by simp)

theorem readsAs_of_fieldD (hplace : leaf.structure? = none) (hpath : leaf.path = [key])
    (hdecoder : ∀ path setting, leaf.decoder path setting = wrap <$> decoder path setting)
    (hdefault : leaf.valueIn Target.standard = wrap default)
    (h : Decoder.fieldD decoder [] setting key default = .ok a) : leaf.ReadsAs setting (wrap a) := by
  refine ⟨by simp [listed?, hplace], fun _ => ?_, by simp [hplace]⟩
  have hfind : setting.find? leaf.path = setting.get? key := by
    rw [hpath, Setting.find?]
    cases setting.get? key <;> rfl
  simp only [ReadFrom, hfind]
  rcases Decoder.fieldD_eq_ok_iff.mp h with ⟨found, hfound, ha⟩ | ⟨hnone, rfl⟩
  · rw [hfound]
    exact read?_of_wrap wrap hdecoder ⟨_, ha⟩
  · rw [hnone, Option.elim_none, hdefault]

end ReadsAs

theorem readsAs_of_target {layer : Layer} {entries : List (Text × Setting)} {target : Target}
    (h : Decoder.target false [] (.table layer entries) = .ok target) (leaf : TargetLeaf) :
    leaf.ReadsAs (.table layer entries) (leaf.valueIn target) := by
  simp only [Decoder.target, bind_eq_ok_iff] at h
  obtain ⟨devBypass, hdev, enabled, henabled, excluded, hexcluded, fallback, hfallback, functionName,
    hname, guard, hguard, directive, hdirective, included, hincluded, markup, hmarkup, hires, hhires,
    htarget⟩ := h
  obtain rfl := Except.ok.inj htarget
  -- seven settings are fields of the target itself, the others of one of its structures
  cases leaf with
  | functionName => exact readsAs_of_fieldD .text rfl rfl (fun _ _ => rfl) rfl hname
  | guard => exact readsAs_of_fieldD .text rfl rfl (fun _ _ => rfl) rfl hguard
  | included => exact readsAs_of_fieldD .texts rfl rfl (fun _ _ => rfl) rfl hincluded
  | excluded => exact readsAs_of_fieldD .texts rfl rfl (fun _ _ => rfl) rfl hexcluded
  | markupExtensions => exact readsAs_of_fieldD .texts rfl rfl (fun _ _ => rfl) rfl hmarkup
  | devBypass => exact readsAs_of_fieldD .flag rfl rfl (fun _ _ => rfl) rfl hdev
  | enabled => exact readsAs_of_fieldD .flag rfl rfl (fun _ _ => rfl) rfl henabled
  | fallbackSymbol =>
      rcases Decoder.fieldD_eq_ok_iff.mp hfallback with ⟨inner, hinner, hread⟩ | ⟨hnone, rfl⟩
      · exact readsAs_of_fieldOf .text rfl rfl (fun _ _ => rfl) rfl hinner
          (Decoder.fieldOf_fallback hread _).1
      · exact readsAs_of_absent rfl rfl hnone
  | fallbackShape =>
      rcases Decoder.fieldD_eq_ok_iff.mp hfallback with ⟨inner, hinner, hread⟩ | ⟨hnone, rfl⟩
      · exact readsAs_of_fieldOf .shape rfl rfl (fun _ _ => rfl) rfl hinner
          (Decoder.fieldOf_fallback hread []).2
      · exact readsAs_of_absent rfl rfl hnone
  | importStatement =>
      rcases Decoder.fieldD_eq_ok_iff.mp hdirective with ⟨inner, hinner, hread⟩ | ⟨hnone, rfl⟩
      · exact readsAs_of_fieldOf .text rfl rfl (fun _ _ => rfl) rfl hinner
          (Decoder.fieldOf_directive hread _ []).1
      · exact readsAs_of_absent rfl rfl hnone
  | importMarker =>
      rcases Decoder.fieldD_eq_ok_iff.mp hdirective with ⟨inner, hinner, hread⟩ | ⟨hnone, rfl⟩
      · exact readsAs_of_fieldOf .text rfl rfl (fun _ _ => rfl) rfl hinner
          (Decoder.fieldOf_directive hread [] _).2
      · exact readsAs_of_absent rfl rfl hnone
  | hires =>
      rcases Decoder.fieldD_eq_ok_iff.mp hhires with ⟨inner, hinner, hread⟩ | ⟨hnone, rfl⟩
      · exact readsAs_of_fieldOf .flag rfl rfl (fun _ _ => rfl) rfl hinner
          (Decoder.fieldOf_mapOptions hread)
      · exact readsAs_of_absent rfl rfl hnone

/-! ### Targets from their settings -/

theorem items_texts (path : List Text) (layer : Layer) (index : Nat) (ts : List Text) :
    Decoder.items Decoder.text path layer index (ts.map .text) = .ok ts := by
  induction ts generalizing index with
  | nil => rfl
  | cons t ts ih =>
      rw [List.map_cons, Decoder.items, ih]
      rfl

theorem shape_label (path : List Text) (layer : Layer) (s : FallbackShape) :
    Decoder.shape path (.leaf layer (.text s.label)) = .ok s := by
  have hlabel : Decoder.shapeNames.lookup s.label = some s := by
    cases s <;> decide
  exact Decoder.shapeNamed_eq_ok_iff.mpr hlabel

theorem get?_of_find? {setting found : Setting} {key : Text} (h : setting.find? [key] = some found) :
    setting.get? key = some found := by
  obtain ⟨inner, hinner, hfound⟩ := Option.bind_eq_some_iff.mp h
  rw [hinner, ← Option.some.inj hfound]

theorem exists_group_of_find? {setting found : Setting} {group key : Text}
    (h : setting.find? [group, key] = some found) :
    ∃ layer entries, setting.get? group = some (.table layer entries) ∧
      (Setting.table layer entries).get? key = some found := by
  obtain ⟨inner, hinner, hfound⟩ := Option.bind_eq_some_iff.mp h
  have hkey := get?_of_find? hfound
  cases inner with
  | leaf layer value => exact absurd hkey (by simp [Setting.get?])
  | table layer entries => exact ⟨layer, entries, hinner, hkey⟩

theorem target_of_leaves {layer : Layer} {entries : List (Text × Setting)} {target : Target}
    (h : ∀ leaf : TargetLeaf, ∃ layer', (Setting.table layer entries).find? leaf.path =
      some (.leaf layer' (leaf.valueIn target).toValue)) :
    Decoder.target false [] (.table layer entries) = .ok target := by
  have hfield : ∀ {α : Type} {decoder : Decoder α} {path : List Text} {s inner : Setting} {key : Text}
      {default a : α}, s.get? key = some inner → decoder (path ++ [key]) inner = .ok a →
      Decoder.fieldD decoder path s key default = .ok a :=
    fun hinner ha => Decoder.fieldD_eq_ok_iff.mpr (Or.inl ⟨_, hinner, ha⟩)
  have hrequired : ∀ {path : List Text} {s : Setting} {key : Text} {layer' : Layer} {t : Text},
      s.get? key = some (.leaf layer' (.text t)) →
      Decoder.field? Decoder.text path s key = .ok (some t) :=
    fun hinner => Decoder.field?_eq_ok_iff.mpr (Or.inl ⟨_, _, hinner, rfl, rfl⟩)
  obtain ⟨_, hname⟩ := h .functionName
  obtain ⟨_, hguard⟩ := h .guard
  obtain ⟨_, hsymbol⟩ := h .fallbackSymbol
  obtain ⟨_, hshape⟩ := h .fallbackShape
  obtain ⟨_, hstatement⟩ := h .importStatement
  obtain ⟨_, hmarker⟩ := h .importMarker
  obtain ⟨_, hincluded⟩ := h .included
  obtain ⟨_, hexcluded⟩ := h .excluded
  obtain ⟨_, hmarkup⟩ := h .markupExtensions
  obtain ⟨_, hdev⟩ := h .devBypass
  obtain ⟨_, henabled⟩ := h .enabled
  obtain ⟨_, hhires⟩ := h .hires
  obtain ⟨_, inFallback, hfallback, hsymbol⟩ := exists_group_of_find? hsymbol
  obtain ⟨_, _, hfallback', hshape⟩ := exists_group_of_find? hshape
  obtain ⟨rfl, rfl⟩ := Setting.table.inj (Option.some.inj (hfallback.symm.trans hfallback'))
  obtain ⟨_, inImport, himport, hstatement⟩ := exists_group_of_find? hstatement
  obtain ⟨_, _, himport', hmarker⟩ := exists_group_of_find? hmarker
  obtain ⟨rfl, rfl⟩ := Setting.table.inj (Option.some.inj (himport.symm.trans himport'))
  obtain ⟨_, inMap, hmap, hhires⟩ := exists_group_of_find? hhires
  simp only [Decoder.target, bind_eq_ok_iff]
  refine ⟨_, hfield (get?_of_find? hdev) rfl, _, hfield (get?_of_find? henabled) rfl,
    _, hfield (get?_of_find? hexcluded) (items_texts _ _ _ _),
    target.fallback, hfield hfallback ?_, _, hfield (get?_of_find? hname) rfl,
    _, hfield (get?_of_find? hguard) rfl, target.directive, hfield himport ?_,
    _, hfield (get?_of_find? hincluded) (items_texts _ _ _ _),
    _, hfield (get?_of_find? hmarkup) (items_texts _ _ _ _), _, hfield hmap ?_, rfl⟩
  · simp only [Decoder.fallback, bind_eq_ok_iff]
    exact ⟨_, hfield hshape (shape_label _ _ _), _, hrequired hsymbol, _, rfl, rfl⟩
  · simp only [Decoder.directive, bind_eq_ok_iff]
    exact ⟨_, hrequired hmarker, _, hrequired hstatement, _, rfl, _, rfl, rfl⟩
  · exact hfield hhires rfl

end TargetLeaf

end HandlerGuard
