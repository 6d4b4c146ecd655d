import HandlerGuard.Proofs.Patch.Recording
import HandlerGuard.Proofs.Settings.Entries
import HandlerGuard.Proofs.Settings.Leaf
import HandlerGuard.Proofs.Settings.Merging
import HandlerGuard.Proofs.Text.Splitting
import HandlerGuard.Settings.Environment

namespace HandlerGuard

theorem toLower_cases (c : Char) :
    (¬(65 ≤ c.toNat ∧ c.toNat ≤ 90) ∧ c.toLower = c) ∨
      (65 ≤ c.toNat ∧ c.toNat ≤ 90 ∧ c.toLower.toNat = c.toNat + 32) := by
  unfold Char.toLower
  have hA : (c.val ≥ 'A'.val) = (65 ≤ c.toNat) := rfl
  have hZ : (c.val ≤ 'Z'.val) = (c.toNat ≤ 90) := rfl
  split
  case isTrue h =>
      rw [hA, hZ] at h
      refine Or.inr ⟨h.1, h.2, ?_⟩
      change (c.val + ('a'.val - 'A'.val)).toNat = c.val.toNat + 32
      have hle : c.val.toNat ≤ 90 := h.2
      rw [UInt32.toNat_add]
      exact Nat.mod_eq_of_lt (by change _ + 32 < _; omega)
  case isFalse h =>
      rw [hA, hZ] at h
      exact Or.inl ⟨h, rfl⟩

theorem toLower_toLower (c : Char) : c.toLower.toLower = c.toLower := by
  rcases toLower_cases c with ⟨-, h⟩ | ⟨hle, hge, h⟩
  · rw [h, h]
  · rcases toLower_cases c.toLower with ⟨-, h'⟩ | ⟨-, hle', -⟩
    · exact h'
    · omega

theorem map_toLower_map_toLower (t : Text) :
    (t.map Char.toLower).map Char.toLower = t.map Char.toLower := by
  rw [List.map_map]
  exact List.map_congr_left fun c _ => toLower_toLower c

theorem isBlank_toLower (c : Char) : Text.isBlank c.toLower = Text.isBlank c := by
  rcases toLower_cases c with ⟨-, h⟩ | ⟨hle, hge, h⟩
  · rw [h]
  · have hlower : Text.isBlank c.toLower = false := by
      simp only [Text.isBlank, h, Bool.or_eq_false_iff, Bool.and_eq_false_iff, decide_eq_false_iff_not]
      omega
    have hupper : Text.isBlank c = false := by
      simp only [Text.isBlank, Bool.or_eq_false_iff, Bool.and_eq_false_iff, decide_eq_false_iff_not]
      omega
    rw [hlower, hupper]

theorem map_toLower_trim (t : Text) :
    (Text.trim t).map Char.toLower = Text.trim (t.map Char.toLower) := by
  have hdrop : ∀ t : Text, (t.map Char.toLower).dropWhile Text.isBlank =
      (t.dropWhile Text.isBlank).map Char.toLower := by
    intro t
    rw [List.dropWhile_map]
    congr 2
    funext c
    exact isBlank_toLower c
  simp only [Text.trim, Text.trimEnd, Text.trimStart, hdrop, ← List.map_reverse]

namespace Environment

theorem settingKey_map_toLower (name : Text) :
    settingKey (name.map Char.toLower) = settingKey name := by
  rw [settingKey, map_toLower_map_toLower, settingKey]

/-- The characters of a name after its front part, with dots for underscores. -/
def dotted (name : Text) : Text := name.map fun c => if c = '_' then '.' else c

theorem settingKey_dotted_map_toLower (name : Text) :
    settingKey (dotted (name.map Char.toLower)) = settingKey (dotted name) := by
  have hdot : ∀ c : Char, (if c.toLower = '_' then '.' else c.toLower) =
      (if c = '_' then '.' else c).toLower := by
    intro c
    by_cases hc : c = '_'
    · subst hc
      decide
    · have hlower : c.toLower ≠ '_' := by
        intro h
        rcases toLower_cases c with ⟨-, hsame⟩ | ⟨hle, -, hcode⟩
        · exact hc (hsame.symm.trans h)
        · rw [h] at hcode
          have : ('_' : Char).toNat = 95 := rfl
          omega
      rw [if_neg hc, if_neg hlower]
  have hdotted : dotted (name.map Char.toLower) = (dotted name).map Char.toLower := by
    rw [dotted, dotted, List.map_map, List.map_map]
    exact List.map_congr_left fun c _ => hdot c
  rw [hdotted, settingKey_map_toLower]

theorem variablePath?_map_toLower (name : Text) :
    variablePath? (name.map Char.toLower) = variablePath? name := by
  have hkey := settingKey_dotted_map_toLower (name.trim.drop variablePrefix.length)
  unfold dotted at hkey
  simp only [variablePath?, ← map_toLower_trim, ← List.map_take, ← List.map_drop,
    map_toLower_map_toLower, hkey]

theorem variablePath?_ne_nil {name : Text} : variablePath? name ≠ some [] := by
  intro h
  unfold variablePath? at h
  dsimp only at h
  split at h
  · split at h
    · exact absurd h (by simp)
    · exact Text.splitAll_ne_nil _ _ (Option.some.inj h)
  · exact absurd h (by simp)

end Environment

/-- The name of the variable that sets a single setting of a target. -/
def TargetLeaf.variableName (leaf : TargetLeaf) : Text :=
  variablePrefix ++ Text.join ['_'] (leaf.path.map (·.map Char.toUpper))

theorem TargetLeaf.variablePath?_variableName {leaf : TargetLeaf} {name : Text}
    (h : name.map Char.toLower = leaf.variableName.map Char.toLower) :
    Environment.variablePath? name = some leaf.path := by
  have hname : Environment.variablePath? leaf.variableName = some leaf.path := by
    cases leaf <;> decide
  rw [← hname, ← Environment.variablePath?_map_toLower, h, Environment.variablePath?_map_toLower]

namespace Setting

/-- Null stands nowhere in the setting, items of lists apart. -/
def Filled (setting : Setting) : Prop := ∀ path layer, setting.find? path ≠ some (leaf layer .null)

theorem filled_leaf {layer : Layer} {value : Value} (h : value ≠ .null) :
    (leaf layer value).Filled := by
  intro path layer' hfind
  cases path with
  | nil => exact h (Setting.leaf.inj (Option.some.inj hfind)).2
  | cons key path => exact absurd hfind (by simp [find?, get?])

theorem filled_table_iff {layer : Layer} {entries : List (Text × Setting)} :
    (table layer entries).Filled ↔
      ∀ key inner, entries.lookup key = some inner → inner.Filled := by
  constructor
  · intro h key inner hkey path layer' hfind
    exact h (key :: path) layer' (by rw [find?, get?, hkey]; exact hfind)
  · intro h path layer' hfind
    cases path with
    | nil => exact absurd hfind (by simp [find?])
    | cons key path =>
        obtain ⟨inner, hinner, hfind⟩ := Option.bind_eq_some_iff.mp hfind
        exact h key inner hinner path layer' hfind

theorem filled_merge {below above : Setting} (hbelow : below.Filled) (habove : above.Filled) :
    (below.merge above).Filled := by
  intro path layer hfind
  rcases find?_merge_eq_leaf_iff.mp hfind with h | ⟨-, h⟩
  · exact habove path layer h
  · exact hbelow path layer h

theorem filled_nest {layer : Layer} {setting : Setting} (h : setting.Filled) (path : List Text) :
    (nest layer path setting).Filled := by
  induction path with
  | nil => exact h
  | cons key path ih =>
      refine filled_table_iff.mpr fun other inner hinner => ?_
      rw [List.lookup_cons, List.lookup_nil] at hinner
      split at hinner
      · exact Option.some.inj hinner ▸ ih
      · exact absurd hinner (by simp)

theorem lookup_ofEntries (layer : Layer) (entries : List (Text × Value)) (key : Text) :
    (ofEntries layer entries).lookup key = (entries.lookup key).map (ofValue layer) := by
  induction entries with
  | nil => rfl
  | cons entry entries ih =>
      obtain ⟨first, value⟩ := entry
      rw [ofEntries, List.lookup_cons, List.lookup_cons, ih]
      cases key == first <;> rfl

end Setting

namespace Value

/-- Null stands nowhere in the value, items of lists apart. -/
def Filled (value : Value) : Prop := ∀ layer, (Setting.ofValue layer value).Filled

theorem filled_table_iff {entries : List (Text × Value)} :
    (table entries).Filled ↔ ∀ key value, entries.lookup key = some value → value.Filled := by
  constructor
  · intro h key value hkey layer
    refine Setting.filled_table_iff.mp (h layer) key _ ?_
    rw [Setting.lookup_ofEntries, hkey, Option.map_some]
  · intro h layer
    refine Setting.filled_table_iff.mpr fun key inner hinner => ?_
    rw [Setting.lookup_ofEntries] at hinner
    obtain ⟨value, hvalue, rfl⟩ := Option.map_eq_some_iff.mp hinner
    exact h key value hvalue layer

theorem filled_insertEntry {entries : List (Text × Value)} {key : Text} {value : Value}
    (hentries : (table entries).Filled) (hvalue : value.Filled) :
    (table (insertEntry key value entries)).Filled := by
  rw [filled_table_iff] at hentries ⊢
  intro other found hfound
  rw [lookup_insertEntry] at hfound
  split at hfound
  · exact Option.some.inj hfound ▸ hvalue
  · exact hentries other found hfound

end Value

namespace Environment

theorem filled_plainValue (t : Text) : (plainValue t).Filled := by
  intro layer
  unfold plainValue
  dsimp only
  split <;> exact Setting.filled_leaf (by simp)

theorem filled_of_ne {value : Value} (h : value ≠ .null) (htable : ∀ entries, value ≠ .table entries) :
    value.Filled := by
  intro layer
  have hleaf : Setting.ofValue layer value = .leaf layer value := by
    cases value <;> simp_all [Setting.ofValue]
  rw [hleaf]
  exact Setting.filled_leaf h

theorem filled_of_read (fuel : Nat) :
    (∀ t value rest, readValue fuel t = .ok (value, rest) → value.Filled) ∧
      ∀ entries t entries' rest, readFields fuel entries t = .ok (entries', rest) →
        (Value.table entries).Filled → (Value.table entries').Filled := by
  induction fuel with
  | zero => exact ⟨fun _ _ _ h => absurd h (by simp [readValue]),
      fun _ _ _ _ h => absurd h (by simp [readFields])⟩
  | succ fuel ih =>
      obtain ⟨ihvalue, ihfields⟩ := ih
      constructor
      · intro t value rest h
        rw [readValue] at h
        obtain ⟨⟨found, after⟩, hfound, heq⟩ := map_eq_ok_iff.mp h
        obtain rfl : found = value := congrArg Prod.fst heq
        clear h heq
        split at hfound
        · obtain ⟨rfl, -⟩ := Prod.mk.inj (Except.ok.inj hfound)
          exact filled_of_ne (by simp) (by simp)
        · obtain ⟨rfl, -⟩ := Prod.mk.inj (Except.ok.inj hfound)
          exact filled_of_ne (by simp) (by simp)
        · obtain ⟨⟨entries, after'⟩, hentries, heq⟩ := map_eq_ok_iff.mp hfound
          obtain rfl : .table entries = found := congrArg Prod.fst heq
          exact ihfields _ _ _ _ hentries (Value.filled_table_iff.mpr (by simp))
        · obtain ⟨⟨items, after'⟩, -, heq⟩ := map_eq_ok_iff.mp hfound
          obtain rfl : .list items = found := congrArg Prod.fst heq
          exact filled_of_ne (by simp) (by simp)
        · obtain ⟨⟨s, after'⟩, -, heq⟩ := map_eq_ok_iff.mp hfound
          obtain rfl : .text s = found := congrArg Prod.fst heq
          exact filled_of_ne (by simp) (by simp)
        · obtain ⟨rfl, -⟩ := Prod.mk.inj (Except.ok.inj hfound)
          exact filled_of_ne (by simp) (by simp)
        · exact absurd hfound (by simp)
        · obtain ⟨rfl, -⟩ := Prod.mk.inj (Except.ok.inj hfound)
          exact filled_plainValue _
      · intro entries t entries' rest h hentries
        unfold readFields at h
        split at h
        · obtain ⟨rfl, -⟩ := Prod.mk.inj (Except.ok.inj h)
          exact hentries
        · obtain ⟨⟨key, after⟩, -, h⟩ := bind_eq_ok_iff.mp h
          dsimp only at h
          split at h
          · obtain ⟨⟨value, after'⟩, hvalue, h⟩ := bind_eq_ok_iff.mp h
            have hmore : (Value.table (insertEntry key value entries)).Filled :=
              Value.filled_insertEntry hentries (ihvalue _ _ _ hvalue)
            dsimp only at h
            split at h
            · exact ihfields _ _ _ _ h hmore
            · obtain ⟨rfl, -⟩ := Prod.mk.inj (Except.ok.inj h)
              exact hmore
            · exact absurd h (by simp)
          · exact absurd h (by simp)

theorem filled_of_parseValue? {t : Text} {value : Value} (h : parseValue? t = some value) :
    value.Filled := by
  unfold parseValue? at h
  split at h
  · next found hfound =>
      obtain rfl := Option.some.inj h
      exact (filled_of_read _).1 _ _ _ hfound
  · exact absurd h (by simp)
  · obtain rfl := Option.some.inj h
    exact filled_of_ne (by simp) (by simp)

/-- The settings of one variable alone, if it is one and its value can be read. -/
def tree? (entry : Text × Text) : Option Setting :=
  (variablePath? entry.1).bind fun path =>
    (parseValue? entry.2).map fun value =>
      Setting.nest .environment path (Setting.ofValue .environment value)

theorem filled_of_tree? {entry : Text × Text} {tree : Setting} (h : tree? entry = some tree) :
    tree.Filled := by
  obtain ⟨path, -, h⟩ := Option.bind_eq_some_iff.mp h
  obtain ⟨value, hvalue, rfl⟩ := Option.map_eq_some_iff.mp h
  exact Setting.filled_nest (filled_of_parseValue? hvalue .environment) path

/-- The settings of every variable alone. -/
def trees (environment : Environment) : List Setting := environment.filterMap tree?

theorem addVariable?_eq_some {below above : Setting} {entry : Text × Text}
    (h : addVariable? below entry = some above) : above = (tree? entry).elim below below.merge := by
  unfold addVariable? at h
  unfold tree?
  split at h
  · next hpath =>
      rw [hpath]
      exact (Option.some.inj h).symm
  · next path hpath =>
      obtain ⟨value, hvalue, rfl⟩ := Option.map_eq_some_iff.mp h
      rw [hpath, hvalue]
      rfl

theorem foldl_trees_of_foldlM {environment : Environment} {below above : Setting}
    (h : environment.foldlM addVariable? below = some above) :
    above = environment.trees.foldl Setting.merge below := by
  induction environment generalizing below with
  | nil => exact (Option.some.inj h).symm
  | cons entry environment ih =>
      rw [List.foldlM_cons] at h
      obtain ⟨next, hnext, h⟩ := Option.bind_eq_some_iff.mp h
      rw [ih h, addVariable?_eq_some hnext, trees, trees, List.filterMap_cons]
      cases tree? entry <;> rfl

/-- The tree among those of an environment that decides about a place: the last that does not leave it
open. -/
def deciding? (environment : Environment) (path : List Text) : Option Setting :=
  environment.trees.reverse.find? fun tree => !tree.passes path

variable {environment : Environment} {above : Setting}

theorem settings?_eq_foldr (h : environment.settings? = some above) :
    above = environment.trees.reverse.foldr (fun tree below => below.merge tree)
      (.table .environment []) := by
  rw [foldl_trees_of_foldlM h, List.foldl_eq_foldr_reverse]

theorem find?_eq_leaf_iff (h : environment.settings? = some above) {path : List Text} {layer : Layer}
    {value : Value} : above.find? path = some (.leaf layer value) ↔
      (environment.deciding? path).bind (·.find? path) = some (.leaf layer value) := by
  rw [settings?_eq_foldr h, deciding?]
  induction environment.trees.reverse with
  | nil => cases path <;> simp [Setting.find?, Setting.get?]
  | cons tree trees ih =>
      rw [List.foldr_cons, Setting.find?_merge_eq_leaf_iff, ih, List.find?_cons]
      cases hpasses : tree.passes path with
      | false => simp
      | true => simp [Setting.find?_of_passes hpasses]

theorem filled_of_settings? (h : environment.settings? = some above) : above.Filled := by
  have htrees : ∀ tree ∈ environment.trees.reverse, tree.Filled := by
    intro tree htree
    obtain ⟨entry, -, hentry⟩ := List.mem_filterMap.mp (List.mem_reverse.mp htree)
    exact filled_of_tree? hentry
  rw [settings?_eq_foldr h]
  generalize environment.trees.reverse = trees at htrees ⊢
  induction trees with
  | nil => exact Setting.filled_table_iff.mpr (by simp)
  | cons tree trees ih =>
      exact Setting.filled_merge (ih fun other hother => htrees other (List.mem_cons_of_mem _ hother))
        (htrees tree List.mem_cons_self)

theorem exists_table_of_settings? (h : environment.settings? = some above) :
    ∃ layer entries, above = .table layer entries := by
  have htrees : ∀ tree ∈ environment.trees.reverse, ∃ layer entries, tree = .table layer entries := by
    intro tree htree
    obtain ⟨entry, -, hentry⟩ := List.mem_filterMap.mp (List.mem_reverse.mp htree)
    obtain ⟨path, hpath, hentry⟩ := Option.bind_eq_some_iff.mp hentry
    obtain ⟨value, -, rfl⟩ := Option.map_eq_some_iff.mp hentry
    cases path with
    | nil => exact absurd hpath variablePath?_ne_nil
    | cons key path => exact ⟨_, _, rfl⟩
  rw [settings?_eq_foldr h]
  generalize environment.trees.reverse = trees at htrees ⊢
  cases trees with
  | nil => exact ⟨_, _, rfl⟩
  | cons tree trees =>
      obtain ⟨layer, entries, rfl⟩ := htrees tree List.mem_cons_self
      exact ⟨layer, Setting.merge_table _ layer entries⟩

end Environment

end HandlerGuard
