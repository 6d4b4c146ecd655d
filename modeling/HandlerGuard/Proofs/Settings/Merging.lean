import HandlerGuard.Settings.Layer

namespace HandlerGuard.Setting

/-- The setting has nothing under a path, and no value on the way there. -/
def passes : List Text → Setting → Bool
  | [], _ => false
  | _ :: _, leaf _ _ => false
  | key :: path, table _ entries => (entries.lookup key).elim true (passes path)

variable {below above upper : Setting} {path : List Text}

theorem merge_leaf (below : Setting) (layer : Layer) (value : Value) :
    below.merge (leaf layer value) = leaf layer value := by
  cases below <;> rfl

theorem leaf_merge (layer : Layer) (value : Value) (above : Setting) :
    (leaf layer value).merge above = above := by
  cases above <;> rfl

theorem lookup_mergeEntries (below above : List (Text × Setting)) (key : Text) :
    (mergeEntries below above).lookup key =
      (below.lookup key).map fun lower => (above.lookup key).elim lower lower.merge := by
  induction below with
  | nil => rfl
  | cons entry below ih =>
      obtain ⟨first, lower⟩ := entry
      rw [mergeEntries]
      by_cases hkey : key = first
      · subst hkey
        cases above.lookup key <;> simp
      · have hne : (key == first) = false := by simpa using hkey
        cases above.lookup first <;> simp [List.lookup_cons, hne, ih]

theorem lookup_filter_of_absent {below : List (Text × Setting)} {key : Text}
    (h : below.lookup key = none) (above : List (Text × Setting)) :
    (above.filter fun entry => !(below.map Prod.fst).contains entry.1).lookup key =
      above.lookup key := by
  have habsent : key ∉ below.map Prod.fst := by
    intro hmem
    obtain ⟨entry, hentry, rfl⟩ := List.mem_map.mp hmem
    exact absurd (List.lookup_eq_none_iff.mp h entry hentry) (by simp)
  induction above with
  | nil => rfl
  | cons entry above ih =>
      obtain ⟨first, upper⟩ := entry
      by_cases hkey : key = first
      · subst hkey
        simp [habsent]
      · have hne : (key == first) = false := by simpa using hkey
        rw [List.filter_cons]
        split <;> simpa [List.lookup_cons, hne] using ih

theorem get?_merge_table (layer layer' : Layer) (below above : List (Text × Setting)) (key : Text) :
    ((table layer below).merge (table layer' above)).get? key =
      ((below.lookup key).elim (above.lookup key) fun lower =>
        some ((above.lookup key).elim lower lower.merge)) := by
  simp only [merge, get?, List.lookup_append, lookup_mergeEntries]
  cases hbelow : below.lookup key with
  | none => simpa using lookup_filter_of_absent hbelow above
  | some lower => simp

theorem find?_of_passes {setting : Setting} (h : setting.passes path = true) :
    setting.find? path = none := by
  induction path generalizing setting with
  | nil => simp [passes] at h
  | cons key path ih =>
      cases setting with
      | leaf layer value => rfl
      | table layer entries =>
          simp only [find?, get?]
          cases hkey : entries.lookup key with
          | none => rfl
          | some inner => exact ih (by simpa [passes, hkey] using h)

theorem find?_merge_of_some (h : above.find? path = some upper) :
    (below.merge above).find? path =
      some ((below.find? path).elim upper fun lower => lower.merge upper) := by
  induction path generalizing below above with
  | nil =>
      obtain rfl := Option.some.inj h
      rfl
  | cons key path ih =>
      cases above with
      | leaf layer value => exact absurd h (by simp [find?, get?])
      | table layer above =>
          cases below with
          | leaf layer' value =>
              rw [leaf_merge, h]
              rfl
          | table layer' below =>
              simp only [find?, get?_merge_table]
              obtain ⟨inner, hinner, hfind⟩ := Option.bind_eq_some_iff.mp h
              have habove : above.lookup key = some inner := hinner
              cases hbelow : below.lookup key with
              | none => simp [habove, hfind, get?, hbelow]
              | some lower => simpa [habove, get?, hbelow] using ih hfind

theorem find?_merge_of_passes (h : above.passes path = true) :
    (below.merge above).find? path = below.find? path := by
  induction path generalizing below above with
  | nil => simp [passes] at h
  | cons key path ih =>
      cases above with
      | leaf layer value => simp [passes] at h
      | table layer above =>
          cases below with
          | leaf layer' value =>
              rw [leaf_merge, find?_of_passes h]
              rfl
          | table layer' below =>
              simp only [find?, get?_merge_table]
              cases habove : above.lookup key with
              | none => cases hbelow : below.lookup key <;> simp [get?, hbelow]
              | some inner =>
                  have hinner : inner.passes path = true := by simpa [passes, habove] using h
                  cases hbelow : below.lookup key with
                  | none => simp [get?, hbelow, find?_of_passes hinner]
                  | some lower => simpa [get?, hbelow] using ih hinner

theorem find?_merge_of_blocked (hnone : above.find? path = none) (h : above.passes path = false) :
    (below.merge above).find? path = none := by
  induction path generalizing below above with
  | nil => exact absurd hnone (by simp [find?])
  | cons key path ih =>
      cases above with
      | leaf layer value =>
          rw [merge_leaf]
          rfl
      | table layer above =>
          cases below with
          | leaf layer' value =>
              rw [leaf_merge]
              exact hnone
          | table layer' below =>
              simp only [find?, get?_merge_table]
              cases habove : above.lookup key with
              | none => simp [passes, habove] at h
              | some inner =>
                  have hinner : inner.find? path = none := by simpa [find?, get?, habove] using hnone
                  have hblocked : inner.passes path = false := by simpa [passes, habove] using h
                  cases hbelow : below.lookup key with
                  | none => simpa using hinner
                  | some lower => simpa using ih hinner hblocked

theorem merge_eq_leaf_iff {layer : Layer} {value : Value} :
    below.merge above = leaf layer value ↔ above = leaf layer value := by
  cases above with
  | leaf layer' value' => rw [merge_leaf]
  | table layer' entries => cases below <;> simp [merge]

/-- A value stands under a path if the upper layer has it there, or lets that of the lower one be
seen. -/
theorem find?_merge_eq_leaf_iff {layer : Layer} {value : Value} :
    (below.merge above).find? path = some (leaf layer value) ↔
      above.find? path = some (leaf layer value) ∨
        (above.passes path = true ∧ below.find? path = some (leaf layer value)) := by
  cases habove : above.find? path with
  | some upper =>
      have hblocked : ¬above.passes path = true := fun h =>
        absurd (habove.symm.trans (find?_of_passes h)) (by simp)
      rw [find?_merge_of_some habove]
      cases below.find? path <;> simp [merge_eq_leaf_iff, hblocked]
  | none =>
      cases hpasses : above.passes path with
      | true => simp [find?_merge_of_passes hpasses]
      | false => simp [find?_merge_of_blocked habove hpasses]

theorem mergeEntries_nil (below : List (Text × Setting)) : mergeEntries below [] = below := by
  induction below with
  | nil => rfl
  | cons entry below ih =>
      rw [mergeEntries, ih]
      rfl

theorem table_merge_empty (layer layer' : Layer) (below : List (Text × Setting)) :
    (table layer below).merge (table layer' []) = table layer' below := by
  simp [merge, mergeEntries_nil]

theorem merge_table (below : Setting) (layer : Layer) (above : List (Text × Setting)) :
    ∃ entries, below.merge (table layer above) = table layer entries := by
  cases below <;> exact ⟨_, rfl⟩

end HandlerGuard.Setting
