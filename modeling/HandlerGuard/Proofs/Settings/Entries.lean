import HandlerGuard.Settings.Value

namespace HandlerGuard

variable {α : Type} {entries front : List (Text × α)} {key : Text}

theorem lookup_of_not_mem (h : key ∉ entries.map Prod.fst) : entries.lookup key = none := by
  rw [List.lookup_eq_none_iff]
  intro entry hentry
  have hne : key ≠ entry.1 := fun heq => h (heq ▸ List.mem_map_of_mem hentry)
  simpa using hne

theorem exists_mem_of_lookup {a : α} (h : entries.lookup key = some a) :
    ∃ entry ∈ entries, entry.1 = key := by
  obtain ⟨before, after, rfl, -⟩ := List.lookup_eq_some_iff.mp h
  exact ⟨(key, a), by simp, rfl⟩

theorem lookup_append_self (h : key ∉ front.map Prod.fst) (a : α) :
    (front ++ [(key, a)]).lookup key = some a := by
  rw [List.lookup_append, lookup_of_not_mem h]
  simp

theorem not_mem_of_nodup {entry : Text × α} {back : List (Text × α)}
    (h : ((front ++ entry :: back).map Prod.fst).Nodup) : entry.1 ∉ front.map Prod.fst := by
  intro hmem
  rw [List.map_append, List.nodup_append] at h
  exact h.2.2 entry.1 hmem entry.1 (by simp) rfl

theorem lookup_insertEntry (key : Text) (a : α) (entries : List (Text × α)) (other : Text) :
    (insertEntry key a entries).lookup other =
      if other = key then some a else entries.lookup other := by
  induction entries with
  | nil =>
      rw [insertEntry, List.lookup_cons]
      by_cases hother : other = key
      · simp [hother]
      · simp [hother, beq_false_of_ne hother]
  | cons entry entries ih =>
      obtain ⟨first, content⟩ := entry
      rw [insertEntry]
      split
      case isTrue hfirst =>
          subst hfirst
          rw [List.lookup_cons, List.lookup_cons]
          by_cases hother : other = first
          · simp [hother]
          · simp [hother, beq_false_of_ne hother]
      case isFalse hfirst =>
          rw [List.lookup_cons, List.lookup_cons, ih]
          by_cases hother : other = first
          · simp [hother, hfirst]
          · simp [beq_false_of_ne hother]

theorem insertEntry_of_not_mem (h : key ∉ entries.map Prod.fst) (a : α) :
    insertEntry key a entries = entries ++ [(key, a)] := by
  induction entries with
  | nil => rfl
  | cons entry entries ih =>
      rw [List.map_cons] at h
      rw [insertEntry, if_neg (List.ne_of_not_mem_cons h).symm, ih (List.not_mem_of_not_mem_cons h)]
      rfl

theorem insertEntry_append_self (h : key ∉ front.map Prod.fst) (a b : α) :
    insertEntry key b (front ++ [(key, a)]) = front ++ [(key, b)] := by
  induction front with
  | nil => simp [insertEntry]
  | cons entry front ih =>
      rw [List.map_cons] at h
      rw [List.cons_append, insertEntry, if_neg (List.ne_of_not_mem_cons h).symm,
        ih (List.not_mem_of_not_mem_cons h)]
      rfl

end HandlerGuard
