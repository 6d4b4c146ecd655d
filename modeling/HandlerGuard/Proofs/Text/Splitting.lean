import HandlerGuard.Text.Basic

namespace HandlerGuard.Text

section SplitFirst

variable {c : Char} {before after t : Text}

theorem splitFirst_of_not_mem (h : c ∉ t) : splitFirst c t = (t, none) := by
  induction t with
  | nil => rfl
  | cons x t ih =>
      rw [splitFirst, if_neg (List.ne_of_not_mem_cons h).symm, ih (List.not_mem_of_not_mem_cons h)]

theorem splitFirst_append (h : c ∉ before) :
    splitFirst c (before ++ c :: after) = (before, some after) := by
  induction before with
  | nil => simp [splitFirst]
  | cons x before ih =>
      rw [List.cons_append, splitFirst, if_neg (List.ne_of_not_mem_cons h).symm,
        ih (List.not_mem_of_not_mem_cons h)]

theorem splitFirst_cases (c : Char) (t : Text) :
    (c ∉ t ∧ splitFirst c t = (t, none)) ∨
      ∃ before after, t = before ++ c :: after ∧ c ∉ before ∧
        splitFirst c t = (before, some after) := by
  by_cases h : c ∈ t
  · right
    obtain ⟨before, after, rfl, hbefore⟩ := List.eq_append_cons_of_mem h
    exact ⟨before, after, rfl, hbefore, splitFirst_append hbefore⟩
  · exact Or.inl ⟨h, splitFirst_of_not_mem h⟩

end SplitFirst

section SplitAll

variable {c : Char} {part t : Text} {parts : List Text}

theorem splitAll_ne_nil (c : Char) (t : Text) : splitAll c t ≠ [] := by
  cases t with
  | nil => simp [splitAll]
  | cons x t =>
      rw [splitAll]
      split
      · simp
      · split <;> simp

theorem splitAll_of_not_mem (h : c ∉ t) : splitAll c t = [t] := by
  induction t with
  | nil => rfl
  | cons x t ih =>
      rw [splitAll, if_neg (List.ne_of_not_mem_cons h).symm, ih (List.not_mem_of_not_mem_cons h)]

theorem splitAll_append (h : c ∉ part) (t : Text) :
    splitAll c (part ++ c :: t) = part :: splitAll c t := by
  induction part with
  | nil => simp [splitAll]
  | cons x part ih =>
      rw [List.cons_append, splitAll, if_neg (List.ne_of_not_mem_cons h).symm,
        ih (List.not_mem_of_not_mem_cons h)]

theorem splitAll_join (hne : parts ≠ []) (h : ∀ part ∈ parts, c ∉ part) :
    splitAll c (join [c] parts) = parts := by
  induction parts with
  | nil => exact absurd rfl hne
  | cons part parts ih =>
      have hpart := h part List.mem_cons_self
      cases parts with
      | nil => exact splitAll_of_not_mem hpart
      | cons next parts =>
          have hrest : ∀ other ∈ next :: parts, c ∉ other := fun other hother =>
            h other (List.mem_cons_of_mem part hother)
          rw [join, List.append_assoc, List.singleton_append, splitAll_append hpart,
            ih (by simp) hrest]
          simp

theorem not_mem_of_mem_splitAll (h : part ∈ splitAll c t) : c ∉ part := by
  induction t generalizing part with
  | nil =>
      rw [splitAll, List.mem_singleton] at h
      simp [h]
  | cons x t ih =>
      rw [splitAll] at h
      split at h
      · rcases List.mem_cons.mp h with rfl | h
        · exact List.not_mem_nil
        · exact ih h
      · rename_i hx
        split at h
        · rename_i hnil
          exact absurd hnil (splitAll_ne_nil c t)
        · rename_i first others hsplit
          rcases List.mem_cons.mp h with rfl | h
          · have hfirst : c ∉ first := ih (by simp [hsplit])
            simp [hfirst, Ne.symm hx]
          · exact ih (by simp [hsplit, h])

end SplitAll

end HandlerGuard.Text
