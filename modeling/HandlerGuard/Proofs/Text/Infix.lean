import HandlerGuard.Proofs.Text.Slice

namespace HandlerGuard.Text

theorem includes_iff {t needle : Text} : t.includes needle = true ↔ needle <:+: t := by
  induction t with
  | nil => simp [includes, List.isPrefixOf_iff_prefix]
  | cons c rest ih =>
      rw [includes, Bool.or_eq_true, ih, List.infix_cons_iff, List.isPrefixOf_iff_prefix]

theorem includes_eq_false_iff {t needle : Text} : t.includes needle = false ↔ ¬needle <:+: t := by
  rw [← includes_iff, Bool.not_eq_true]

theorem infix_of_slice? {t part : Text} {span : Span} (h : t.slice? span = some part) :
    part <:+: t := by
  obtain ⟨left, right, rfl, -, -⟩ := slice?_eq_some_iff.mp h
  exact ⟨left, right, by simp⟩

theorem prefix_of_prefix_append_cons {needle left right : Text} {c : Char} (hc : c ∉ needle)
    (h : needle <+: left ++ c :: right) : needle <+: left := by
  induction left generalizing needle with
  | nil =>
      rcases List.prefix_cons_iff.mp h with rfl | ⟨rest, rfl, -⟩
      · exact List.nil_prefix
      · simp at hc
  | cons d left ih =>
      rcases List.prefix_cons_iff.mp h with rfl | ⟨rest, rfl, hrest⟩
      · exact List.nil_prefix
      · exact List.cons_prefix_cons.mpr ⟨rfl, ih (fun hmem => hc (List.mem_cons_of_mem d hmem)) hrest⟩

theorem infix_or_infix_of_append_cons {needle left right : Text} {c : Char} (hc : c ∉ needle)
    (h : needle <:+: left ++ c :: right) : needle <:+: left ∨ needle <:+: right := by
  induction left with
  | nil =>
      rcases List.infix_cons_iff.mp h with hfront | hlater
      · have hempty : needle <+: [] := prefix_of_prefix_append_cons hc hfront
        exact Or.inl hempty.isInfix
      · exact Or.inr hlater
  | cons d left ih =>
      rcases List.infix_cons_iff.mp h with hfront | hlater
      · have hleft : needle <+: d :: left := prefix_of_prefix_append_cons hc hfront
        exact Or.inl hleft.isInfix
      · rcases ih hlater with hleft | hright
        · exact Or.inl (hleft.trans (List.suffix_cons d left).isInfix)
        · exact Or.inr hright

theorem infix_of_slice?_within {t part whole : Text} {inner outer : Span}
    (hpart : t.slice? inner = some part) (hwhole : t.slice? outer = some whole)
    (hstart : outer.start ≤ inner.start) (hstop : inner.stop ≤ outer.stop) : part <:+: whole := by
  obtain ⟨left, right, hsplit, hleft, hmiddle⟩ := slice?_eq_some_iff.mp hwhole
  obtain ⟨left', right', hsplit', hleft', hmiddle'⟩ := slice?_eq_some_iff.mp hpart
  obtain ⟨gap, rfl, htail⟩ := exists_middle_of_byteLength_le (hsplit.symm.trans hsplit') (by omega)
  rw [← List.append_assoc] at htail
  obtain ⟨rest, rfl, -⟩ := exists_middle_of_byteLength_le htail.symm (by
    simp only [byteLength_append] at hmiddle' ⊢
    omega)
  exact ⟨gap, rest, rfl⟩

end HandlerGuard.Text
