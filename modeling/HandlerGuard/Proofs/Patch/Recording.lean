import Mathlib.Data.List.TakeWhile
import HandlerGuard.Patch.Basic
import HandlerGuard.Proofs.Text.Slice

namespace HandlerGuard

theorem bind_eq_ok_iff {ε α β : Type} {x : Except ε α} {f : α → Except ε β} {b : β} :
    (x >>= f) = .ok b ↔ ∃ a, x = .ok a ∧ f a = .ok b := by
  cases x with
  | error e => simp [bind, Except.bind]
  | ok a => simp [bind, Except.bind]

theorem mapError_eq_ok_iff {ε ε' α : Type} {f : ε → ε'} {x : Except ε α} {a : α} :
    x.mapError f = .ok a ↔ x = .ok a := by
  cases x with
  | error e => simp [Except.mapError]
  | ok b => simp [Except.mapError]

theorem bind_eq_error_iff {ε α β : Type} {x : Except ε α} {f : α → Except ε β} {e : ε} :
    (x >>= f) = .error e ↔ x = .error e ∨ ∃ a, x = .ok a ∧ f a = .error e := by
  cases x with
  | error e => simp [bind, Except.bind]
  | ok a => simp [bind, Except.bind]

theorem map_eq_ok_iff {ε α β : Type} {f : α → β} {x : Except ε α} {b : β} :
    f <$> x = .ok b ↔ ∃ a, x = .ok a ∧ f a = b := by
  cases x <;> simp [Functor.map, Except.map]

theorem exists_of_toOption_any {ε α : Type} {x : Except ε α} {f : α → Bool}
    (h : x.toOption.any f = true) : ∃ a, x = .ok a ∧ f a = true := by
  cases x with
  | error e => simp [Except.toOption] at h
  | ok a => exact ⟨a, rfl, by simpa [Except.toOption] using h⟩

namespace Span

/-- The two ranges have no byte in common. -/
def Apart (a b : Span) : Prop := a.stop ≤ b.start ∨ b.stop ≤ a.start

instance (a b : Span) : Decidable (a.Apart b) :=
  inferInstanceAs (Decidable (_ ∨ _))

theorem Apart.symm {a b : Span} (h : a.Apart b) : b.Apart a := Or.symm h

theorem within_iff {inner outer : Span} :
    inner.within outer = true ↔ outer.start ≤ inner.start ∧ inner.stop ≤ outer.stop := by
  simp [within]

theorem within_refl (s : Span) : s.within s = true := by
  simp [within]

theorem Apart.of_within {a b a' b' : Span} (h : a.Apart b)
    (ha : a'.within a = true) (hb : b'.within b = true) : a'.Apart b' := by
  rw [within_iff] at ha hb
  rcases h with h | h
  · left
    omega
  · right
    omega

end Span

namespace Patch

/-- The copied pieces are ranges with text, and lie inside the edited range. -/
def PiecesFit (source : Text) (outer : Span) (pieces : List Piece) : Prop :=
  ∀ inner, Piece.copied inner ∈ pieces →
    source.covers inner = true ∧ inner.within outer = true

/-- The edits of a patch are in order, do not overlap, and refer to text of the source only. -/
structure WellFormed (p : Patch) : Prop where
  ordered : p.edits.Pairwise fun a b => a.span.stop ≤ b.span.start
  covered : ∀ e ∈ p.edits, p.source.covers e.span = true
  fitting : ∀ e ∈ p.edits, PiecesFit p.source e.span e.pieces

theorem wellFormed_ofText (t : Text) : (ofText t).WellFormed where
  ordered := List.Pairwise.nil
  covered := by simp [ofText]
  fitting := by simp [ofText]

theorem wellFormed_prepend {p : Patch} (h : p.WellFormed) (t : Text) :
    (p.prepend t).WellFormed :=
  ⟨h.ordered, h.covered, h.fitting⟩

theorem checkSpan_eq_ok_iff {p : Patch} {s : Span} {u : Unit} :
    p.checkSpan s = .ok u ↔ p.source.covers s = true := by
  unfold checkSpan
  split <;> simp_all

theorem checkPiece_eq_ok_iff {p : Patch} {outer : Span} {piece : Piece} {u : Unit} :
    p.checkPiece outer piece = .ok u ↔
      ∀ inner, piece = .copied inner →
        p.source.covers inner = true ∧ inner.within outer = true := by
  cases piece with
  | inserted t => simp [checkPiece]
  | copied inner =>
      simp only [checkPiece, bind_eq_ok_iff, checkSpan_eq_ok_iff, Piece.copied.injEq, forall_eq']
      constructor
      · rintro ⟨_, hcovers, hwithin⟩
        split at hwithin
        · exact ⟨hcovers, by assumption⟩
        · simp at hwithin
      · rintro ⟨hcovers, hwithin⟩
        exact ⟨(), hcovers, by rw [if_pos hwithin]⟩

theorem checkPieces_eq_ok_iff {p : Patch} {outer : Span} {pieces : List Piece} {u : Unit} :
    p.checkPieces outer pieces = .ok u ↔ PiecesFit p.source outer pieces := by
  induction pieces with
  | nil => simp [checkPieces, PiecesFit]
  | cons piece pieces ih =>
      simp only [checkPieces, bind_eq_ok_iff, checkPiece_eq_ok_iff, ih, PiecesFit,
        List.mem_cons]
      constructor
      · rintro ⟨_, hfirst, hothers⟩ inner (heq | hmem)
        · exact hfirst inner heq.symm
        · exact hothers inner hmem
      · intro h
        exact ⟨(), fun inner heq => h inner (Or.inl heq.symm),
          fun inner hmem => h inner (Or.inr hmem)⟩

theorem checkSpan_ne_overlap {p : Patch} {s recorded requested : Span} :
    p.checkSpan s ≠ .error (.overlap recorded requested) := by
  unfold checkSpan
  split <;> simp

theorem checkPieces_ne_overlap {p : Patch} {outer recorded requested : Span}
    {pieces : List Piece} :
    p.checkPieces outer pieces ≠ .error (.overlap recorded requested) := by
  induction pieces with
  | nil => simp [checkPieces]
  | cons piece pieces ih =>
      intro h
      rcases bind_eq_error_iff.mp h with h | ⟨_, -, h⟩
      · cases piece with
        | inserted t => simp [checkPiece] at h
        | copied inner =>
            rcases bind_eq_error_iff.mp h with h | ⟨_, -, h⟩
            · exact checkSpan_ne_overlap h
            · split at h <;> simp at h
      · exact ih h

theorem checkLeft_eq_ok_iff {s : Span} {before : List Edit} {u : Unit} :
    checkLeft s before = .ok u ↔ ∀ left ∈ before.getLast?, left.span.stop ≤ s.start := by
  unfold checkLeft
  cases before.getLast? with
  | none => simp
  | some left =>
      simp only [Option.mem_some_iff, forall_eq']
      split
      · simp only [reduceCtorEq, false_iff]
        omega
      · simp only [true_iff]
        omega

theorem checkRight_eq_ok_iff {s : Span} {after : List Edit} {u : Unit} :
    checkRight s after = .ok u ↔ ∀ right ∈ after.head?, s.stop ≤ right.span.start := by
  unfold checkRight
  cases after.head? with
  | none => simp
  | some right =>
      simp only [Option.mem_some_iff, forall_eq']
      split
      · simp only [reduceCtorEq, false_iff]
        omega
      · simp only [true_iff]
        omega

theorem checkLeft_eq_error {s : Span} {before : List Edit} {e : EditError}
    (h : checkLeft s before = .error e) :
    ∃ left ∈ before.getLast?, s.start < left.span.stop ∧ e = .overlap left.span s := by
  unfold checkLeft at h
  cases hlast : before.getLast? with
  | none => simp [hlast] at h
  | some left =>
      simp only [hlast] at h
      split at h
      · exact ⟨left, rfl, by assumption, (Except.error.inj h).symm⟩
      · simp at h

theorem checkRight_eq_error {s : Span} {after : List Edit} {e : EditError}
    (h : checkRight s after = .error e) :
    ∃ right ∈ after.head?, right.span.start < s.stop ∧ e = .overlap right.span s := by
  unfold checkRight at h
  cases hhead : after.head? with
  | none => simp [hhead] at h
  | some right =>
      simp only [hhead] at h
      split at h
      · exact ⟨right, rfl, by assumption, (Except.error.inj h).symm⟩
      · simp at h

theorem overwriteWith_eq_ok_iff {p q : Patch} {s : Span} {pieces : List Piece} :
    p.overwriteWith s pieces = .ok q ↔
      p.source.covers s = true ∧ PiecesFit p.source s pieces ∧
        (∀ left ∈ (p.splitEdits s).1.getLast?, left.span.stop ≤ s.start) ∧
        (∀ right ∈ (p.splitEdits s).2.head?, s.stop ≤ right.span.start) ∧
        q = { p with edits := (p.splitEdits s).1 ++ ⟨s, pieces⟩ :: (p.splitEdits s).2 } := by
  simp only [overwriteWith, bind_eq_ok_iff, checkSpan_eq_ok_iff, checkPieces_eq_ok_iff,
    checkLeft_eq_ok_iff, checkRight_eq_ok_iff, Except.ok.injEq]
  constructor
  · rintro ⟨_, hspan, _, hpieces, _, hleft, _, hright, rfl⟩
    exact ⟨hspan, hpieces, hleft, hright, rfl⟩
  · rintro ⟨hspan, hpieces, hleft, hright, rfl⟩
    exact ⟨(), hspan, (), hpieces, (), hleft, (), hright, rfl⟩

theorem splitEdits_append (p : Patch) (s : Span) :
    (p.splitEdits s).1 ++ (p.splitEdits s).2 = p.edits :=
  List.takeWhile_append_dropWhile

theorem start_lt_of_mem_splitEdits {p : Patch} {s : Span} {e : Edit}
    (h : e ∈ (p.splitEdits s).1) : e.span.start < s.start := by
  simpa using List.mem_takeWhile_imp h

theorem start_le_of_mem_head_splitEdits {p : Patch} {s : Span} {e : Edit}
    (h : e ∈ (p.splitEdits s).2.head?) : s.start ≤ e.span.start := by
  have hnot := List.head?_dropWhile_not (fun e : Edit => decide (e.span.start < s.start)) p.edits
  have hhead : (p.edits.dropWhile fun e : Edit => decide (e.span.start < s.start)).head? =
      some e := h
  rw [hhead] at hnot
  simpa using hnot

namespace WellFormed

variable {p q : Patch} {s : Span} {pieces : List Piece}

theorem ordered_splitEdits (h : p.WellFormed) (s : Span) :
    (p.splitEdits s).1.Pairwise (fun a b => a.span.stop ≤ b.span.start) ∧
      (p.splitEdits s).2.Pairwise (fun a b => a.span.stop ≤ b.span.start) ∧
      ∀ a ∈ (p.splitEdits s).1, ∀ b ∈ (p.splitEdits s).2, a.span.stop ≤ b.span.start := by
  have hordered := h.ordered
  rw [← splitEdits_append p s] at hordered
  exact List.pairwise_append.mp hordered

theorem start_lt_stop (h : p.WellFormed) {e : Edit} (he : e ∈ p.edits) :
    e.span.start < e.span.stop :=
  Text.start_lt_stop_of_covers (h.covered e he)

theorem stop_le_of_getLast (h : p.WellFormed)
    (hlast : ∀ left ∈ (p.splitEdits s).1.getLast?, left.span.stop ≤ s.start) :
    ∀ e ∈ (p.splitEdits s).1, e.span.stop ≤ s.start := by
  intro e he
  have hordered := (h.ordered_splitEdits s).1
  rcases List.eq_nil_or_concat (p.splitEdits s).1 with hnil | ⟨others, last, hconcat⟩
  · simp [hnil] at he
  · have hmem : last ∈ (p.splitEdits s).1 := by
      rw [hconcat]
      simp
    have hstart := start_lt_of_mem_splitEdits hmem
    rw [hconcat, List.concat_eq_append] at he hordered hlast
    rcases List.mem_append.mp he with hothers | hlastMem
    · have := (List.pairwise_append.mp hordered).2.2 e hothers last (by simp)
      omega
    · obtain rfl : e = last := by simpa using hlastMem
      exact hlast e (by simp)

theorem stop_le_of_head (h : p.WellFormed)
    (hhead : ∀ right ∈ (p.splitEdits s).2.head?, s.stop ≤ right.span.start) :
    ∀ e ∈ (p.splitEdits s).2, s.stop ≤ e.span.start := by
  intro e he
  have hordered := (h.ordered_splitEdits s).2.1
  have hmem : ∀ e ∈ (p.splitEdits s).2, e ∈ p.edits := fun e he => by
    rw [← splitEdits_append p s]
    exact List.mem_append_right _ he
  cases hsplit : (p.splitEdits s).2 with
  | nil => simp [hsplit] at he
  | cons first others =>
      rw [hsplit] at he hordered hhead hmem
      have hfirst := hhead first (by simp)
      rcases List.mem_cons.mp he with rfl | hothers
      · exact hfirst
      · have := (List.pairwise_cons.mp hordered).1 e hothers
        have := h.start_lt_stop (hmem first (by simp))
        omega

theorem overwriteWith_eq_ok_iff (h : p.WellFormed) :
    p.overwriteWith s pieces = .ok q ↔
      p.source.covers s = true ∧ PiecesFit p.source s pieces ∧
        (∀ e ∈ p.edits, e.span.Apart s) ∧
        q = { p with edits := (p.splitEdits s).1 ++ ⟨s, pieces⟩ :: (p.splitEdits s).2 } := by
  rw [Patch.overwriteWith_eq_ok_iff]
  constructor
  · -- only the two neighbours were compared, and the order of the edits carries this over to all
    rintro ⟨hspan, hpieces, hlast, hhead, hq⟩
    refine ⟨hspan, hpieces, ?_, hq⟩
    intro e he
    rw [← splitEdits_append p s] at he
    rcases List.mem_append.mp he with hbefore | hafter
    · exact Or.inl (h.stop_le_of_getLast hlast e hbefore)
    · exact Or.inr (h.stop_le_of_head hhead e hafter)
  · rintro ⟨hspan, hpieces, hapart, hq⟩
    have hpos := Text.start_lt_stop_of_covers hspan
    refine ⟨hspan, hpieces, ?_, ?_, hq⟩
    · intro left hleft
      have hbefore : left ∈ (p.splitEdits s).1 := List.mem_of_getLast? hleft
      have hstart := start_lt_of_mem_splitEdits hbefore
      have hedit : left ∈ p.edits := by
        rw [← splitEdits_append p s]
        exact List.mem_append_left _ hbefore
      rcases hapart left hedit with hstop | hstop
      · exact hstop
      · omega
    · intro right hright
      have hstart := start_le_of_mem_head_splitEdits hright
      have hedit : right ∈ p.edits := by
        rw [← splitEdits_append p s]
        exact List.mem_append_right _ (List.mem_of_mem_head? hright)
      have hedge := h.start_lt_stop hedit
      rcases hapart right hedit with hstop | hstop
      · omega
      · exact hstop

theorem overlap_of_overwriteWith (h : p.WellFormed) {recorded requested : Span}
    (herror : p.overwriteWith s pieces = .error (.overlap recorded requested)) :
    requested = s ∧ ∃ e ∈ p.edits, e.span = recorded ∧ ¬e.span.Apart s := by
  rcases bind_eq_error_iff.mp herror with herror | ⟨_, hspan, herror⟩
  · exact absurd herror checkSpan_ne_overlap
  rcases bind_eq_error_iff.mp herror with herror | ⟨_, -, herror⟩
  · exact absurd herror checkPieces_ne_overlap
  have hpos := Text.start_lt_stop_of_covers (checkSpan_eq_ok_iff.mp hspan)
  have hedits := splitEdits_append p s
  rcases bind_eq_error_iff.mp herror with herror | ⟨_, -, herror⟩
  · obtain ⟨left, hleft, hlt, heq⟩ := checkLeft_eq_error herror
    obtain ⟨rfl, rfl⟩ := EditError.overlap.inj heq
    have hbefore : left ∈ (p.splitEdits requested).1 := List.mem_of_getLast? hleft
    have hstart := start_lt_of_mem_splitEdits hbefore
    refine ⟨rfl, left, ?_, rfl, ?_⟩
    · rw [← hedits]
      exact List.mem_append_left _ hbefore
    · rintro (hstop | hstop) <;> omega
  rcases bind_eq_error_iff.mp herror with herror | ⟨_, -, herror⟩
  · obtain ⟨right, hright, hlt, heq⟩ := checkRight_eq_error herror
    obtain ⟨rfl, rfl⟩ := EditError.overlap.inj heq
    have hstart := start_le_of_mem_head_splitEdits hright
    have hedit : right ∈ p.edits := by
      rw [← hedits]
      exact List.mem_append_right _ (List.mem_of_mem_head? hright)
    have hedge := h.start_lt_stop hedit
    refine ⟨rfl, right, hedit, rfl, ?_⟩
    rintro (hstop | hstop) <;> omega
  · simp at herror

theorem overwriteWith (h : p.WellFormed) (hq : p.overwriteWith s pieces = .ok q) :
    q.WellFormed := by
  obtain ⟨hspan, hpieces, hlast, hhead, rfl⟩ := Patch.overwriteWith_eq_ok_iff.mp hq
  obtain ⟨hbefore, hafter, hacross⟩ := h.ordered_splitEdits s
  have hmem : ∀ e : Edit, e ∈ (p.splitEdits s).1 ++ ⟨s, pieces⟩ :: (p.splitEdits s).2 →
      e = ⟨s, pieces⟩ ∨ e ∈ p.edits := by
    intro e he
    rw [← splitEdits_append p s]
    simp only [List.mem_append, List.mem_cons] at he ⊢
    rcases he with hbefore | heq | hafter
    · exact Or.inr (Or.inl hbefore)
    · exact Or.inl heq
    · exact Or.inr (Or.inr hafter)
  refine ⟨?_, ?_, ?_⟩
  · refine List.pairwise_append.mpr ⟨hbefore, List.pairwise_cons.mpr ⟨?_, hafter⟩, ?_⟩
    · exact h.stop_le_of_head hhead
    · intro a ha b hb
      rcases List.mem_cons.mp hb with rfl | hb
      · exact h.stop_le_of_getLast hlast a ha
      · exact hacross a ha b hb
  · intro e he
    rcases hmem e he with rfl | he
    · exact hspan
    · exact h.covered e he
  · intro e he
    rcases hmem e he with rfl | he
    · exact hpieces
    · exact h.fitting e he

end WellFormed

theorem source_overwriteWith {p q : Patch} {s : Span} {pieces : List Piece}
    (hq : p.overwriteWith s pieces = .ok q) : q.source = p.source := by
  obtain ⟨-, -, -, -, rfl⟩ := overwriteWith_eq_ok_iff.mp hq
  rfl

theorem lead_overwriteWith {p q : Patch} {s : Span} {pieces : List Piece}
    (hq : p.overwriteWith s pieces = .ok q) : q.lead = p.lead := by
  obtain ⟨-, -, -, -, rfl⟩ := overwriteWith_eq_ok_iff.mp hq
  rfl

theorem edits_overwriteWith {p q : Patch} {s : Span} {pieces : List Piece}
    (hq : p.overwriteWith s pieces = .ok q) : q.edits.Perm (⟨s, pieces⟩ :: p.edits) := by
  obtain ⟨-, -, -, -, rfl⟩ := overwriteWith_eq_ok_iff.mp hq
  rw [← splitEdits_append p s]
  exact List.perm_middle

end Patch

end HandlerGuard
