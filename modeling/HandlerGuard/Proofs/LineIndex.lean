import HandlerGuard.Proofs.SourceMap.Resolution

namespace HandlerGuard

namespace Text

/-- The offset lies behind the first byte of a character and before the byte that follows it. -/
def Splits (t : Text) (offset : Nat) : Prop :=
  ∃ left c right, t = left ++ c :: right ∧ byteLength left < offset ∧
    offset < byteLength left + c.utf8Size

theorem isBoundary_or_splits {t : Text} {offset : Nat} (h : offset ≤ byteLength t) :
    t.isBoundary offset = true ∨ t.Splits offset := by
  induction t generalizing offset with
  | nil =>
      obtain rfl : offset = 0 := Nat.le_zero.mp h
      exact Or.inl (isBoundary_zero [])
  | cons c t ih =>
      rcases Nat.eq_zero_or_pos offset with rfl | hpos
      · exact Or.inl (isBoundary_zero (c :: t))
      by_cases hinside : offset < c.utf8Size
      · exact Or.inr ⟨[], c, t, rfl, hpos, by simpa using hinside⟩
      rw [byteLength_cons] at h
      rcases ih (show offset - c.utf8Size ≤ byteLength t by omega) with hboundary | hsplits
      · obtain ⟨left, right, rfl, hleft⟩ := isBoundary_iff.mp hboundary
        refine Or.inl (isBoundary_iff.mpr ⟨c :: left, right, rfl, ?_⟩)
        rw [byteLength_cons]
        omega
      · obtain ⟨left, d, right, rfl, hafter, hbefore⟩ := hsplits
        refine Or.inr ⟨c :: left, d, right, rfl, ?_, ?_⟩
        · rw [byteLength_cons]
          omega
        · rw [byteLength_cons]
          omega

theorem Splits.not_isBoundary {t : Text} {offset : Nat} (h : t.Splits offset) :
    t.isBoundary offset = false := by
  obtain ⟨left, c, right, rfl, hafter, hbefore⟩ := h
  refine Bool.eq_false_iff.mpr fun hboundary => ?_
  obtain ⟨front, back, heq, rfl⟩ := isBoundary_iff.mp hboundary
  obtain ⟨middle, rfl, hmiddle⟩ := exists_middle_of_byteLength_le heq hafter.le
  rw [byteLength_append] at hafter hbefore
  -- the text between the start of the character and the offset is empty or holds the character
  cases middle with
  | nil => simp at hafter
  | cons d middle =>
      obtain ⟨rfl, -⟩ := List.cons.inj hmiddle
      rw [byteLength_cons] at hbefore
      omega

theorem isBoundary_eq_false_iff {t : Text} {offset : Nat} :
    t.isBoundary offset = false ↔ byteLength t < offset ∨ t.Splits offset := by
  constructor
  · intro h
    rcases Nat.lt_or_ge (byteLength t) offset with hpast | hle
    · exact Or.inl hpast
    · exact Or.inr ((isBoundary_or_splits hle).resolve_left (by simp [h]))
  · rintro (hpast | hsplits)
    · refine Bool.eq_false_iff.mpr fun hboundary => ?_
      obtain ⟨left, right, rfl, rfl⟩ := isBoundary_iff.mp hboundary
      rw [byteLength_append] at hpast
      omega
    · exact hsplits.not_isBoundary

end Text

namespace LineIndex

theorem pairwise_startsAfter (offset : Nat) (t : Text) :
    (startsAfter offset t).Pairwise (· < ·) := by
  induction t generalizing offset with
  | nil => exact List.Pairwise.nil
  | cons c t ih =>
      rw [startsAfter]
      split
      · exact List.pairwise_cons.mpr
          ⟨fun start hmem => (lt_and_le_of_mem_startsAfter hmem).1, ih _⟩
      · exact ih _

theorem pairwise_starts (t : Text) : (ofText t).starts.Pairwise (· < ·) :=
  List.pairwise_cons.mpr
    ⟨fun _ hmem => (lt_and_le_of_mem_startsAfter hmem).1, pairwise_startsAfter 0 t⟩

theorem position?_eq_none_iff {t : Text} {offset : Nat} :
    (ofText t).position? offset = none ↔ t.byteLength < offset ∨ t.Splits offset := by
  rw [← Text.isBoundary_eq_false_iff, Bool.eq_false_iff, Ne, Text.isBoundary_iff]
  constructor
  · rintro hnone ⟨left, right, rfl, rfl⟩
    rw [position?_append] at hnone
    exact absurd hnone (by simp)
  · intro hno
    refine Option.eq_none_iff_forall_ne_some.mpr fun p hp => ?_
    obtain ⟨left, right, hsplit, hleft, -⟩ := position?_eq_some_iff.mp hp
    exact hno ⟨left, right, hsplit, hleft⟩

theorem precedes_of_lt {t : Text} {a b : Nat} {p q : Position}
    (hp : (ofText t).position? a = some p) (hq : (ofText t).position? b = some q) (hab : a < b) :
    p.Precedes q := by
  obtain ⟨left, right, rfl, rfl, rfl⟩ := position?_eq_some_iff.mp hp
  obtain ⟨front, back, heq, rfl, rfl⟩ := position?_eq_some_iff.mp hq
  obtain ⟨middle, rfl, -⟩ := Text.exists_middle_of_byteLength_le heq hab.le
  cases middle with
  | nil => simp at hab
  | cons c middle =>
      rw [Position.advanceOver_append]
      exact Position.precedes_advanceOver_cons _ c middle

theorem precedes_iff_lt {t : Text} {a b : Nat} {p q : Position}
    (hp : (ofText t).position? a = some p) (hq : (ofText t).position? b = some q) :
    p.Precedes q ↔ a < b := by
  refine ⟨fun hprecedes => ?_, precedes_of_lt hp hq⟩
  rcases Nat.lt_trichotomy a b with hlt | rfl | hlt
  · exact hlt
  · exact absurd (Option.some.inj (hp.symm.trans hq)) hprecedes.ne
  · exact absurd rfl (hprecedes.trans (precedes_of_lt hq hp hlt)).ne

/-- The first `k` line starts are not behind the offset, and all others are. -/
def PartsAt (index : LineIndex) (offset k : Nat) : Prop :=
  k ≤ index.starts.length ∧ (∀ start ∈ index.starts.take k, start ≤ offset) ∧
    ∀ start ∈ index.starts.drop k, offset < start

theorem length_takeWhile_starts (t : Text) (offset : Nat) :
    ((ofText t).starts.takeWhile (· ≤ offset)).length = (ofText t).lineAt offset + 1 := by
  have hfirst : (ofText t).starts.takeWhile (· ≤ offset) =
      0 :: (startsAfter 0 t).takeWhile (· ≤ offset) :=
    List.takeWhile_cons_of_pos (by simp)
  rw [lineAt, hfirst]
  rfl

theorem PartsAt.takeWhile_eq {index : LineIndex} {offset k : Nat} (h : index.PartsAt offset k) :
    index.starts.takeWhile (· ≤ offset) = index.starts.take k := by
  obtain ⟨-, hbefore, hafter⟩ := h
  have hright : (index.starts.drop k).takeWhile (· ≤ offset) = [] := by
    refine List.takeWhile_eq_nil_iff.mpr fun hne => ?_
    simpa using hafter _ (List.getElem_mem hne)
  calc
    _ = (index.starts.take k ++ index.starts.drop k).takeWhile (· ≤ offset) := by
      rw [List.take_append_drop]
    _ = index.starts.take k ++ (index.starts.drop k).takeWhile (· ≤ offset) :=
      List.takeWhile_append_of_pos fun start hmem => by simpa using hbefore start hmem
    _ = index.starts.take k := by rw [hright, List.append_nil]

theorem partsAt_of_append {index : LineIndex} {offset : Nat} {kept others : List Nat}
    (hparts : index.starts = kept ++ others) (hkept : ∀ start ∈ kept, start ≤ offset)
    (hothers : ∀ start ∈ others, offset < start) : index.PartsAt offset kept.length := by
  rw [PartsAt, hparts, List.take_left, List.drop_left]
  exact ⟨by simp, hkept, hothers⟩

theorem partsAt_length_takeWhile (t : Text) (offset : Nat) :
    (ofText t).PartsAt offset ((ofText t).starts.takeWhile (· ≤ offset)).length := by
  refine partsAt_of_append List.takeWhile_append_dropWhile.symm ?_ ?_
  · intro start hmem
    simpa using List.mem_takeWhile_imp hmem
  · -- the first start that is left out is behind the offset, and the others are behind it
    have hsorted := (pairwise_starts t).sublist (List.dropWhile_sublist (· ≤ offset))
    have hfirst := List.head_dropWhile_not (· ≤ offset) (l := (ofText t).starts)
    revert hsorted hfirst
    generalize (ofText t).starts.dropWhile (· ≤ offset) = others
    intro hsorted hfirst start hmem
    cases others with
    | nil => simp at hmem
    | cons first rest =>
        have hbehind : offset < first :=
          Nat.lt_of_not_le (of_decide_eq_false (hfirst (by simp)))
        rcases List.mem_cons.mp hmem with rfl | hmem
        · exact hbehind
        · exact hbehind.trans ((List.pairwise_cons.mp hsorted).1 start hmem)

theorem partsAt_iff {t : Text} {offset k : Nat} :
    (ofText t).PartsAt offset k ↔ k = (ofText t).lineAt offset + 1 := by
  rw [← length_takeWhile_starts]
  constructor
  · intro h
    rw [h.takeWhile_eq, List.length_take_of_le h.1]
  · rintro rfl
    exact partsAt_length_takeWhile t offset

/-- Looking an offset up among the line starts and walking over the text before it give the same
position. The place where the offset parts the line starts is the only one. There is no position exactly
if the offset is past the end or inside a character. In a text of less than 2³² bytes lines and columns
have 32 bits, and positions stand in the order of their offsets. -/
theorem lookup_agrees_with_walk (t : Text) (hsize : t.byteLength < 4294967296) :
    (∀ offset k, (ofText t).PartsAt offset k ↔ k = (ofText t).lineAt offset + 1) ∧
      (∀ offset, (ofText t).position? offset = none ↔ t.byteLength < offset ∨ t.Splits offset) ∧
      (∀ offset p, (ofText t).position? offset = some p ↔
        ∃ before, t.takeBytes? offset = some before ∧ p = Position.origin.advanceOver before) ∧
      (∀ offset p, (ofText t).position? offset = some p →
        p.line < 4294967296 ∧ p.column < 4294967296) ∧
      ∀ a b p q, (ofText t).position? a = some p → (ofText t).position? b = some q →
        (p.Precedes q ↔ a < b) := by
  refine ⟨fun _ _ => partsAt_iff, fun _ => position?_eq_none_iff, ?_, ?_, ?_⟩
  · intro offset p
    rw [position?_eq_some_iff]
    constructor
    · rintro ⟨left, right, rfl, rfl, rfl⟩
      exact ⟨left, Text.takeBytes?_append left right, rfl⟩
    · rintro ⟨before, hbefore, rfl⟩
      obtain ⟨after, hsplit, hlength⟩ := Text.takeBytes?_eq_some_iff.mp hbefore
      exact ⟨before, after, hsplit, hlength, rfl⟩
  · intro offset p hp
    obtain ⟨left, right, rfl, -, rfl⟩ := position?_eq_some_iff.mp hp
    exact Position.fitsWord_advanceOver hsize
  · intro a b p q hp hq
    exact precedes_iff_lt hp hq

/-- Two lines, with characters of one, two and four bytes. -/
def twoLines : Text := "é😀\nx".toList

theorem twoLines_lookup :
    twoLines.byteLength = 8 ∧ twoLines.byteLength < 4294967296 ∧
      (ofText twoLines).PartsAt 6 1 ∧ (ofText twoLines).PartsAt 7 2 ∧
      twoLines.Splits 3 ∧ (ofText twoLines).position? 3 = none ∧
      (ofText twoLines).position? 9 = none ∧
      (ofText twoLines).position? 6 = some ⟨0, 3⟩ ∧ (ofText twoLines).position? 8 = some ⟨1, 1⟩ ∧
      Position.Precedes ⟨0, 3⟩ ⟨1, 1⟩ := by
  have hsize : twoLines.byteLength = 8 := by decide
  have hsmall : twoLines.byteLength < 4294967296 := by omega
  obtain ⟨hparts, hnone, hsome, -, horder⟩ := lookup_agrees_with_walk twoLines hsmall
  have hsplits : twoLines.Splits 3 :=
    ⟨['é'], '😀', ['\n', 'x'], by decide, by decide, by decide⟩
  have hfront := (hsome 6 ⟨0, 3⟩).mpr ⟨"é😀".toList, by decide, by decide⟩
  have hend := (hsome 8 ⟨1, 1⟩).mpr ⟨twoLines, by decide, by decide⟩
  exact ⟨hsize, hsmall, (hparts 6 1).mpr (by decide), (hparts 7 2).mpr (by decide), hsplits,
    (hnone 3).mpr (Or.inr hsplits), (hnone 9).mpr (Or.inl (by omega)), hfront, hend,
    (horder 6 8 _ _ hfront hend).mpr (by decide)⟩

end LineIndex

end HandlerGuard
