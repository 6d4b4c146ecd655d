import Mathlib.Data.List.Induction
import HandlerGuard.Position
import HandlerGuard.Proofs.Text.Slice

namespace HandlerGuard

@[simp] theorem Position.advanceOver_nil (p : Position) : p.advanceOver [] = p := rfl

@[simp] theorem Position.advanceOver_cons (p : Position) (c : Char) (t : Text) :
    p.advanceOver (c :: t) = (p.advance c).advanceOver t := rfl

@[simp] theorem Position.advanceOver_append (p : Position) (a b : Text) :
    p.advanceOver (a ++ b) = (p.advanceOver a).advanceOver b :=
  List.foldl_append

theorem Text.units16_append (a b : Text) :
    units16 (a ++ b) = units16 a + units16 b := by
  induction a with
  | nil => simp [units16]
  | cons c a ih => simp [units16, ih, Nat.add_assoc]

theorem Text.units_le_utf8Size (c : Char) : units c ≤ c.utf8Size := by
  have hpos := c.utf8Size_pos
  unfold units
  split
  · exact hpos
  · rename_i hastral
    have hne : c.utf8Size ≠ 1 := by
      intro hone
      have hsmall := UInt32.le_iff_toNat_le.mp (Char.utf8Size_eq_one_iff.mp hone)
      rw [Char.toNat] at hastral
      exact hastral (Nat.lt_of_le_of_lt hsmall (by decide))
    omega

namespace Position

theorem advance_of_ne (p : Position) {c : Char} (h : c ≠ '\n') :
    p.advance c = ⟨p.line, p.column + Text.units c⟩ :=
  if_neg h

theorem advanceOver_le (p : Position) (t : Text) :
    (p.advanceOver t).line ≤ p.line + t.byteLength ∧
      (p.advanceOver t).column ≤ p.column + t.byteLength := by
  induction t generalizing p with
  | nil => exact ⟨Nat.le_refl _, Nat.le_refl _⟩
  | cons c t ih =>
      obtain ⟨hline, hcolumn⟩ := ih (p.advance c)
      have hunits := Text.units_le_utf8Size c
      have hpos := c.utf8Size_pos
      have hstep : (p.advance c).line ≤ p.line + c.utf8Size ∧
          (p.advance c).column ≤ p.column + c.utf8Size := by
        by_cases hc : c = '\n'
        · rw [advance, if_pos hc]
          exact ⟨Nat.add_le_add_left hpos _, Nat.zero_le _⟩
        · rw [p.advance_of_ne hc]
          exact ⟨Nat.le_add_right _ _, Nat.add_le_add_left hunits _⟩
      rw [advanceOver_cons, Text.byteLength_cons]
      omega

/-- Line and column are numbers of 32 bits. -/
def FitsWord (p : Position) : Prop := p.line < 4294967296 ∧ p.column < 4294967296

theorem fitsWord_advanceOver {left right : Text}
    (h : Text.byteLength (left ++ right) < 4294967296) : (origin.advanceOver left).FitsWord := by
  obtain ⟨hline, hcolumn⟩ := origin.advanceOver_le left
  rw [Text.byteLength_append] at h
  have horigin : origin.line = 0 ∧ origin.column = 0 := ⟨rfl, rfl⟩
  exact ⟨by omega, by omega⟩

end Position

namespace LineIndex

theorem startsAfter_append (offset : Nat) (a b : Text) :
    startsAfter offset (a ++ b) =
      startsAfter offset a ++ startsAfter (offset + a.byteLength) b := by
  induction a generalizing offset with
  | nil => simp [startsAfter]
  | cons c a ih =>
      simp only [List.cons_append, startsAfter, ih, Text.byteLength_cons, Nat.add_assoc]
      split <;> rfl

theorem lt_and_le_of_mem_startsAfter {offset start : Nat} {t : Text}
    (h : start ∈ startsAfter offset t) : offset < start ∧ start ≤ offset + t.byteLength := by
  induction t generalizing offset with
  | nil => simp [startsAfter] at h
  | cons c t ih =>
      have hpos := c.utf8Size_pos
      have hrest : start ∈ startsAfter (offset + c.utf8Size) t →
          offset < start ∧ start ≤ offset + Text.byteLength (c :: t) := by
        intro hmem
        have hbounds := ih hmem
        simp only [Text.byteLength_cons]
        omega
      simp only [startsAfter] at h
      split at h
      · rcases List.mem_cons.mp h with rfl | hmem
        · simp only [Text.byteLength_cons]
          omega
        · exact hrest hmem
      · exact hrest h

theorem takeWhile_starts (left right : Text) :
    (ofText (left ++ right)).starts.takeWhile (· ≤ left.byteLength) =
      0 :: startsAfter 0 left := by
  have hleft : ∀ start ∈ 0 :: startsAfter 0 left, decide (start ≤ left.byteLength) = true := by
    intro start hmem
    rcases List.mem_cons.mp hmem with rfl | hmem
    · simp
    · have := lt_and_le_of_mem_startsAfter hmem
      simp only [decide_eq_true_eq]
      omega
  have hright : (startsAfter left.byteLength right).takeWhile (· ≤ left.byteLength) = [] := by
    cases hstarts : startsAfter left.byteLength right with
    | nil => rfl
    | cons start starts =>
        have := lt_and_le_of_mem_startsAfter (hstarts ▸ List.mem_cons_self)
        rw [List.takeWhile_cons_of_neg]
        simp only [decide_eq_true_eq]
        omega
  rw [ofText, startsAfter_append, Nat.zero_add, ← List.cons_append,
    List.takeWhile_append_of_pos hleft, hright, List.append_nil]

/-- The last line of a text starts where the index says that it does, and the walk over the text counts
the lines before it and the columns in it. -/
theorem exists_lastLine (t : Text) :
    ∃ front line, t = front ++ line ∧
      (0 :: startsAfter 0 t).getLast? = some front.byteLength ∧
      Position.origin.advanceOver t = ⟨(startsAfter 0 t).length, line.units16⟩ := by
  induction t using List.reverseRecOn with
  | nil => exact ⟨[], [], rfl, rfl, rfl⟩
  | append_singleton t c ih =>
      obtain ⟨front, line, hsplit, hstart, hwalk⟩ := ih
      by_cases hc : c = '\n'
      · refine ⟨t ++ [c], [], by simp, ?_, ?_⟩
        · rw [startsAfter_append, ← List.cons_append, List.getLast?_append]
          simp [startsAfter, hc]
        · simp [startsAfter_append, startsAfter, hwalk, Position.advance, hc, Text.units16]
      · refine ⟨front, line ++ [c], by simp [hsplit], ?_, ?_⟩
        · simpa [startsAfter_append, startsAfter, hc] using hstart
        · simp [startsAfter_append, startsAfter, hwalk, Position.advance, hc,
            Text.units16_append, Text.units16]

theorem position?_append (left right : Text) :
    (ofText (left ++ right)).position? left.byteLength =
      some (Position.origin.advanceOver left) := by
  obtain ⟨front, line, hsplit, hlast, hwalk⟩ := exists_lastLine left
  have hline : (ofText (left ++ right)).lineAt left.byteLength =
      (startsAfter 0 left).length := by
    rw [lineAt, takeWhile_starts]
    rfl
  have hstart : (ofText (left ++ right)).starts[(startsAfter 0 left).length]? =
      some front.byteLength := by
    rw [ofText, startsAfter_append, ← List.cons_append, List.getElem?_append_left (by simp),
      ← hlast, List.getLast?_eq_getElem?]
    rfl
  have hslice : Text.slice? (left ++ right) ⟨front.byteLength, left.byteLength⟩ =
      some line := by
    refine Text.slice?_eq_some_iff.mpr ⟨front, right, ?_, rfl, ?_⟩
    · rw [hsplit, List.append_assoc]
    · rw [← Text.byteLength_append, ← hsplit]
  have htext : (ofText (left ++ right)).text = left ++ right := rfl
  simp only [position?, hline, htext, List.getD_eq_getElem?_getD, hstart, Option.getD_some, hslice,
    hwalk, Option.map_some]

theorem position?_eq_some_iff {t : Text} {offset : Nat} {p : Position} :
    (ofText t).position? offset = some p ↔
      ∃ left right, t = left ++ right ∧ left.byteLength = offset ∧
        p = Position.origin.advanceOver left := by
  constructor
  · intro h
    -- the slice that gives the column ends at the offset
    obtain ⟨line, hline, -⟩ := Option.map_eq_some_iff.mp h
    obtain ⟨front, right, hsplit, -, hstop⟩ := Text.slice?_eq_some_iff.mp hline
    have hsplit : t = (front ++ line) ++ right := by
      rw [List.append_assoc]
      exact hsplit
    obtain rfl : (front ++ line).byteLength = offset := by
      rw [Text.byteLength_append]
      exact hstop
    refine ⟨front ++ line, right, hsplit, rfl, ?_⟩
    rw [hsplit, position?_append] at h
    exact (Option.some.inj h).symm
  · rintro ⟨left, right, rfl, rfl, rfl⟩
    exact position?_append left right

end LineIndex

end HandlerGuard
