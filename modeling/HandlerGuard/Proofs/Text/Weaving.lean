import HandlerGuard.Proofs.Text.Slice

namespace HandlerGuard

namespace Text

/-- The text, which begins at `offset`, with `inserted n` before the character that stands at each
offset `n`. Nothing is put in at its end. -/
def weaveFrom (inserted : Nat → Text) (offset : Nat) : Text → Text
  | [] => []
  | c :: rest => inserted offset ++ c :: weaveFrom inserted (offset + c.utf8Size) rest

/-- The text with `inserted n` put in at each boundary `n`, its end included. -/
def weave (inserted : Nat → Text) (t : Text) : Text :=
  weaveFrom inserted 0 t ++ inserted (byteLength t)

theorem weaveFrom_append (inserted : Nat → Text) (offset : Nat) (a b : Text) :
    weaveFrom inserted offset (a ++ b) =
      weaveFrom inserted offset a ++ weaveFrom inserted (offset + byteLength a) b := by
  induction a generalizing offset with
  | nil => simp [weaveFrom]
  | cons c a ih => simp [weaveFrom, ih, Nat.add_assoc]

theorem weaveFrom_congr {f g : Nat → Text} {offset : Nat} {t : Text}
    (h : ∀ n, offset ≤ n → n < offset + byteLength t → f n = g n) :
    weaveFrom f offset t = weaveFrom g offset t := by
  induction t generalizing offset with
  | nil => rfl
  | cons c t ih =>
      have hpos := c.utf8Size_pos
      have hhere : f offset = g offset := h offset (Nat.le_refl _) (by simp; omega)
      have hrest : weaveFrom f (offset + c.utf8Size) t = weaveFrom g (offset + c.utf8Size) t := by
        apply ih
        intro n hlow hhigh
        exact h n (by omega) (by simp; omega)
      simp only [weaveFrom, hhere, hrest]

theorem weaveFrom_nil (offset : Nat) (t : Text) : weaveFrom (fun _ => []) offset t = t := by
  induction t generalizing offset with
  | nil => rfl
  | cons c t ih => simp [weaveFrom, ih]

theorem weaveFrom_of_eq_nil {f : Nat → Text} {offset : Nat} {t : Text}
    (h : ∀ n, offset ≤ n → n < offset + byteLength t → f n = []) :
    weaveFrom f offset t = t := by
  rw [weaveFrom_congr h, weaveFrom_nil]

theorem weaveFrom_start {first : Text} {f g : Nat → Text} {offset : Nat} {t : Text}
    (hstart : f offset = first ++ g offset)
    (hothers : ∀ n, offset < n → n ≤ offset + byteLength t → f n = g n) :
    weaveFrom f offset t ++ f (offset + byteLength t) =
      first ++ (weaveFrom g offset t ++ g (offset + byteLength t)) := by
  cases t with
  | nil => simpa [weaveFrom] using hstart
  | cons c t =>
      have hpos := c.utf8Size_pos
      have hrest : weaveFrom f (offset + c.utf8Size) t = weaveFrom g (offset + c.utf8Size) t := by
        apply weaveFrom_congr
        intro n hlow hhigh
        exact hothers n (by omega) (by simp; omega)
      have hend : f (offset + byteLength (c :: t)) = g (offset + byteLength (c :: t)) :=
        hothers _ (by simp; omega) (Nat.le_refl _)
      simp only [weaveFrom, hstart, hrest, hend, List.append_assoc]

end Text

end HandlerGuard
