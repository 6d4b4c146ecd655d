import HandlerGuard.Text.Basic

namespace HandlerGuard

namespace Text

@[simp] theorem byteLength_nil : byteLength [] = 0 := rfl

@[simp] theorem byteLength_cons (c : Char) (t : Text) :
    byteLength (c :: t) = c.utf8Size + byteLength t := rfl

@[simp] theorem byteLength_append (a b : Text) :
    byteLength (a ++ b) = byteLength a + byteLength b := by
  induction a with
  | nil => simp
  | cons c a ih => simp [ih, Nat.add_assoc]

theorem byteLength_eq_zero {t : Text} : byteLength t = 0 ↔ t = [] := by
  cases t with
  | nil => simp
  | cons c t =>
      have := c.utf8Size_pos
      simp only [byteLength_cons, reduceCtorEq, iff_false]
      omega

theorem byteLength_pos {t : Text} : 0 < byteLength t ↔ t ≠ [] := by
  rw [Nat.pos_iff_ne_zero, Ne, byteLength_eq_zero]

theorem append_inj_of_byteLength {a b c d : Text}
    (heq : a ++ b = c ++ d) (hlen : byteLength a = byteLength c) : a = c ∧ b = d := by
  induction a generalizing c with
  | nil =>
      have hc : c = [] := byteLength_eq_zero.mp (by simpa using hlen.symm)
      subst hc
      exact ⟨rfl, by simpa using heq⟩
  | cons x a ih =>
      cases c with
      | nil =>
          have := x.utf8Size_pos
          simp only [byteLength_cons, byteLength_nil] at hlen
          omega
      | cons y c =>
          simp only [List.cons_append, List.cons.injEq] at heq
          obtain ⟨rfl, htail⟩ := heq
          obtain ⟨rfl, rfl⟩ := ih htail (by simpa using hlen)
          exact ⟨rfl, rfl⟩

theorem exists_middle_of_byteLength_le {a b c d : Text}
    (heq : a ++ b = c ++ d) (hle : byteLength a ≤ byteLength c) :
    ∃ middle, c = a ++ middle ∧ b = middle ++ d := by
  rcases List.append_eq_append_iff.mp heq with ⟨m, rfl, rfl⟩ | ⟨m, rfl, rfl⟩
  · exact ⟨m, rfl, rfl⟩
  · have hm : m = [] := byteLength_eq_zero.mp (by simp at hle; omega)
    subst hm
    exact ⟨[], by simp, by simp⟩

theorem dropBytes?_append (left right : Text) :
    dropBytes? (left ++ right) (byteLength left) = some right := by
  induction left with
  | nil => simp [dropBytes?]
  | cons c left ih =>
      obtain ⟨k, hk⟩ := Nat.exists_eq_succ_of_ne_zero
        (Nat.ne_of_gt (Nat.add_pos_left c.utf8Size_pos (byteLength left)))
      simp only [byteLength_cons, List.cons_append, hk, Nat.succ_eq_add_one, dropBytes?]
      rw [if_pos (by omega), show k + 1 - c.utf8Size = byteLength left by omega, ih]

theorem takeBytes?_append (left right : Text) :
    takeBytes? (left ++ right) (byteLength left) = some left := by
  induction left with
  | nil => simp [takeBytes?]
  | cons c left ih =>
      obtain ⟨k, hk⟩ := Nat.exists_eq_succ_of_ne_zero
        (Nat.ne_of_gt (Nat.add_pos_left c.utf8Size_pos (byteLength left)))
      simp only [byteLength_cons, List.cons_append, hk, Nat.succ_eq_add_one, takeBytes?]
      rw [if_pos (by omega), show k + 1 - c.utf8Size = byteLength left by omega, ih]
      rfl

theorem dropBytes?_eq_some_iff {t right : Text} {n : Nat} :
    dropBytes? t n = some right ↔ ∃ left, t = left ++ right ∧ byteLength left = n := by
  constructor
  · intro h
    fun_induction dropBytes? t n with
    | case1 t => exact ⟨[], by simpa using h, rfl⟩
    | case2 n => simp at h
    | case3 c rest n hfits ih =>
        obtain ⟨left, rfl, hlen⟩ := ih h
        exact ⟨c :: left, rfl, by simp; omega⟩
    | case4 c rest n hfits => simp at h
  · rintro ⟨left, rfl, rfl⟩
    exact dropBytes?_append left right

theorem takeBytes?_eq_some_iff {t left : Text} {n : Nat} :
    takeBytes? t n = some left ↔ ∃ right, t = left ++ right ∧ byteLength left = n := by
  constructor
  · intro h
    fun_induction takeBytes? t n generalizing left with
    | case1 t =>
        obtain rfl : [] = left := by simpa using h
        exact ⟨t, rfl, rfl⟩
    | case2 n => simp at h
    | case3 c rest n hfits ih =>
        obtain ⟨tail, htail, rfl⟩ := Option.map_eq_some_iff.mp h
        obtain ⟨right, rfl, hlen⟩ := ih htail
        exact ⟨right, rfl, by simp; omega⟩
    | case4 c rest n hfits => simp at h
  · rintro ⟨right, rfl, rfl⟩
    exact takeBytes?_append left right

theorem isBoundary_iff {t : Text} {n : Nat} :
    isBoundary t n = true ↔ ∃ left right, t = left ++ right ∧ byteLength left = n := by
  rw [isBoundary, Option.isSome_iff_exists]
  constructor
  · rintro ⟨right, h⟩
    obtain ⟨left, heq, hlen⟩ := dropBytes?_eq_some_iff.mp h
    exact ⟨left, right, heq, hlen⟩
  · rintro ⟨left, right, heq, hlen⟩
    exact ⟨right, dropBytes?_eq_some_iff.mpr ⟨left, heq, hlen⟩⟩

theorem slice?_eq_some_iff {t middle : Text} {s : Span} :
    slice? t s = some middle ↔
      ∃ left right, t = left ++ (middle ++ right) ∧ byteLength left = s.start ∧
        byteLength left + byteLength middle = s.stop := by
  unfold slice?
  constructor
  · intro h
    split at h
    · rename_i hle
      obtain ⟨tail, htail, hmiddle⟩ := Option.bind_eq_some_iff.mp h
      obtain ⟨left, rfl, hleft⟩ := dropBytes?_eq_some_iff.mp htail
      obtain ⟨right, rfl, hlen⟩ := takeBytes?_eq_some_iff.mp hmiddle
      refine ⟨left, right, rfl, hleft, ?_⟩
      rw [hlen, hleft, Span.length]
      omega
    · simp at h
  · rintro ⟨left, right, rfl, hleft, hstop⟩
    have hlen : byteLength middle = s.length := by
      rw [Span.length]
      omega
    rw [if_pos (by omega), ← hleft, dropBytes?_append, Option.bind_some, ← hlen,
      takeBytes?_append]

theorem slice?_append (left middle right : Text) :
    slice? (left ++ (middle ++ right))
      ⟨byteLength left, byteLength left + byteLength middle⟩ = some middle :=
  slice?_eq_some_iff.mpr ⟨left, right, rfl, rfl, rfl⟩

theorem covers_iff {t : Text} {s : Span} :
    t.covers s = true ↔
      ∃ left middle right, t = left ++ (middle ++ right) ∧ middle ≠ [] ∧
        byteLength left = s.start ∧ byteLength left + byteLength middle = s.stop := by
  simp only [covers, Bool.and_eq_true, decide_eq_true_eq, isBoundary_iff]
  constructor
  · rintro ⟨⟨⟨hlt, hstop⟩, left, tail, heq, hleft⟩, front, right, heq', hfront⟩
    have hle : byteLength left ≤ byteLength front := by omega
    obtain ⟨middle, rfl, rfl⟩ := exists_middle_of_byteLength_le (heq.symm.trans heq') hle
    rw [byteLength_append] at hfront
    refine ⟨left, middle, right, heq, ?_, hleft, hfront⟩
    exact byteLength_pos.mp (by omega)
  · rintro ⟨left, middle, right, rfl, hne, hleft, hstop⟩
    have hpos := byteLength_pos.mpr hne
    refine ⟨⟨⟨by omega, by simp; omega⟩, left, middle ++ right, rfl, hleft⟩,
      left ++ middle, right, by simp, by simpa using hstop⟩

theorem start_lt_stop_of_covers {t : Text} {s : Span} (h : t.covers s = true) :
    s.start < s.stop := by
  simp only [covers, Bool.and_eq_true, decide_eq_true_eq] at h
  exact h.1.1.1

theorem stop_le_of_covers {t : Text} {s : Span} (h : t.covers s = true) :
    s.stop ≤ byteLength t := by
  simp only [covers, Bool.and_eq_true, decide_eq_true_eq] at h
  exact h.1.1.2

theorem isBoundary_start_of_covers {t : Text} {s : Span} (h : t.covers s = true) :
    t.isBoundary s.start = true := by
  simp only [covers, Bool.and_eq_true] at h
  exact h.1.2

theorem isBoundary_stop_of_covers {t : Text} {s : Span} (h : t.covers s = true) :
    t.isBoundary s.stop = true := by
  simp only [covers, Bool.and_eq_true] at h
  exact h.2

theorem isBoundary_zero (t : Text) : t.isBoundary 0 = true :=
  isBoundary_iff.mpr ⟨[], t, rfl, rfl⟩

theorem isBoundary_byteLength (t : Text) : t.isBoundary t.byteLength = true :=
  isBoundary_iff.mpr ⟨t, [], by simp, rfl⟩

theorem exists_slice?_of_covers {t : Text} {s : Span} (h : t.covers s = true) :
    ∃ middle, slice? t s = some middle := by
  obtain ⟨left, middle, right, heq, -, hleft, hstop⟩ := covers_iff.mp h
  exact ⟨middle, slice?_eq_some_iff.mpr ⟨left, right, heq, hleft, hstop⟩⟩

end Text

end HandlerGuard
