import HandlerGuard.Toml.Printer

namespace HandlerGuard.Toml

/-! ### Escapes -/

theorem isPlain_eq (c : Char) : isPlain c = (!isControl c && c ≠ '\n') := by
  by_cases htab : c = '\t'
  · subst htab
    decide
  · by_cases hline : c = '\n'
    · subst hline
      decide
    · rw [Bool.eq_iff_iff]
      simp [isPlain, isControl, htab, hline]

theorem readEscape_fourHexDigits {c : Char} (h : c.toNat < 0x80) (rest : Text) :
    readEscape ('u' :: (fourHexDigits c.toNat ++ rest)) = some (c, rest) := by
  have hnumber : ∀ n < 0x80, hexNumber? (fourHexDigits n) = some n ∧ n.isValidChar := by
    decide +kernel
  obtain ⟨hhex, hvalid⟩ := hnumber c.toNat h
  have htake : (fourHexDigits c.toNat ++ rest).take 4 = fourHexDigits c.toNat := rfl
  have hdrop : (fourHexDigits c.toNat ++ rest).drop 4 = rest := rfl
  simp only [readEscape, codeEscape?, htake, hdrop, hhex, charOfCode?, if_pos hvalid,
    Char.ofNat_toNat, Option.bind_eq_bind, Option.bind_some]
  rfl

theorem escape_cases (lines : Bool) (c : Char) :
    (∃ body, escape lines c = '\\' :: body ∧ ∀ rest, readEscape (body ++ rest) = some (c, rest) ∧
        continuation? (body ++ rest) = none) ∨
      (lines = true ∧ c = '\n' ∧ escape lines c = ['\n']) ∨
      (c ≠ '\\' ∧ c ≠ '\n' ∧ c ≠ '\r' ∧ isPlain c = true ∧ escape lines c = [c]) := by
  by_cases hshort : c ∈ ['\x08', '\t', '\x0c', '\r', '\\']
  · left
    simp only [List.mem_cons, List.not_mem_nil, or_false] at hshort
    rcases hshort with rfl | rfl | rfl | rfl | rfl <;>
      exact ⟨_, rfl, fun rest => ⟨rfl, rfl⟩⟩
  · simp only [List.mem_cons, List.not_mem_nil, or_false, not_or] at hshort
    obtain ⟨hback, htab, hfeed, hreturn, hslash⟩ := hshort
    by_cases hline : c = '\n'
    · subst hline
      cases lines with
      | false => exact Or.inl ⟨['n'], rfl, fun rest => ⟨rfl, rfl⟩⟩
      | true => exact Or.inr (Or.inl ⟨rfl, rfl, rfl⟩)
    · have hescape : escape lines c =
          if isControl c then '\\' :: 'u' :: fourHexDigits c.toNat else [c] := by
        simp only [escape, hback, htab, hline, hfeed, hreturn, hslash, if_false]
      cases hcontrol : isControl c with
      | true =>
          left
          rw [hcontrol, if_pos rfl] at hescape
          have hcode : c.toNat < 0x80 := by
            simp only [isControl, Bool.or_eq_true, Bool.and_eq_true, decide_eq_true_eq] at hcontrol
            omega
          refine ⟨_, hescape, fun rest => ⟨readEscape_fourHexDigits hcode rest, rfl⟩⟩
      | false =>
          right
          right
          rw [hcontrol, if_neg (by simp)] at hescape
          exact ⟨hslash, hline, hreturn, by simp [isPlain_eq, hcontrol, hline], hescape⟩

theorem escape_ne_nil (lines : Bool) (c : Char) : escape lines c ≠ [] := by
  rcases escape_cases lines c with ⟨_, h, -⟩ | ⟨-, -, h⟩ | ⟨-, -, -, -, h⟩ <;> simp [h]

theorem length_le_escapeText (allowed : Nat) (lines : Bool) (quotes : Nat) (t : Text) :
    t.length ≤ (escapeText allowed lines quotes t).length := by
  induction t generalizing quotes with
  | nil => exact Nat.zero_le _
  | cons c t ih =>
      rw [escapeText]
      split
      · split
        · simpa using ih (quotes + 1)
        · have := ih 0
          simp only [List.length_cons]
          omega
      · have := List.length_pos_iff.mpr (escape_ne_nil lines c)
        have := ih 0
        rw [List.length_append, List.length_cons]
        omega

/-! ### Strings of one line -/

theorem readBasic_escaped {c : Char} {body rest : Text} (h : readEscape (body ++ rest) = some (c, rest))
    (fuel : Nat) : readBasic (fuel + 1) ('\\' :: body ++ rest) =
      (readBasic fuel rest).map fun read => (c :: read.1, read.2) := by
  rw [List.cons_append, readBasic, if_neg (by decide), if_pos rfl]
  simp only [h, Option.bind_eq_bind, Option.bind_some]
  cases readBasic fuel rest <;> rfl

theorem readBasic_plain {c : Char} (hquote : c ≠ '"') (hslash : c ≠ '\\') (hplain : isPlain c = true)
    (fuel : Nat) (rest : Text) : readBasic (fuel + 1) (c :: rest) =
      (readBasic fuel rest).map fun read => (c :: read.1, read.2) := by
  rw [readBasic, if_neg hquote, if_neg hslash, if_pos hplain]
  cases readBasic fuel rest <;> rfl

theorem readBasic_escapeText {t : Text} {fuel : Nat} (hfuel : t.length < fuel) (rest : Text) :
    readBasic fuel (escapeText 0 false 0 t ++ '"' :: rest) = some (t, rest) := by
  induction t generalizing fuel with
  | nil =>
      obtain ⟨fuel, rfl⟩ := Nat.exists_eq_succ_of_ne_zero (Nat.ne_of_gt hfuel)
      simp [escapeText, readBasic]
  | cons c t ih =>
      obtain ⟨fuel, rfl⟩ := Nat.exists_eq_succ_of_ne_zero (Nat.ne_of_gt (Nat.zero_lt_of_lt hfuel))
      have hrest : readBasic fuel (escapeText 0 false 0 t ++ '"' :: rest) = some (t, rest) :=
        ih (by simpa using hfuel)
      rw [escapeText]
      split
      case isTrue hquote =>
          subst hquote
          rw [if_neg (by omega)]
          change readBasic _ ('\\' :: ['"'] ++ (escapeText 0 false 0 t ++ '"' :: rest)) = _
          rw [readBasic_escaped rfl, hrest]
          rfl
      case isFalse hquote =>
          rw [List.append_assoc]
          rcases escape_cases false c with ⟨body, hescape, hread⟩ | ⟨hlines, -⟩ |
            ⟨hslash, -, -, hplain, hescape⟩
          · rw [hescape, readBasic_escaped (hread _).1, hrest]
            rfl
          · exact absurd hlines (by simp)
          · rw [hescape, List.singleton_append, readBasic_plain hquote hslash hplain, hrest]
            rfl

theorem readLiteral_append {t : Text} (hquote : '\'' ∉ t) (hplain : ∀ c ∈ t, isPlain c = true)
    (rest : Text) : readLiteral (t ++ '\'' :: rest) = some (t, rest) := by
  induction t with
  | nil => simp [readLiteral]
  | cons c t ih =>
      have hc : c ≠ '\'' := (List.ne_of_not_mem_cons hquote).symm
      rw [List.cons_append, readLiteral, if_neg hc, if_pos (hplain c List.mem_cons_self),
        ih (List.not_mem_of_not_mem_cons hquote) fun d hd => hplain d (List.mem_cons_of_mem _ hd)]
      rfl

/-! ### Strings over several lines -/

theorem takeWhile_run {q : Char} {rest : Text} (h : rest.head? ≠ some q) (count : Nat) :
    (List.replicate count q ++ rest).takeWhile (· = q) = List.replicate count q := by
  induction count with
  | zero =>
      cases rest with
      | nil => rfl
      | cons c rest =>
          have hc : c ≠ q := fun heq => h (by rw [heq]; rfl)
          simp [hc]
  | succ count ih => simpa [List.replicate_succ] using ih

theorem drop_run (q : Char) (rest : Text) (count : Nat) :
    (List.replicate count q ++ rest).drop count = rest :=
  List.drop_left' List.length_replicate

theorem readBasicLines_run {rest : Text} (h : rest.head? ≠ some '"') (fuel count : Nat) :
    readBasicLines (fuel + 1) (List.replicate (count + 1) '"' ++ rest) =
      if count + 1 < 3 then
        (readBasicLines fuel rest).map fun read => (List.replicate (count + 1) '"' ++ read.1, read.2)
      else (closing? (count + 1)).map fun kept => (List.replicate kept '"', rest) := by
  have htake := takeWhile_run h (count + 1)
  have hdrop := drop_run '"' rest (count + 1)
  rw [List.replicate_succ, List.cons_append] at htake hdrop ⊢
  rw [readBasicLines, if_pos rfl]
  simp only [htake, List.length_cons, List.length_replicate, hdrop]
  split
  · cases readBasicLines fuel rest <;> rfl
  · rfl

/-- With more steps than a number, the reader of lines in quotes takes a text for a string and leaves
what follows it. -/
def ReadsLines (steps : Nat) (t s rest : Text) : Prop :=
  ∀ fuel, steps < fuel → readBasicLines fuel t = some (s, rest)

section ReadsLines

variable {steps : Nat} {t s rest : Text}

theorem readsLines_closing {count : Nat} (hcount : count ≤ 2) (hrest : rest.head? ≠ some '"') :
    ReadsLines count (List.replicate (count + 3) '"' ++ rest) (List.replicate count '"') rest := by
  intro fuel hfuel
  obtain ⟨fuel, rfl⟩ := Nat.exists_eq_succ_of_ne_zero (Nat.ne_of_gt (Nat.zero_lt_of_lt hfuel))
  rw [readBasicLines_run hrest, if_neg (by omega), closing?, if_pos (by omega)]
  rfl

theorem ReadsLines.run (h : ReadsLines steps t s rest) (ht : t.head? ≠ some '"') {count : Nat}
    (hcount : count ≤ 2) :
    ReadsLines (count + steps) (List.replicate count '"' ++ t) (List.replicate count '"' ++ s)
      rest := by
  intro fuel hfuel
  cases count with
  | zero => exact h fuel (by omega)
  | succ count =>
      obtain ⟨fuel, rfl⟩ := Nat.exists_eq_succ_of_ne_zero (Nat.ne_of_gt (Nat.zero_lt_of_lt hfuel))
      rw [readBasicLines_run ht, if_pos (by omega), h fuel (by omega)]
      rfl

theorem ReadsLines.escaped (h : ReadsLines steps t s rest) {c : Char} {body : Text}
    (hread : readEscape (body ++ t) = some (c, t)) (hline : continuation? (body ++ t) = none) :
    ReadsLines (steps + 1) ('\\' :: body ++ t) (c :: s) rest := by
  intro fuel hfuel
  obtain ⟨fuel, rfl⟩ := Nat.exists_eq_succ_of_ne_zero (Nat.ne_of_gt (Nat.zero_lt_of_lt hfuel))
  rw [List.cons_append, readBasicLines, if_neg (by decide), if_pos rfl, hline]
  simp only [hread, Option.bind_eq_bind, Option.bind_some, h fuel (by omega)]

theorem ReadsLines.lineFeed (h : ReadsLines steps t s rest) :
    ReadsLines (steps + 1) ('\n' :: t) ('\n' :: s) rest := by
  intro fuel hfuel
  obtain ⟨fuel, rfl⟩ := Nat.exists_eq_succ_of_ne_zero (Nat.ne_of_gt (Nat.zero_lt_of_lt hfuel))
  rw [readBasicLines, if_neg (by decide), if_neg (by decide)]
  simp only [lineBreak?, Option.bind_eq_bind, Option.bind_some, h fuel (by omega)]

theorem lineBreak?_of_ne {c : Char} (hline : c ≠ '\n') (hreturn : c ≠ '\r') (t : Text) :
    lineBreak? (c :: t) = none := by
  unfold lineBreak?
  split
  · exact absurd (List.head_eq_of_cons_eq ‹_›) hline
  · exact absurd (List.head_eq_of_cons_eq ‹_›) hreturn
  · rfl

theorem ReadsLines.plain (h : ReadsLines steps t s rest) {c : Char} (hquote : c ≠ '"')
    (hslash : c ≠ '\\') (hline : c ≠ '\n') (hreturn : c ≠ '\r') (hplain : isPlain c = true) :
    ReadsLines (steps + 1) (c :: t) (c :: s) rest := by
  intro fuel hfuel
  obtain ⟨fuel, rfl⟩ := Nat.exists_eq_succ_of_ne_zero (Nat.ne_of_gt (Nat.zero_lt_of_lt hfuel))
  rw [readBasicLines, if_neg hquote, if_neg hslash, lineBreak?_of_ne hline hreturn]
  simp only [hplain, if_true, Option.bind_eq_bind, Option.bind_some, h fuel (by omega)]

end ReadsLines

theorem readsLines_escapeText {count : Nat} (hcount : count ≤ 2) (t : Text) {rest : Text}
    (hrest : rest.head? ≠ some '"') :
    ReadsLines (count + t.length)
      (List.replicate count '"' ++ (escapeText 2 true count t ++ ('"' :: '"' :: '"' :: rest)))
      (List.replicate count '"' ++ t) rest := by
  -- `count` is how many quotes stand just before: the reader takes them together with those that follow
  induction t generalizing count with
  | nil =>
      have hquotes : List.replicate count '"' ++ ('"' :: '"' :: '"' :: rest) =
          List.replicate (count + 3) '"' ++ rest := by
        rw [← List.replicate_append_replicate, List.append_assoc]
        rfl
      rw [escapeText, List.nil_append, hquotes, List.append_nil]
      exact readsLines_closing hcount hrest
  | cons c t ih =>
      have hafter : ReadsLines t.length (escapeText 2 true 0 t ++ ('"' :: '"' :: '"' :: rest)) t
          rest := by
        simpa using ih (Nat.zero_le 2)
      rw [escapeText]
      split
      case isTrue hquote =>
          subst hquote
          split
          case isTrue hless =>
              have hnext := ih (show count + 1 ≤ 2 by omega)
              rw [List.replicate_succ', List.append_assoc, List.append_assoc] at hnext
              rw [List.length_cons, Nat.add_comm t.length, ← Nat.add_assoc]
              exact hnext
          case isFalse hmore =>
              -- a third quote would close the string, so it is escaped
              have hescaped : ReadsLines (t.length + 1)
                  ('\\' :: ['"'] ++ (escapeText 2 true 0 t ++ ('"' :: '"' :: '"' :: rest)))
                  ('"' :: t) rest := hafter.escaped rfl rfl
              exact hescaped.run (by simp) hcount
      case isFalse hquote =>
          rw [List.append_assoc]
          rcases escape_cases true c with ⟨body, hescape, hread⟩ | ⟨-, rfl, hescape⟩ |
            ⟨hslash, hline, hreturn, hplain, hescape⟩
          · rw [hescape]
            exact (hafter.escaped (hread _).1 (hread _).2).run (by simp) hcount
          · rw [hescape]
            exact hafter.lineFeed.run (by simp) hcount
          · rw [hescape]
            exact (hafter.plain hquote hslash hline hreturn hplain).run (by simpa using hquote) hcount

theorem readLiteralLines_run {rest : Text} (h : rest.head? ≠ some '\'') (fuel count : Nat) :
    readLiteralLines (fuel + 1) (List.replicate (count + 1) '\'' ++ rest) =
      if count + 1 < 3 then
        (readLiteralLines fuel rest).map fun read => (List.replicate (count + 1) '\'' ++ read.1, read.2)
      else (closing? (count + 1)).map fun kept => (List.replicate kept '\'', rest) := by
  have htake := takeWhile_run h (count + 1)
  have hdrop := drop_run '\'' rest (count + 1)
  rw [List.replicate_succ, List.cons_append] at htake hdrop ⊢
  rw [readLiteralLines, if_pos rfl]
  simp only [htake, List.length_cons, List.length_replicate, hdrop]
  split
  · cases readLiteralLines fuel rest <;> rfl
  · rfl

/-- With more steps than a number, the reader of lines in apostrophes takes a text for a string and
leaves what follows it. -/
def ReadsLiteral (steps : Nat) (t s rest : Text) : Prop :=
  ∀ fuel, steps < fuel → readLiteralLines fuel t = some (s, rest)

section ReadsLiteral

variable {steps : Nat} {t s rest : Text}

theorem readsLiteral_closing {count : Nat} (hcount : count ≤ 2) (hrest : rest.head? ≠ some '\'') :
    ReadsLiteral count (List.replicate (count + 3) '\'' ++ rest) (List.replicate count '\'') rest := by
  intro fuel hfuel
  obtain ⟨fuel, rfl⟩ := Nat.exists_eq_succ_of_ne_zero (Nat.ne_of_gt (Nat.zero_lt_of_lt hfuel))
  rw [readLiteralLines_run hrest, if_neg (by omega), closing?, if_pos (by omega)]
  rfl

theorem ReadsLiteral.run (h : ReadsLiteral steps t s rest) (ht : t.head? ≠ some '\'') {count : Nat}
    (hcount : count ≤ 2) :
    ReadsLiteral (count + steps) (List.replicate count '\'' ++ t) (List.replicate count '\'' ++ s)
      rest := by
  intro fuel hfuel
  cases count with
  | zero => exact h fuel (by omega)
  | succ count =>
      obtain ⟨fuel, rfl⟩ := Nat.exists_eq_succ_of_ne_zero (Nat.ne_of_gt (Nat.zero_lt_of_lt hfuel))
      rw [readLiteralLines_run ht, if_pos (by omega), h fuel (by omega)]
      rfl

theorem ReadsLiteral.cons (h : ReadsLiteral steps t s rest) {c : Char} (hquote : c ≠ '\'')
    (hcontrol : isControl c = false) : ReadsLiteral (steps + 1) (c :: t) (c :: s) rest := by
  intro fuel hfuel
  obtain ⟨fuel, rfl⟩ := Nat.exists_eq_succ_of_ne_zero (Nat.ne_of_gt (Nat.zero_lt_of_lt hfuel))
  rw [readLiteralLines, if_neg hquote]
  by_cases hline : c = '\n'
  · subst hline
    simp only [lineBreak?, Option.bind_eq_bind, Option.bind_some, h fuel (by omega)]
  · have hreturn : c ≠ '\r' := by
      rintro rfl
      exact absurd hcontrol (by decide)
    have hplain : isPlain c = true := by simp [isPlain_eq, hcontrol, hline]
    rw [lineBreak?_of_ne hline hreturn]
    simp only [hplain, if_true, Option.bind_eq_bind, Option.bind_some, h fuel (by omega)]

end ReadsLiteral

theorem le_longestRun (c : Char) (run best : Nat) (t : Text) : best ≤ longestRun c run best t := by
  induction t generalizing run best with
  | nil => exact Nat.le_refl _
  | cons x t ih =>
      rw [longestRun]
      split
      · exact Nat.le_trans (Nat.le_max_left _ _) (ih _ _)
      · exact ih _ _

theorem readsLiteral_append {count best : Nat} (hcount : count ≤ 2) {t : Text}
    (hruns : longestRun '\'' count best t ≤ 2) (hcontrol : ∀ c ∈ t, isControl c = false) {rest : Text}
    (hrest : rest.head? ≠ some '\'') :
    ReadsLiteral (count + t.length)
      (List.replicate count '\'' ++ (t ++ ('\'' :: '\'' :: '\'' :: rest)))
      (List.replicate count '\'' ++ t) rest := by
  induction t generalizing count best with
  | nil =>
      have hquotes : List.replicate count '\'' ++ ('\'' :: '\'' :: '\'' :: rest) =
          List.replicate (count + 3) '\'' ++ rest := by
        rw [← List.replicate_append_replicate, List.append_assoc]
        rfl
      rw [List.nil_append, hquotes, List.append_nil]
      exact readsLiteral_closing hcount hrest
  | cons c t ih =>
      have htail : ∀ d ∈ t, isControl d = false := fun d hd => hcontrol d (List.mem_cons_of_mem _ hd)
      rw [longestRun] at hruns
      split at hruns
      case isTrue hquote =>
          subst hquote
          have hless : count + 1 ≤ 2 :=
            Nat.le_trans (Nat.le_max_right best _) (Nat.le_trans (le_longestRun _ _ _ _) hruns)
          have hnext := ih hless hruns htail
          rw [List.replicate_succ', List.append_assoc, List.append_assoc] at hnext
          rw [List.length_cons, Nat.add_comm t.length, ← Nat.add_assoc]
          exact hnext
      case isFalse hquote =>
          have hnext := ih (Nat.zero_le 2) hruns htail
          rw [Nat.zero_add] at hnext
          exact (hnext.cons hquote (hcontrol c List.mem_cons_self)).run (by simpa using hquote) hcount

/-! ### All forms -/

theorem readString_quote {t : Text} (h : ∀ u, t ≠ '"' :: '"' :: u) :
    readString ('"' :: t) = readBasic (t.length + 1) t := by
  unfold readString
  split
  · exact absurd (List.cons.inj ‹_›).2 (h _)
  · exact absurd (List.cons.inj ‹_›).1 (by decide)
  · next heq =>
      obtain ⟨-, rfl⟩ := List.cons.inj heq
      rfl
  · exact absurd (List.cons.inj ‹_›).1 (by decide)
  · next hnone _ => exact absurd rfl (hnone t)

theorem readString_apostrophe {t : Text} (h : ∀ u, t ≠ '\'' :: '\'' :: u) :
    readString ('\'' :: t) = readLiteral t := by
  unfold readString
  split
  · exact absurd (List.cons.inj ‹_›).1 (by decide)
  · exact absurd (List.cons.inj ‹_›).2 (h _)
  · exact absurd (List.cons.inj ‹_›).1 (by decide)
  · next heq =>
      obtain ⟨-, rfl⟩ := List.cons.inj heq
      rfl
  · next hnone => exact absurd rfl (hnone t)

variable {rest : Text}

theorem readString_printBasic (t : Text) (hrest : rest.head? ≠ some '"') :
    readString (printBasic t ++ rest) = some (t, rest) := by
  have htext : printBasic t ++ rest = '"' :: (escapeText 0 false 0 t ++ '"' :: rest) := by
    simp [printBasic]
  have hsingle : ∀ u, escapeText 0 false 0 t ++ '"' :: rest ≠ '"' :: '"' :: u := by
    intro u heq
    cases t with
    | nil =>
        obtain ⟨-, hrest'⟩ := List.cons.inj heq
        exact hrest (by rw [hrest']; rfl)
    | cons c t =>
        rw [escapeText] at heq
        split at heq
        case isTrue hquote => exact absurd (List.cons.inj heq).1 (by decide)
        case isFalse hquote =>
            rcases escape_cases false c with ⟨body, hescape, -⟩ | ⟨hlines, -⟩ | ⟨-, -, -, -, hescape⟩
            · rw [hescape] at heq
              exact absurd (List.cons.inj heq).1 (by decide)
            · exact absurd hlines (by simp)
            · rw [hescape] at heq
              exact hquote (List.cons.inj heq).1
  rw [htext, readString_quote hsingle]
  refine readBasic_escapeText ?_ rest
  have := length_le_escapeText 0 false 0 t
  simp only [List.length_append, List.length_cons]
  omega

theorem readString_printLiteral {t : Text} (hquote : '\'' ∉ t) (hplain : ∀ c ∈ t, isPlain c = true)
    (hrest : rest.head? ≠ some '\'') : readString (printLiteral t ++ rest) = some (t, rest) := by
  have htext : printLiteral t ++ rest = '\'' :: (t ++ '\'' :: rest) := by simp [printLiteral]
  have hsingle : ∀ u, t ++ '\'' :: rest ≠ '\'' :: '\'' :: u := by
    intro u heq
    cases t with
    | nil =>
        obtain ⟨-, hrest'⟩ := List.cons.inj heq
        exact hrest (by rw [hrest']; rfl)
    | cons c t => exact List.ne_of_not_mem_cons hquote (List.cons.inj heq).1.symm
  rw [htext, readString_apostrophe hsingle]
  exact readLiteral_append hquote hplain rest

theorem dropLineBreak_opening {t body : Text}
    (h : '\n' ∉ t → ∃ c u, body = c :: u ∧ c ≠ '\n' ∧ c ≠ '\r') :
    dropLineBreak (openingBreak t ++ body) = body := by
  unfold openingBreak
  split
  · rfl
  · next hline =>
      obtain ⟨c, u, rfl, hc, hc'⟩ := h (by simpa using hline)
      rw [List.nil_append, dropLineBreak, lineBreak?_of_ne hc hc']
      rfl

theorem readString_printBasicLines (t : Text) (hrest : rest.head? ≠ some '"') :
    readString (printBasicLines t ++ rest) = some (t, rest) := by
  have htext : printBasicLines t ++ rest = '"' :: '"' :: '"' ::
      (openingBreak t ++ (escapeText 2 true 0 t ++ ('"' :: '"' :: '"' :: rest))) := by
    simp [printBasicLines]
  have hopening : dropLineBreak (openingBreak t ++ (escapeText 2 true 0 t ++ ('"' :: '"' :: '"' :: rest)))
      = escapeText 2 true 0 t ++ ('"' :: '"' :: '"' :: rest) := by
    refine dropLineBreak_opening fun hline => ?_
    cases t with
    | nil => exact ⟨'"', _, rfl, by decide, by decide⟩
    | cons c t =>
        rw [escapeText]
        split
        · exact ⟨'"', _, rfl, by decide, by decide⟩
        · rcases escape_cases true c with ⟨body, hescape, -⟩ | ⟨-, rfl, -⟩ | ⟨-, hc, hc', -, hescape⟩
          · rw [hescape]
            exact ⟨'\\', _, rfl, by decide, by decide⟩
          · exact absurd List.mem_cons_self hline
          · rw [hescape]
            exact ⟨c, _, rfl, hc, hc'⟩
  rw [htext, readString, hopening]
  refine readsLines_escapeText (Nat.zero_le 2) t hrest _ ?_
  have := length_le_escapeText 2 true 0 t
  simp only [List.length_append, List.length_cons]
  omega

theorem readString_printLiteralLines {t : Text} (hruns : runsAtMost '\'' 2 t = true)
    (hcontrol : ∀ c ∈ t, isControl c = false) (hrest : rest.head? ≠ some '\'') :
    readString (printLiteralLines t ++ rest) = some (t, rest) := by
  have htext : printLiteralLines t ++ rest = '\'' :: '\'' :: '\'' ::
      (openingBreak t ++ (t ++ ('\'' :: '\'' :: '\'' :: rest))) := by
    simp [printLiteralLines]
  have hopening : dropLineBreak (openingBreak t ++ (t ++ ('\'' :: '\'' :: '\'' :: rest))) =
      t ++ ('\'' :: '\'' :: '\'' :: rest) := by
    refine dropLineBreak_opening fun hline => ?_
    cases t with
    | nil => exact ⟨'\'', _, rfl, by decide, by decide⟩
    | cons c t =>
        refine ⟨c, _, rfl, (List.ne_of_not_mem_cons hline).symm, ?_⟩
        rintro rfl
        exact absurd (hcontrol _ List.mem_cons_self) (by decide)
  rw [htext, readString, hopening]
  refine readsLiteral_append (Nat.zero_le 2) (of_decide_eq_true hruns) hcontrol hrest _ ?_
  simp only [List.length_append, List.length_cons]
  omega

theorem readString_printString (t : Text) (hquote : rest.head? ≠ some '"')
    (hapostrophe : rest.head? ≠ some '\'') : readString (printString t ++ rest) = some (t, rest) := by
  have hplain : t.any isControl = false → ∀ c ∈ t, isControl c = false := by
    intro hnone c hc
    simpa using List.any_eq_false.mp hnone c hc
  unfold printString
  dsimp only
  split
  · exact readString_printBasic t hquote
  · split
    case isTrue h =>
        simp only [Bool.and_eq_true, Bool.not_eq_true', List.contains_eq_mem, decide_eq_false_iff_not]
          at h
        obtain ⟨⟨hcontrol, hnone⟩, hline⟩ := h
        refine readString_printLiteral hnone (fun c hc => ?_) hapostrophe
        have hne : c ≠ '\n' := fun heq => hline (heq ▸ hc)
        simp [isPlain_eq, hplain hcontrol c hc, hne]
    · split
      · exact readString_printBasicLines t hquote
      · split
        case isTrue h =>
            simp only [Bool.and_eq_true, Bool.not_eq_true'] at h
            exact readString_printLiteralLines h.2 (hplain h.1) hapostrophe
        · split
          · exact readString_printBasicLines t hquote
          · exact readString_printBasic t hquote

end HandlerGuard.Toml
