import HandlerGuard.Json.Printer
import HandlerGuard.Proofs.Json.Reading
import HandlerGuard.Proofs.Settings.Entries

namespace HandlerGuard.Json

theorem skipBlanks_lineBreak (level : Nat) (t : Text) :
    skipBlanks (lineBreak level ++ t) = skipBlanks t := by
  refine List.dropWhile_append_of_pos ?_
  intro c hc
  rcases List.mem_cons.mp hc with rfl | hc
  · rfl
  · rw [(List.mem_replicate.mp hc).2]
    rfl

theorem readValue_congr {t t' : Text} (h : skipBlanks t = skipBlanks t') (fuel depth : Nat) :
    readValue fuel depth t = readValue fuel depth t' := by
  cases fuel with
  | zero => rfl
  | succ fuel => rw [readValue, readValue, h]

/-- The characters that values begin with here. -/
def openers : List Char := ['"', '[', '\x7b', 't', 'f']

theorem skipBlanks_opener {c : Char} (h : c ∈ openers) (t : Text) : skipBlanks (c :: t) = c :: t := by
  simp only [openers, List.mem_cons, List.not_mem_nil, or_false] at h
  rcases h with rfl | rfl | rfl | rfl | rfl <;> rfl

/-- A value that stands at a level is read back from what writes it, at most `depth` levels deep. -/
structure ReadsBack (level depth : Nat) (v : Value) : Prop where
  opens : ∃ c u, printAt level v = c :: u ∧ c ∈ openers
  reads : ∀ fuel rest, (printAt level v).length < fuel →
    readValue fuel depth (printAt level v ++ rest) = some (v, rest)

theorem readsBack_text (level depth : Nat) (t : Text) : ReadsBack level depth (.text t) := by
  refine ⟨⟨'"', _, rfl, by decide⟩, ?_⟩
  intro fuel rest hfuel
  obtain ⟨fuel, rfl⟩ := Nat.exists_eq_add_one_of_ne_zero (Nat.ne_zero_of_lt hfuel)
  exact readValue_quote fuel depth t rest

theorem readsBack_bool (level depth : Nat) (b : Bool) : ReadsBack level depth (.bool b) := by
  refine ⟨by cases b <;> exact ⟨_, _, rfl, by decide⟩, ?_⟩
  intro fuel rest hfuel
  obtain ⟨fuel, rfl⟩ := Nat.exists_eq_add_one_of_ne_zero (Nat.ne_zero_of_lt hfuel)
  cases b <;> rfl

theorem readsBack_nil (level depth : Nat) : ReadsBack level (depth + 1) (.list []) := by
  refine ⟨⟨'[', _, rfl, by decide⟩, ?_⟩
  intro fuel rest hfuel
  obtain ⟨fuel, rfl⟩ := Nat.exists_eq_add_one_of_ne_zero (Nat.ne_zero_of_lt hfuel)
  rfl

theorem readValue_bracket {t : Text} (h : ∀ u, skipBlanks t ≠ ']' :: u) (fuel depth : Nat) :
    readValue (fuel + 1) (depth + 1) ('[' :: t) =
      (readItems fuel depth t).map fun read => (.list read.1, read.2) := by
  have hopen : skipBlanks ('[' :: t) = '[' :: t := rfl
  simp only [readValue, hopen]

theorem readValue_brace {t : Text} (h : ∀ u, skipBlanks t ≠ '\x7d' :: u) (fuel depth : Nat) :
    readValue (fuel + 1) (depth + 1) ('\x7b' :: t) =
      (readFields fuel depth [] t).map fun read => (.table read.1, read.2) := by
  have hopen : skipBlanks ('\x7b' :: t) = '\x7b' :: t := rfl
  simp only [readValue, hopen]

/-- The items of a list after its opening bracket, up to the closing one. -/
def itemLines (level : Nat) (item : Value) (items : List Value) : Text :=
  lineBreak level ++ (printAt level item ++ printItems level items)

theorem printItems_cons (level : Nat) (item : Value) (items : List Value) :
    printItems level (item :: items) = ',' :: itemLines level item items := by
  change [','] ++ lineBreak level ++ printAt level item ++ printItems level items = _
  simp [itemLines]

theorem ReadsBack.reads_line {level depth : Nat} {v : Value} (h : ReadsBack level depth v) {fuel : Nat}
    (hfuel : (printAt level v).length < fuel) (rest : Text) :
    readValue fuel depth (lineBreak level ++ (printAt level v ++ rest)) = some (v, rest) :=
  (readValue_congr (skipBlanks_lineBreak level _) fuel depth).trans (h.reads fuel rest hfuel)

theorem readItems_itemLines {level depth : Nat} {item : Value} {items : List Value}
    (h : ∀ v ∈ item :: items, ReadsBack level depth v) {fuel : Nat}
    (hfuel : (itemLines level item items).length < fuel) (closing : Nat) (rest : Text) :
    readItems fuel depth (itemLines level item items ++ (lineBreak closing ++ ']' :: rest)) =
      some (item :: items, rest) := by
  induction items generalizing item fuel with
  | nil =>
      obtain ⟨fuel, rfl⟩ := Nat.exists_eq_add_one_of_ne_zero (Nat.ne_zero_of_lt hfuel)
      have hlength : (printAt level item).length < fuel := by
        simp only [itemLines, lineBreak, List.length_append, List.length_cons] at hfuel
        omega
      have hclose : skipBlanks (lineBreak closing ++ ']' :: rest) = ']' :: rest :=
        skipBlanks_lineBreak closing _
      have htext : itemLines level item [] ++ (lineBreak closing ++ ']' :: rest) =
          lineBreak level ++ (printAt level item ++ (lineBreak closing ++ ']' :: rest)) := by
        change (lineBreak level ++ (printAt level item ++ [])) ++ _ = _
        simp
      rw [htext, readItems, (h item List.mem_cons_self).reads_line hlength]
      simp only [Option.bind_eq_bind, Option.bind_some, hclose]
  | cons next items ih =>
      obtain ⟨fuel, rfl⟩ := Nat.exists_eq_add_one_of_ne_zero (Nat.ne_zero_of_lt hfuel)
      rw [itemLines, printItems_cons] at hfuel
      simp only [List.length_append, List.length_cons] at hfuel
      have hcomma : ∀ t, skipBlanks (',' :: t) = ',' :: t := fun t => rfl
      have hrest := ih (fun v hv => h v (List.mem_cons_of_mem _ hv))
        (show (itemLines level next items).length < fuel by omega)
      have htext : itemLines level item (next :: items) ++ (lineBreak closing ++ ']' :: rest) =
          lineBreak level ++ (printAt level item ++
            ',' :: (itemLines level next items ++ (lineBreak closing ++ ']' :: rest))) := by
        rw [itemLines, printItems_cons]
        simp
      rw [htext, readItems, (h item List.mem_cons_self).reads_line (by omega)]
      simp only [Option.bind_eq_bind, Option.bind_some, hcomma, hrest]

theorem readsBack_list {level depth : Nat} {items : List Value}
    (h : ∀ v ∈ items, ReadsBack (level + 1) depth v) : ReadsBack level (depth + 1) (.list items) := by
  cases items with
  | nil => exact readsBack_nil level depth
  | cons item items =>
      have hprint : printAt level (.list (item :: items)) =
          '[' :: (itemLines (level + 1) item items ++ (lineBreak level ++ [']'])) := by
        change ['['] ++ lineBreak (level + 1) ++ printAt (level + 1) item ++
          printItems (level + 1) items ++ lineBreak level ++ [']'] = _
        simp [itemLines]
      refine ⟨⟨'[', _, hprint, by decide⟩, ?_⟩
      intro fuel rest hfuel
      obtain ⟨fuel, rfl⟩ := Nat.exists_eq_add_one_of_ne_zero (Nat.ne_zero_of_lt hfuel)
      have hlength : (itemLines (level + 1) item items).length < fuel := by
        rw [hprint] at hfuel
        simp only [List.length_cons, List.length_append] at hfuel
        omega
      have htext : printAt level (.list (item :: items)) ++ rest =
          '[' :: (itemLines (level + 1) item items ++ (lineBreak level ++ ']' :: rest)) := by
        rw [hprint]
        simp
      have hopen : ∀ v, skipBlanks (itemLines (level + 1) item items ++
          (lineBreak level ++ ']' :: rest)) ≠ ']' :: v := by
        intro v heq
        obtain ⟨c, u, hitem, hc⟩ := (h item List.mem_cons_self).opens
        rw [itemLines, List.append_assoc, skipBlanks_lineBreak, hitem, List.cons_append,
          List.cons_append, skipBlanks_opener hc] at heq
        rw [(List.cons.inj heq).1] at hc
        exact absurd hc (by decide)
      rw [htext, readValue_bracket hopen, readItems_itemLines h hlength]
      rfl

/-- The entries of a table after its opening brace, up to the closing one. -/
def entryLines (level : Nat) (key : Text) (v : Value) (entries : List (Text × Value)) : Text :=
  lineBreak level ++ (quote key ++ (':' :: ' ' :: (printAt level v ++ printEntries level entries)))

theorem printEntries_cons (level : Nat) (key : Text) (v : Value) (entries : List (Text × Value)) :
    printEntries level ((key, v) :: entries) = ',' :: entryLines level key v entries := by
  change [','] ++ lineBreak level ++ quote key ++ [':', ' '] ++ printAt level v ++
    printEntries level entries = _
  simp [entryLines]

theorem readFields_entry {level depth : Nat} {v : Value} (h : ReadsBack level depth v) {fuel : Nat}
    (hfuel : (printAt level v).length < fuel) (entries : List (Text × Value)) (key : Text)
    {rest others : Text} :
    (skipBlanks rest = ',' :: others → readFields (fuel + 1) depth entries
        (lineBreak level ++ (quote key ++ (':' :: ' ' :: (printAt level v ++ rest)))) =
      readFields fuel depth (insertEntry key v entries) others) ∧
    (skipBlanks rest = '\x7d' :: others → readFields (fuel + 1) depth entries
        (lineBreak level ++ (quote key ++ (':' :: ' ' :: (printAt level v ++ rest)))) =
      some (insertEntry key v entries, others)) := by
  have hcolon : ∀ t, skipBlanks (':' :: t) = ':' :: t := fun t => rfl
  have hskip : skipBlanks (' ' :: (printAt level v ++ rest)) =
      skipBlanks (printAt level v ++ rest) := rfl
  have hblank : readValue fuel depth (' ' :: (printAt level v ++ rest)) = some (v, rest) :=
    (readValue_congr hskip fuel depth).trans (h.reads fuel rest hfuel)
  constructor
  · intro hrest
    rw [readFields, skipBlanks_lineBreak, skipBlanks_quote]
    simp only [readString_quote, Option.bind_eq_bind, Option.bind_some, hcolon, hblank, hrest]
  · intro hrest
    rw [readFields, skipBlanks_lineBreak, skipBlanks_quote]
    simp only [readString_quote, Option.bind_eq_bind, Option.bind_some, hcolon, hblank, hrest]

theorem readFields_entryLines {level depth : Nat} {done entries : List (Text × Value)} {key : Text}
    {v : Value} (h : ∀ entry ∈ (key, v) :: entries, ReadsBack level depth entry.2)
    (hkeys : ((done ++ (key, v) :: entries).map Prod.fst).Nodup) {fuel : Nat}
    (hfuel : (entryLines level key v entries).length < fuel) (closing : Nat) (rest : Text) :
    readFields fuel depth done
        (entryLines level key v entries ++ (lineBreak closing ++ '\x7d' :: rest)) =
      some (done ++ (key, v) :: entries, rest) := by
  have hnew : key ∉ done.map Prod.fst := not_mem_of_nodup hkeys
  have hv : ReadsBack level depth v := h (key, v) List.mem_cons_self
  induction entries generalizing done key v fuel with
  | nil =>
      obtain ⟨fuel, rfl⟩ := Nat.exists_eq_add_one_of_ne_zero (Nat.ne_zero_of_lt hfuel)
      have hlength : (printAt level v).length < fuel := by
        simp only [entryLines, List.length_append, List.length_cons] at hfuel
        omega
      have htext : entryLines level key v [] ++ (lineBreak closing ++ '\x7d' :: rest) =
          lineBreak level ++ (quote key ++ (':' :: ' ' ::
            (printAt level v ++ (lineBreak closing ++ '\x7d' :: rest)))) := by
        change (lineBreak level ++ (quote key ++ (':' :: ' ' :: (printAt level v ++ [])))) ++ _ = _
        simp
      rw [htext, (readFields_entry hv hlength done key).2
        (skipBlanks_lineBreak closing _), insertEntry_of_not_mem hnew]
  | cons next entries ih =>
      obtain ⟨fuel, rfl⟩ := Nat.exists_eq_add_one_of_ne_zero (Nat.ne_zero_of_lt hfuel)
      obtain ⟨nextKey, nextValue⟩ := next
      rw [entryLines, printEntries_cons] at hfuel
      simp only [List.length_append, List.length_cons] at hfuel
      have htext : entryLines level key v ((nextKey, nextValue) :: entries) ++
          (lineBreak closing ++ '\x7d' :: rest) =
          lineBreak level ++ (quote key ++ (':' :: ' ' :: (printAt level v ++ ',' ::
            (entryLines level nextKey nextValue entries ++ (lineBreak closing ++ '\x7d' :: rest))))) := by
        rw [entryLines, printEntries_cons]
        simp
      have hmore : ((done ++ [(key, v)] ++ (nextKey, nextValue) :: entries).map Prod.fst).Nodup := by
        simpa using hkeys
      rw [htext, (readFields_entry hv (by omega) done key).1 rfl,
        insertEntry_of_not_mem hnew,
        ih (fun entry hentry => h entry (List.mem_cons_of_mem _ hentry)) hmore (by omega)
          (not_mem_of_nodup hmore) (h (nextKey, nextValue) (by simp))]
      simp

theorem readsBack_table {level depth : Nat} {entries : List (Text × Value)}
    (h : ∀ entry ∈ entries, ReadsBack (level + 1) depth entry.2)
    (hkeys : (entries.map Prod.fst).Nodup) :
    ReadsBack level (depth + 1) (.table entries) := by
  cases entries with
  | nil =>
      refine ⟨⟨'\x7b', _, rfl, by decide⟩, ?_⟩
      intro fuel rest hfuel
      obtain ⟨fuel, rfl⟩ := Nat.exists_eq_add_one_of_ne_zero (Nat.ne_zero_of_lt hfuel)
      rfl
  | cons entry entries =>
      obtain ⟨key, v⟩ := entry
      have hprint : printAt level (.table ((key, v) :: entries)) =
          '\x7b' :: (entryLines (level + 1) key v entries ++ (lineBreak level ++ ['\x7d'])) := by
        change ['\x7b'] ++ lineBreak (level + 1) ++ quote key ++ [':', ' '] ++ printAt (level + 1) v ++
          printEntries (level + 1) entries ++ lineBreak level ++ ['\x7d'] = _
        simp [entryLines]
      refine ⟨⟨'\x7b', _, hprint, by decide⟩, ?_⟩
      intro fuel rest hfuel
      obtain ⟨fuel, rfl⟩ := Nat.exists_eq_add_one_of_ne_zero (Nat.ne_zero_of_lt hfuel)
      have hlength : (entryLines (level + 1) key v entries).length < fuel := by
        rw [hprint] at hfuel
        simp only [List.length_cons, List.length_append] at hfuel
        omega
      have htext : printAt level (.table ((key, v) :: entries)) ++ rest =
          '\x7b' :: (entryLines (level + 1) key v entries ++ (lineBreak level ++ '\x7d' :: rest)) := by
        rw [hprint]
        simp
      have hopen : ∀ u, skipBlanks (entryLines (level + 1) key v entries ++
          (lineBreak level ++ '\x7d' :: rest)) ≠ '\x7d' :: u := by
        intro u heq
        rw [entryLines, List.append_assoc, skipBlanks_lineBreak, List.append_assoc,
          skipBlanks_quote] at heq
        exact absurd (List.cons.inj heq).1 (by decide)
      rw [htext, readValue_brace hopen, readFields_entryLines h hkeys hlength]
      rfl

theorem parse?_print {v : Value} (h : ReadsBack 0 depthLimit v) {tail : Text}
    (htail : skipBlanks tail = []) : parse? (print v ++ tail) = some v := by
  have hread := h.reads ((print v ++ tail).length + 1) tail (by
    simp only [print, List.length_append]
    omega)
  simp only [parse?, print, Option.bind_eq_bind] at hread ⊢
  rw [hread]
  simp [htail]

end HandlerGuard.Json
