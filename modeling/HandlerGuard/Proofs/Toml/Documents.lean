import HandlerGuard.Proofs.Settings.Entries
import HandlerGuard.Proofs.Settings.Leaf
import HandlerGuard.Proofs.Toml.Quoting
import HandlerGuard.Toml.Reader

namespace HandlerGuard.Toml

/-! ### Space -/

/-- A character that is neither blank nor line break and begins no comment. -/
def isSolid (c : Char) : Bool := c ≠ ' ' && c ≠ '\t' && c ≠ '#' && c ≠ '\n' && c ≠ '\r'

theorem ne_of_isSolid {c : Char} (h : isSolid c = true) :
    c ≠ ' ' ∧ c ≠ '\t' ∧ c ≠ '#' ∧ c ≠ '\n' ∧ c ≠ '\r' := by
  simpa [isSolid, and_assoc] using h

theorem skipBlanks_solid {c : Char} (h : isSolid c = true) (t : Text) :
    skipBlanks (c :: t) = c :: t := by
  obtain ⟨hblank, htab, -⟩ := ne_of_isSolid h
  simp [skipBlanks, isBlank, hblank, htab]

theorem skipBlanks_replicate {c : Char} (h : isSolid c = true) (count : Nat) (t : Text) :
    skipBlanks (List.replicate count ' ' ++ c :: t) = c :: t := by
  induction count with
  | zero => exact skipBlanks_solid h t
  | succ count ih =>
      rw [List.replicate_succ, List.cons_append]
      exact ih

theorem skipLines_blanks {c : Char} (h : isSolid c = true) (fuel count : Nat) (t : Text) :
    skipLines (fuel + 1) (List.replicate count ' ' ++ c :: t) = c :: t := by
  obtain ⟨-, -, hcomment, hline, hreturn⟩ := ne_of_isSolid h
  have hskip : skipComment (c :: t) = c :: t := by
    unfold skipComment
    split
    · exact absurd (List.cons.inj ‹_›).1 hcomment
    · rfl
  simp only [skipLines, skipBlanks_replicate h, hskip, lineBreak?_of_ne hline hreturn]

theorem skipSpace_solid {c : Char} (h : isSolid c = true) (t : Text) : skipSpace (c :: t) = c :: t :=
  skipLines_blanks h _ 0 t

theorem skipSpace_lineFeed {c : Char} (h : isSolid c = true) (count : Nat) (t : Text) :
    skipSpace ('\n' :: (List.replicate count ' ' ++ c :: t)) = c :: t := by
  change skipLines _ (List.replicate count ' ' ++ c :: t) = c :: t
  exact skipLines_blanks h _ count t

/-! ### Values -/

theorem printItems_cons (t : Text) (items : List Value) :
    printItems (.text t :: items) =
      List.replicate 4 ' ' ++ (printString t ++ ',' :: '\n' :: printItems items) := by
  change List.replicate 4 ' ' ++ printString t ++ [',', '\n'] ++ printItems items = _
  simp

theorem printValue_texts_nil : printValue (LeafValue.texts []).toValue = ['[', ']'] := rfl

theorem printValue_texts_singleton (t : Text) :
    printValue (LeafValue.texts [t]).toValue = '[' :: (printString t ++ [']']) := rfl

theorem printValue_texts_cons (t t' : Text) (ts : List Text) :
    printValue (LeafValue.texts (t :: t' :: ts)).toValue =
      '[' :: '\n' :: (printItems ((t :: t' :: ts).map .text) ++ [']']) := rfl

theorem exists_printString (t : Text) : ∃ q u, printString t = q :: u ∧ (q = '"' ∨ q = '\'') := by
  unfold printString
  dsimp only
  repeat' split
  all_goals first
    | exact ⟨'"', _, rfl, Or.inl rfl⟩
    | exact ⟨'\'', _, rfl, Or.inr rfl⟩

theorem readValue_printString (t : Text) {rest : Text} (hquote : rest.head? ≠ some '"')
    (hapostrophe : rest.head? ≠ some '\'') (fuel depth : Nat) :
    readValue (fuel + 1) depth (printString t ++ rest) = some (.text t, rest) := by
  have hread := readString_printString t hquote hapostrophe
  obtain ⟨q, u, hprint, rfl | rfl⟩ := exists_printString t
  · rw [hprint, List.cons_append] at hread ⊢
    simp only [readValue, readScalar, hread]
    rfl
  · rw [hprint, List.cons_append] at hread ⊢
    simp only [readValue, readScalar, hread]
    rfl

theorem readItems_comma {fuel depth : Nat} {item : Value} {t body others : Text}
    (hskip : skipSpace t = body) (hbody : ∀ u, body ≠ ']' :: u)
    (hitem : readValue fuel depth body = some (item, ',' :: others)) :
    readItems (fuel + 1) depth t =
      (readItems fuel depth others).map fun read => (item :: read.1, read.2) := by
  have hcomma : skipSpace (',' :: others) = ',' :: others := skipSpace_solid rfl others
  conv =>
    lhs
    unfold readItems
  rw [hskip]
  split
  · exact absurd rfl (hbody _)
  · simp only [hitem, Option.bind_eq_bind, Option.bind_some, hcomma]
    cases readItems fuel depth others <;> rfl

theorem readItems_last {fuel depth : Nat} {item : Value} {t body rest : Text}
    (hskip : skipSpace t = body) (hbody : ∀ u, body ≠ ']' :: u)
    (hitem : readValue fuel depth body = some (item, ']' :: rest)) :
    readItems (fuel + 1) depth t = some ([item], rest) := by
  have hclose : skipSpace (']' :: rest) = ']' :: rest := skipSpace_solid rfl rest
  unfold readItems
  rw [hskip]
  split
  · exact absurd rfl (hbody _)
  · simp only [hitem, Option.bind_eq_bind, Option.bind_some, hclose]

theorem skipSpace_printString (t rest : Text) :
    skipSpace (printString t ++ rest) = printString t ++ rest := by
  obtain ⟨q, u, hprint, rfl | rfl⟩ := exists_printString t <;> rw [hprint] <;>
    exact skipSpace_solid rfl _

theorem printString_append_ne (t rest : Text) (u : Text) : printString t ++ rest ≠ ']' :: u := by
  intro heq
  obtain ⟨q, _, hprint, rfl | rfl⟩ := exists_printString t <;> rw [hprint] at heq <;>
    exact absurd (List.cons.inj heq).1 (by decide)

theorem readItems_line (t : Text) (fuel depth : Nat) (others : Text) :
    readItems (fuel + 2) depth
        ('\n' :: (List.replicate 4 ' ' ++ (printString t ++ ',' :: others))) =
      (readItems (fuel + 1) depth others).map fun read => (.text t :: read.1, read.2) := by
  have hskip : skipSpace ('\n' :: (List.replicate 4 ' ' ++ (printString t ++ ',' :: others))) =
      printString t ++ ',' :: others := by
    obtain ⟨q, u, hprint, hq⟩ := exists_printString t
    have hsolid : isSolid q = true := by rcases hq with rfl | rfl <;> rfl
    rw [hprint]
    exact skipSpace_lineFeed hsolid 4 _
  exact readItems_comma hskip (printString_append_ne t _)
    (readValue_printString t (by simp) (by simp) fuel depth)

theorem readItems_lines (ts : List Text) {fuel : Nat} (hfuel : ts.length < fuel) (depth : Nat)
    (rest : Text) :
    readItems fuel depth ('\n' :: (printItems (ts.map .text) ++ ']' :: rest)) =
      some (ts.map .text, rest) := by
  induction ts generalizing fuel with
  | nil =>
      obtain ⟨fuel, rfl⟩ := Nat.exists_eq_succ_of_ne_zero (Nat.ne_of_gt (Nat.zero_lt_of_lt hfuel))
      have hskip : skipSpace ('\n' :: ']' :: rest) = ']' :: rest := skipSpace_lineFeed rfl 0 rest
      change readItems _ _ ('\n' :: ']' :: rest) = _
      simp only [readItems, hskip]
      rfl
  | cons t ts ih =>
      rw [List.length_cons] at hfuel
      obtain ⟨fuel, rfl⟩ : ∃ n, fuel = n + 2 := Nat.exists_eq_add_of_le' (by omega)
      rw [List.map_cons, printItems_cons, List.append_assoc, List.append_assoc, List.cons_append,
        List.cons_append, readItems_line, ih (by omega)]
      rfl

theorem length_le_printItems (ts : List Text) : ts.length ≤ (printItems (ts.map .text)).length := by
  induction ts with
  | nil => exact Nat.le_refl _
  | cons t ts ih =>
      rw [List.map_cons, printItems_cons, List.length_append, List.length_append, List.length_cons,
        List.length_cons, List.length_cons]
      omega

theorem readValue_printValue (v : LeafValue) {rest : Text} (hquote : rest.head? ≠ some '"')
    (hapostrophe : rest.head? ≠ some '\'') {fuel : Nat}
    (hfuel : (printValue v.toValue ++ rest).length < fuel) (depth : Nat) :
    readValue fuel (depth + 1) (printValue v.toValue ++ rest) = some (v.toValue, rest) := by
  obtain ⟨fuel, rfl⟩ := Nat.exists_eq_succ_of_ne_zero (Nat.ne_of_gt (Nat.zero_lt_of_lt hfuel))
  cases v with
  | text t => exact readValue_printString t hquote hapostrophe fuel (depth + 1)
  | shape s => exact readValue_printString s.label hquote hapostrophe fuel (depth + 1)
  | flag b => cases b <;> rfl
  | texts ts =>
      have hlist : ∀ t, readValue (fuel + 1) (depth + 1) ('[' :: t) =
          (readItems fuel depth t).map fun read => (.list read.1, read.2) := fun t => rfl
      rcases ts with _ | ⟨t, _ | ⟨t', ts⟩⟩
      · obtain ⟨fuel, rfl⟩ : ∃ n, fuel = n + 1 := Nat.exists_eq_add_of_le' (by
          rw [printValue_texts_nil, List.length_append] at hfuel
          simp at hfuel
          omega)
        have hskip : skipSpace (']' :: rest) = ']' :: rest := skipSpace_solid rfl rest
        change readValue _ _ ('[' :: ']' :: rest) = _
        simp only [hlist, readItems, hskip]
        rfl
      · obtain ⟨fuel, rfl⟩ : ∃ n, fuel = n + 2 := Nat.exists_eq_add_of_le' (by
          rw [printValue_texts_singleton] at hfuel
          simp at hfuel
          omega)
        have htext : printValue (LeafValue.texts [t]).toValue ++ rest =
            '[' :: (printString t ++ ']' :: rest) := by
          rw [printValue_texts_singleton]
          simp
        rw [htext, hlist, readItems_last (skipSpace_printString t _) (printString_append_ne t _)
          (readValue_printString t (by simp) (by simp) fuel depth)]
        rfl
      · have htext : printValue (LeafValue.texts (t :: t' :: ts)).toValue ++ rest =
            '[' :: '\n' :: (printItems ((t :: t' :: ts).map .text) ++ ']' :: rest) := by
          rw [printValue_texts_cons]
          simp
        have hitems := length_le_printItems (t :: t' :: ts)
        rw [htext] at hfuel
        simp only [List.length_cons, List.length_append] at hfuel hitems
        rw [htext, hlist, readItems_lines _ (by simp only [List.length_cons]; omega)]
        rfl

theorem exists_printValue (v : LeafValue) :
    ∃ c u, printValue v.toValue = c :: u ∧ isSolid c = true := by
  cases v with
  | text t =>
      obtain ⟨q, u, hprint, rfl | rfl⟩ := exists_printString t <;> exact ⟨_, u, hprint, rfl⟩
  | shape s =>
      obtain ⟨q, u, hprint, rfl | rfl⟩ := exists_printString s.label <;> exact ⟨_, u, hprint, rfl⟩
  | flag b => cases b <;> exact ⟨_, _, rfl, rfl⟩
  | texts ts => rcases ts with _ | ⟨t, _ | ⟨t', ts⟩⟩ <;> exact ⟨'[', _, rfl, rfl⟩

/-! ### Keys -/

def isBareKey (key : Text) : Bool := !key.isEmpty && key.all isBareKeyChar

theorem printKey_of_bare {key : Text} (h : isBareKey key = true) : printKey key = key := if_pos h

theorem isSolid_of_bare {c : Char} (h : isBareKeyChar c = true) : isSolid c = true := by
  simp only [isSolid, Bool.and_eq_true, decide_eq_true_eq]
  refine ⟨⟨⟨⟨?_, ?_⟩, ?_⟩, ?_⟩, ?_⟩ <;> rintro rfl <;> exact absurd h (by decide)

theorem exists_of_isBareKey {key : Text} (h : isBareKey key = true) :
    ∃ c u, key = c :: u ∧ isBareKeyChar c = true := by
  cases key with
  | nil => exact absurd h (by decide)
  | cons c u =>
      simp only [isBareKey, List.all_cons, Bool.and_eq_true] at h
      exact ⟨c, u, rfl, h.2.1⟩

theorem readSimpleKey_bare {key : Text} (h : isBareKey key = true) {c : Char}
    (hc : isBareKeyChar c = false) (rest : Text) :
    readSimpleKey (key ++ c :: rest) = some (key, c :: rest) := by
  have hall : ∀ d ∈ key, isBareKeyChar d = true := by
    simp only [isBareKey, Bool.and_eq_true, List.all_eq_true] at h
    exact h.2
  have htake : (key ++ c :: rest).takeWhile isBareKeyChar = key := by
    rw [List.takeWhile_append_of_pos hall]
    simp [hc]
  obtain ⟨d, u, rfl, hd⟩ := exists_of_isBareKey h
  unfold readSimpleKey
  split
  · next heq =>
      rw [(List.cons.inj heq).1] at hd
      exact absurd hd (by decide)
  · next heq =>
      rw [(List.cons.inj heq).1] at hd
      exact absurd hd (by decide)
  · simp only [htake, List.isEmpty_cons, Bool.false_eq_true, if_false, List.drop_left]

theorem readKeyPath_bare {key : Text} (h : isBareKey key = true) {c : Char}
    (hc : isBareKeyChar c = false) {rest others : Text} (hskip : skipBlanks (c :: rest) = others)
    (hdot : ∀ u, others ≠ '.' :: u) : readKeyPath (key ++ c :: rest) = some ([key], others) := by
  have hkey : skipBlanks (key ++ c :: rest) = key ++ c :: rest := by
    obtain ⟨d, u, rfl, hd⟩ := exists_of_isBareKey h
    exact skipBlanks_solid (isSolid_of_bare hd) _
  have hkeys : ∀ fuel, readKeys (fuel + 1) (key ++ c :: rest) = some ([key], others) := by
    intro fuel
    simp only [readKeys, hkey, readSimpleKey_bare h hc, Option.bind_eq_bind, Option.bind_some, hskip]
  simp only [readKeyPath, hkeys, Option.bind_eq_bind, Option.bind_some]
  rfl

/-! ### Lines -/

/-- A line with a key and a single setting, before what ends it. -/
def fieldText (key : Text) (v : LeafValue) : Text := key ++ " = ".toList ++ printValue v.toValue

theorem readEntry_fieldText {key : Text} (h : isBareKey key = true) (v : LeafValue) {d d' : Document}
    (hadd : d.addValue [key] v.toValue = some d') {after rest : Text}
    (hquote : after.head? ≠ some '"') (hapostrophe : after.head? ≠ some '\'')
    (hend : endLine? after = some rest) :
    readEntry d (fieldText key v ++ after) = some (d', rest) := by
  have htext : fieldText key v ++ after =
      key ++ ' ' :: '=' :: ' ' :: (printValue v.toValue ++ after) := by
    simp [fieldText]
  have hpath : readKeyPath (fieldText key v ++ after) =
      some ([key], '=' :: ' ' :: (printValue v.toValue ++ after)) := by
    rw [htext]
    exact readKeyPath_bare h rfl rfl (by simp)
  have hblank : skipBlanks (' ' :: (printValue v.toValue ++ after)) =
      printValue v.toValue ++ after := by
    obtain ⟨c, u, hprint, hc⟩ := exists_printValue v
    rw [hprint]
    exact skipBlanks_replicate hc 1 _
  have hvalue : readValue ((printValue v.toValue ++ after).length + 1) depthLimit
      (printValue v.toValue ++ after) = some (v.toValue, after) :=
    readValue_printValue v hquote hapostrophe (Nat.lt_succ_self _) 78
  simp only [readEntry, hpath, Option.bind_eq_bind, Option.bind_some, hblank, hvalue, hend, hadd]

/-- A text takes the reader of lines from one document to another, whatever follows it. -/
def Reads (d : Document) (t : Text) (d' : Document) : Prop :=
  ∀ fuel rest, (t ++ rest).length < fuel →
    ∃ fuel', rest.length < fuel' ∧ readLines fuel d (t ++ rest) = readLines fuel' d' rest

theorem reads_nil (d : Document) : Reads d [] d := fun fuel _ hfuel => ⟨fuel, hfuel, rfl⟩

theorem Reads.trans {d d' d'' : Document} {t t' : Text} (h : Reads d t d') (h' : Reads d' t' d'') :
    Reads d (t ++ t') d'' := by
  intro fuel rest hfuel
  rw [List.append_assoc] at hfuel ⊢
  obtain ⟨fuel', hfuel', heq⟩ := h fuel (t' ++ rest) hfuel
  obtain ⟨fuel'', hfuel'', heq'⟩ := h' fuel' rest hfuel'
  exact ⟨fuel'', hfuel'', heq.trans heq'⟩

theorem readLines_fieldText {key : Text} (h : isBareKey key = true) {v : LeafValue}
    {d d' : Document} (hadd : d.addValue [key] v.toValue = some d') {after rest : Text}
    (hquote : after.head? ≠ some '"') (hapostrophe : after.head? ≠ some '\'')
    (hend : endLine? after = some rest) (fuel : Nat) :
    readLines (fuel + 1) d (fieldText key v ++ after) = readLines fuel d' rest := by
  have hentry := readEntry_fieldText h v hadd hquote hapostrophe hend
  obtain ⟨c, u, rfl, hc⟩ := exists_of_isBareKey h
  have hskip : skipSpace (fieldText (c :: u) v ++ after) = fieldText (c :: u) v ++ after :=
    skipSpace_solid (isSolid_of_bare hc) _
  conv =>
    lhs
    unfold readLines
  rw [hskip]
  split
  · next heq => exact absurd heq (by simp [fieldText])
  · next heq =>
      rw [(List.cons.inj heq).1] at hc
      exact absurd hc (by decide)
  · simp only [hentry, Option.bind_eq_bind, Option.bind_some]

theorem reads_field {key : Text} (h : isBareKey key = true) {v : LeafValue} {d d' : Document}
    (hadd : d.addValue [key] v.toValue = some d') : Reads d (fieldText key v ++ ['\n']) d' := by
  intro fuel rest hfuel
  obtain ⟨fuel, rfl⟩ := Nat.exists_eq_succ_of_ne_zero (Nat.ne_of_gt (Nat.zero_lt_of_lt hfuel))
  rw [List.append_assoc] at hfuel ⊢
  refine ⟨fuel, ?_, readLines_fieldText h hadd (by simp) (by simp) rfl fuel⟩
  simp only [List.length_append, List.length_cons] at hfuel
  omega

theorem readLines_last {key : Text} (h : isBareKey key = true) {v : LeafValue} {d d' : Document}
    (hadd : d.addValue [key] v.toValue = some d') {tail : Text} (htail : tail = [] ∨ tail = ['\n'])
    (fuel : Nat) : readLines (fuel + 2) d (fieldText key v ++ tail) = some d' := by
  have hend : endLine? tail = some [] := by rcases htail with rfl | rfl <;> rfl
  have hquote : tail.head? ≠ some '"' := by rcases htail with rfl | rfl <;> simp
  have hapostrophe : tail.head? ≠ some '\'' := by rcases htail with rfl | rfl <;> simp
  rw [readLines_fieldText h hadd hquote hapostrophe hend]
  rfl

/-- A header after an empty line. -/
def headerText (key : Text) : Text := '\n' :: printHeader [key]

theorem reads_header {key : Text} (h : isBareKey key = true) {d d' : Document}
    (hadd : d.addHeader openTable [key] = some d') : Reads d (headerText key) d' := by
  intro fuel rest hfuel
  obtain ⟨fuel, rfl⟩ := Nat.exists_eq_succ_of_ne_zero (Nat.ne_of_gt (Nat.zero_lt_of_lt hfuel))
  have htext : headerText key ++ rest = '\n' :: '[' :: (key ++ ']' :: '\n' :: rest) := by
    simp [headerText, printHeader, Text.join, printKey_of_bare h]
  have hskip : skipSpace ('\n' :: '[' :: (key ++ ']' :: '\n' :: rest)) =
      '[' :: (key ++ ']' :: '\n' :: rest) := skipSpace_lineFeed rfl 0 _
  have hpath : readKeyPath (key ++ ']' :: '\n' :: rest) = some ([key], ']' :: '\n' :: rest) :=
    readKeyPath_bare h rfl rfl (by simp)
  have hheader : readHeader d (key ++ ']' :: '\n' :: rest) = some (d', rest) := by
    obtain ⟨c, u, rfl, hc⟩ := exists_of_isBareKey h
    unfold readHeader
    split
    · next heq =>
        rw [(List.cons.inj heq).1] at hc
        exact absurd hc (by decide)
    · have hend : endLine? ('\n' :: rest) = some rest := rfl
      simp only [hpath, Option.bind_eq_bind, Option.bind_some, hend, hadd]
  rw [htext] at hfuel ⊢
  refine ⟨fuel, ?_, ?_⟩
  · simp only [List.length_cons, List.length_append] at hfuel
    omega
  · simp only [readLines, hskip, hheader, Option.bind_eq_bind, Option.bind_some]

/-! ### Documents -/

/-- Keys and the single settings that stand under them. -/
abbrev Fields := List (Text × LeafValue)

def fieldLines (fields : Fields) : Text := fields.flatMap fun f => fieldText f.1 f.2 ++ ['\n']

def fieldNodes (fields : Fields) : Entries := fields.map fun f => (f.1, .value f.2.toValue)

/-- The keys need no quotes and are different. -/
structure Proper (keys : List Text) : Prop where
  bare : ∀ key ∈ keys, isBareKey key = true
  nodup : keys.Nodup

theorem map_fst_fieldNodes (fields : Fields) :
    (fieldNodes fields).map Prod.fst = fields.map Prod.fst := by
  simp [fieldNodes]

/-- Lines are added one after the other to the table that they belong to. `place` is the document with
given entries in that table. -/
theorem reads_fieldLines {place : Entries → Document}
    (hplace : ∀ entries key v, key ∉ entries.map Prod.fst →
      (place entries).addValue [key] v = some (place (entries ++ [(key, .value v)])))
    {done fields : Fields} (h : Proper ((done ++ fields).map Prod.fst)) :
    Reads (place (fieldNodes done)) (fieldLines fields) (place (fieldNodes (done ++ fields))) := by
  induction fields generalizing done with
  | nil =>
      rw [List.append_nil]
      exact reads_nil _
  | cons f fields ih =>
      have hfresh : f.1 ∉ (fieldNodes done).map Prod.fst := by
        rw [map_fst_fieldNodes]
        exact not_mem_of_nodup h.nodup
      have hbare : isBareKey f.1 = true := h.bare f.1 (by simp)
      have hadd := hplace (fieldNodes done) f.1 f.2.toValue hfresh
      have hnodes : fieldNodes done ++ [(f.1, .value f.2.toValue)] = fieldNodes (done ++ [f]) := by
        simp [fieldNodes]
      rw [hnodes] at hadd
      have hrest : Reads (place (fieldNodes (done ++ [f]))) (fieldLines fields)
          (place (fieldNodes (done ++ [f] ++ fields))) := ih (by simpa using h)
      rw [List.append_assoc, List.singleton_append] at hrest
      exact (reads_field hbare hadd).trans hrest

theorem addValue_top {entries : Entries} {key : Text} (h : key ∉ entries.map Prod.fst) (v : Value) :
    (⟨entries, []⟩ : Document).addValue [key] v = some ⟨entries ++ [(key, .value v)], []⟩ := by
  simp only [Document.addValue, updateAt, addDotted, addNew, lookup_of_not_mem h,
    Option.bind_eq_bind, Option.bind_some]

theorem addValue_table {front inner : Entries} {group key : Text} (hgroup : group ∉ front.map Prod.fst)
    (h : key ∉ inner.map Prod.fst) (v : Value) :
    (⟨front ++ [(group, .table .header inner)], [group]⟩ : Document).addValue [key] v =
      some ⟨front ++ [(group, .table .header (inner ++ [(key, .value v)]))], [group]⟩ := by
  simp only [Document.addValue, updateAt, lookup_append_self hgroup, addDotted, addNew,
    lookup_of_not_mem h, Option.map_some, insertEntry_append_self hgroup, Option.bind_eq_bind,
    Option.bind_some]

theorem addHeader_new {entries : Entries} {path : List Text} {group : Text}
    (h : group ∉ entries.map Prod.fst) :
    (⟨entries, path⟩ : Document).addHeader openTable [group] =
      some ⟨entries ++ [(group, .table .header [])], [group]⟩ := by
  simp only [Document.addHeader, List.getLast?_singleton, List.dropLast_singleton, updateAt, openTable,
    lookup_of_not_mem h, Option.bind_eq_bind, Option.bind_some]

/-- A table of a document: its key and its fields. -/
abbrev Section := Text × Fields

def sectionText (table : Section) : Text := headerText table.1 ++ fieldLines table.2

def sectionNodes (tables : List Section) : Entries :=
  tables.map fun table => (table.1, .table .header (fieldNodes table.2))

theorem reads_fields (place : Entries → Document)
    (hplace : ∀ entries key v, key ∉ entries.map Prod.fst →
      (place entries).addValue [key] v = some (place (entries ++ [(key, .value v)])))
    {fields : Fields} (h : Proper (fields.map Prod.fst)) :
    Reads (place []) (fieldLines fields) (place (fieldNodes fields)) :=
  @reads_fieldLines place hplace [] fields h

theorem map_fst_sectionNodes (tables : List Section) :
    (sectionNodes tables).map Prod.fst = tables.map Prod.fst := by
  simp [sectionNodes]

theorem reads_section {front : Entries} (path : List Text) {table : Section}
    (hbare : isBareKey table.1 = true) (hnew : table.1 ∉ front.map Prod.fst)
    (hfields : Proper (table.2.map Prod.fst)) :
    Reads ⟨front, path⟩ (sectionText table) ⟨front ++ sectionNodes [table], [table.1]⟩ :=
  (reads_header hbare (addHeader_new hnew)).trans
    (reads_fields (fun inner => ⟨front ++ [(table.1, .table .header inner)], [table.1]⟩)
      (fun _ _ v hkey => addValue_table hnew hkey v) hfields)

theorem reads_sections {front : Entries} (path : List Text) {tables : List Section}
    (h : Proper (front.map Prod.fst ++ tables.map Prod.fst))
    (hfields : ∀ table ∈ tables, Proper (table.2.map Prod.fst)) :
    ∃ path', Reads ⟨front, path⟩ (tables.flatMap sectionText)
      ⟨front ++ sectionNodes tables, path'⟩ := by
  induction tables generalizing front path with
  | nil => exact ⟨path, by simpa [sectionNodes] using reads_nil _⟩
  | cons table tables ih =>
      have hnew : table.1 ∉ front.map Prod.fst := by
        intro hmem
        exact (List.nodup_append.mp h.nodup).2.2 _ hmem _ (by simp) rfl
      have hfirst := reads_section path (h.bare _ (by simp)) hnew (hfields _ List.mem_cons_self)
      have hkeys : Proper ((front ++ sectionNodes [table]).map Prod.fst ++ tables.map Prod.fst) := by
        simpa [sectionNodes] using h
      obtain ⟨path', hrest⟩ := ih [table.1] hkeys fun other hother =>
        hfields other (List.mem_cons_of_mem _ hother)
      refine ⟨path', ?_⟩
      rw [List.append_assoc] at hrest
      exact hfirst.trans hrest

def fieldValues (fields : Fields) : List (Text × Value) := fields.map fun f => (f.1, f.2.toValue)

theorem entriesToValues_append (entries entries' : Entries) :
    entriesToValues (entries ++ entries') = entriesToValues entries ++ entriesToValues entries' := by
  induction entries with
  | nil => rfl
  | cons entry entries ih => rw [List.cons_append, entriesToValues, entriesToValues, ih]; rfl

theorem entriesToValues_fieldNodes (fields : Fields) :
    entriesToValues (fieldNodes fields) = fieldValues fields := by
  induction fields with
  | nil => rfl
  | cons f fields ih =>
      change (f.1, _) :: entriesToValues (fieldNodes fields) = _
      rw [ih]
      rfl

theorem entriesToValues_sectionNodes (tables : List Section) :
    entriesToValues (sectionNodes tables) =
      tables.map fun table => (table.1, .table (fieldValues table.2)) := by
  induction tables with
  | nil => rfl
  | cons table tables ih =>
      change (table.1, Value.table (entriesToValues (fieldNodes table.2))) ::
        entriesToValues (sectionNodes tables) = _
      rw [ih, entriesToValues_fieldNodes]
      rfl

theorem parse?_of_ne_mark {t : Text} (h : t.head? ≠ some '\ufeff') :
    parse? t = (readLines (t.length + 1) Document.empty t).map Document.toValue := by
  unfold parse?
  dsimp only
  split
  · exact absurd rfl h
  · rfl

theorem head?_fieldLines {fields : Fields} (hne : fields ≠ []) (h : Proper (fields.map Prod.fst))
    (rest : Text) : (fieldLines fields ++ rest).head? ≠ some '\ufeff' := by
  cases fields with
  | nil => exact absurd rfl hne
  | cons f fields =>
      obtain ⟨c, u, hf, hc⟩ := exists_of_isBareKey (h.bare f.1 (by simp))
      intro hhead
      have hmark : c = '\ufeff' := by simpa [fieldLines, fieldText, hf] using hhead
      rw [hmark] at hc
      exact absurd hc (by decide)

/-- A document is read back from its lines. The last table has one line, and no line break has to end
it. -/
theorem parse?_lines {fields : Fields} {tables : List Section} {group key : Text} (v : LeafValue)
    {tail : Text} (htail : tail = [] ∨ tail = ['\n']) (hfields : fields ≠ [])
    (h : Proper (fields.map Prod.fst ++ tables.map Prod.fst ++ [group])) (hkey : isBareKey key = true)
    (htables : ∀ table ∈ tables, Proper (table.2.map Prod.fst)) :
    parse? (fieldLines fields ++ tables.flatMap sectionText ++ headerText group ++
        (fieldText key v ++ tail)) =
      some (.table (fieldValues fields ++
        (tables.map fun table => (table.1, .table (fieldValues table.2))) ++
          [(group, .table [(key, v.toValue)])])) := by
  have hkeys : Proper (fields.map Prod.fst) :=
    ⟨fun key hkey => h.bare key (by simp [hkey]),
      (List.nodup_append.mp (List.nodup_append.mp h.nodup).1).1⟩
  have htop : Reads Document.empty (fieldLines fields) ⟨fieldNodes fields, []⟩ :=
    reads_fields (fun entries => ⟨entries, []⟩) (fun _ _ v hkey => addValue_top hkey v) hkeys
  have hnames : Proper ((fieldNodes fields).map Prod.fst ++ tables.map Prod.fst) := by
    rw [map_fst_fieldNodes]
    exact ⟨fun key hkey => h.bare key (List.mem_append_left _ hkey), (List.nodup_append.mp h.nodup).1⟩
  obtain ⟨path, hmiddle⟩ := reads_sections [] hnames htables
  have hgroup : group ∉ (fieldNodes fields ++ sectionNodes tables).map Prod.fst := by
    intro hmem
    rw [List.map_append, map_fst_fieldNodes, map_fst_sectionNodes] at hmem
    exact (List.nodup_append.mp h.nodup).2.2 group hmem group (by simp) rfl
  have hhead := (htop.trans hmiddle).trans
    (reads_header (h.bare group (by simp)) (addHeader_new hgroup))
  obtain ⟨fuel, hfuel, hread⟩ := hhead _ (fieldText key v ++ tail) (Nat.lt_succ_self _)
  obtain ⟨fuel, rfl⟩ : ∃ n, fuel = n + 2 := by
    refine Nat.exists_eq_add_of_le' ?_
    simp [fieldText] at hfuel
    omega
  have hadd : Document.addValue
      ⟨fieldNodes fields ++ sectionNodes tables ++ [(group, .table .header [])], [group]⟩ [key]
        v.toValue =
        some ⟨fieldNodes fields ++ sectionNodes tables ++
          [(group, .table .header [(key, .value v.toValue)])], [group]⟩ :=
    addValue_table hgroup (by simp) v.toValue
  have hmark : (fieldLines fields ++ tables.flatMap sectionText ++ headerText group ++
      (fieldText key v ++ tail)).head? ≠ some '\ufeff' := by
    rw [List.append_assoc, List.append_assoc]
    exact head?_fieldLines hfields hkeys _
  rw [parse?_of_ne_mark hmark, hread, readLines_last hkey hadd htail]
  simp only [Option.map_some, Document.toValue, entriesToValues_append, entriesToValues_fieldNodes,
    entriesToValues_sectionNodes]
  rfl

end HandlerGuard.Toml
