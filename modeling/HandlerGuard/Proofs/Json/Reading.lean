import HandlerGuard.Json.Quoted
import HandlerGuard.Json.Reader

namespace HandlerGuard.Json

theorem hexFour?_hexDigit {n : Nat} (h : n < 0x20) :
    hexFour? '0' '0' (hexDigit (n / 16)) (hexDigit (n % 16)) = some n := by
  have hall : ∀ n < 0x20, hexFour? '0' '0' (hexDigit (n / 16)) (hexDigit (n % 16)) = some n := by
    decide
  exact hall n h

theorem codeEscape?_of_lt {n : Nat} (h : n < 0x20) (rest : Text) :
    codeEscape? n rest = some (Char.ofNat n, rest) := by
  unfold codeEscape?
  rw [if_pos (by omega)]

theorem readString_shortEscape {e c : Char} (he : e ≠ 'u') (hc : shortEscape? e = some c)
    (fuel : Nat) (rest : Text) :
    readString (fuel + 1) ('\\' :: e :: rest) =
      (readString fuel rest).map fun read => (c :: read.1, read.2) := by
  rw [readString, if_neg (by decide), if_pos rfl, hc]
  · cases readString fuel rest <;> rfl
  · intro _ _ _ _ _ hu
    exact absurd hu he

theorem readString_codeEscape {c : Char} (hc : c.toNat < 0x20) (fuel : Nat) (rest : Text) :
    readString (fuel + 1)
        ('\\' :: 'u' :: '0' :: '0' :: hexDigit (c.toNat / 16) :: hexDigit (c.toNat % 16) :: rest) =
      (readString fuel rest).map fun read => (c :: read.1, read.2) := by
  rw [readString, if_neg (by decide), if_pos rfl, hexFour?_hexDigit hc]
  simp only [Option.bind_eq_bind, Option.bind_some, codeEscape?_of_lt hc, Char.ofNat_toNat]
  cases readString fuel rest <;> rfl

theorem readString_plain {c : Char} (hquote : c ≠ '"') (hslash : c ≠ '\\') (hc : ¬c.toNat < 0x20)
    (fuel : Nat) (rest : Text) :
    readString (fuel + 1) (c :: rest) =
      (readString fuel rest).map fun read => (c :: read.1, read.2) := by
  conv =>
    lhs
    unfold readString
  rw [if_neg hquote, if_neg hslash, if_neg hc]
  cases readString fuel rest <;> rfl

theorem escape_cases (c : Char) :
    (∃ e, escape c = ['\\', e] ∧ e ≠ 'u' ∧ shortEscape? e = some c) ∨
      (c.toNat < 0x20 ∧ escape c =
        ['\\', 'u', '0', '0', hexDigit (c.toNat / 16), hexDigit (c.toNat % 16)]) ∨
      (c ≠ '"' ∧ c ≠ '\\' ∧ ¬c.toNat < 0x20 ∧ escape c = [c]) := by
  by_cases hshort : c ∈ ['"', '\\', '\x08', '\t', '\n', '\x0c', '\r']
  · left
    simp only [List.mem_cons, List.not_mem_nil, or_false] at hshort
    rcases hshort with rfl | rfl | rfl | rfl | rfl | rfl | rfl <;>
      exact ⟨_, rfl, by decide, rfl⟩
  · simp only [List.mem_cons, List.not_mem_nil, or_false, not_or] at hshort
    right
    by_cases hcode : c.toNat < 0x20
    · simp [escape, hshort, hcode]
    · simp [escape, hshort, hcode]

theorem readString_escape (c : Char) (fuel : Nat) (rest : Text) :
    readString (fuel + 1) (escape c ++ rest) =
      (readString fuel rest).map fun read => (c :: read.1, read.2) := by
  obtain ⟨e, hescape, he, hc⟩ | ⟨hc, hescape⟩ | ⟨hquote, hslash, hc, hescape⟩ := escape_cases c
  · rw [hescape]
    exact readString_shortEscape he hc fuel rest
  · rw [hescape]
    exact readString_codeEscape hc fuel rest
  · rw [hescape]
    exact readString_plain hquote hslash hc fuel rest

theorem readString_quoted {t : Text} {fuel : Nat} (hfuel : t.length < fuel) (rest : Text) :
    readString fuel (t.flatMap escape ++ '"' :: rest) = some (t, rest) := by
  induction t generalizing fuel with
  | nil =>
      obtain ⟨fuel, rfl⟩ := Nat.exists_eq_succ_of_ne_zero (Nat.ne_of_gt hfuel)
      simp [readString]
  | cons c t ih =>
      obtain ⟨fuel, rfl⟩ := Nat.exists_eq_succ_of_ne_zero (Nat.ne_of_gt (Nat.zero_lt_of_lt hfuel))
      rw [List.flatMap_cons, List.append_assoc, readString_escape, ih (by simpa using hfuel)]
      rfl

theorem escape_ne_nil (c : Char) : escape c ≠ [] := by
  obtain ⟨e, hescape, -⟩ | ⟨-, hescape⟩ | ⟨-, -, -, hescape⟩ := escape_cases c <;> simp [hescape]

theorem length_le_flatMap_escape (t : Text) : t.length ≤ (t.flatMap escape).length := by
  induction t with
  | nil => simp
  | cons c t ih =>
      have := List.length_pos_iff.mpr (escape_ne_nil c)
      rw [List.flatMap_cons, List.length_append, List.length_cons]
      omega

/-- A text is read as a value, at most `depth` levels deep, in front of what can follow a value. -/
def IsRead (depth : Nat) (t : Text) (v : Value) : Prop :=
  ∀ (fuel : Nat) (c : Char) (rest : Text), t.length < fuel → c ∈ [',', ']', '\x7d'] →
    readValue fuel depth (t ++ c :: rest) = some (v, c :: rest)

theorem readString_quote (t rest : Text) :
    readString ((t.flatMap escape ++ '"' :: rest).length + 1) (t.flatMap escape ++ '"' :: rest) =
      some (t, rest) := by
  refine readString_quoted ?_ rest
  have := length_le_flatMap_escape t
  simp only [List.length_append, List.length_cons]
  omega

theorem quote_append (t rest : Text) : quote t ++ rest = '"' :: (t.flatMap escape ++ '"' :: rest) := by
  simp [quote]

theorem skipBlanks_quote (t rest : Text) :
    skipBlanks (quote t ++ rest) = '"' :: (t.flatMap escape ++ '"' :: rest) := by
  rw [quote_append]
  rfl

theorem readValue_quote (fuel depth : Nat) (t rest : Text) :
    readValue (fuel + 1) depth (quote t ++ rest) = some (.text t, rest) := by
  rw [readValue, skipBlanks_quote]
  simp only [readString_quote]
  rfl

theorem isRead_quote (depth : Nat) (t : Text) : IsRead depth (quote t) (.text t) := by
  intro fuel c rest hfuel _
  obtain ⟨fuel, rfl⟩ := Nat.exists_eq_add_one_of_ne_zero (Nat.ne_zero_of_lt hfuel)
  exact readValue_quote fuel depth t (c :: rest)

theorem isRead_three (depth : Nat) : IsRead depth ['3'] (.natural 3) := by
  intro fuel c rest hfuel hc
  obtain ⟨fuel, rfl⟩ := Nat.exists_eq_add_one_of_ne_zero (Nat.ne_zero_of_lt hfuel)
  simp only [List.mem_cons, List.not_mem_nil, or_false] at hc
  rcases hc with rfl | rfl | rfl <;> rfl

theorem isRead_nil (depth : Nat) : IsRead (depth + 1) ['[', ']'] (.list []) := by
  intro fuel c rest hfuel _
  obtain ⟨fuel, rfl⟩ := Nat.exists_eq_add_one_of_ne_zero (Nat.ne_zero_of_lt hfuel)
  rfl

theorem isRead_singleton (depth : Nat) (t : Text) :
    IsRead (depth + 1) ('[' :: quote t ++ [']']) (.list [.text t]) := by
  intro fuel c rest hfuel _
  obtain ⟨fuel, rfl⟩ : ∃ n, fuel = n + 3 := Nat.exists_eq_add_of_le' (by simp at hfuel; omega)
  have hitems : readItems (fuel + 2) depth (quote t ++ ']' :: c :: rest) =
      some ([.text t], c :: rest) := by
    rw [readItems, readValue_quote]
    rfl
  have htext : '[' :: quote t ++ [']'] ++ c :: rest = '[' :: (quote t ++ ']' :: c :: rest) := by simp
  have hopen : skipBlanks ('[' :: (quote t ++ ']' :: c :: rest)) =
      '[' :: (quote t ++ ']' :: c :: rest) := rfl
  rw [htext, readValue, hopen]
  simp only [skipBlanks_quote, hitems]
  rfl

/-- A field of a table: its key, its value, and how the value is written. -/
structure Field where
  key : Text
  written : Text
  value : Value

/-- Fields without blanks between them. -/
def Field.join (fields : List Field) : Text :=
  [','].intercalate (fields.map fun f => quote f.key ++ ':' :: f.written)

theorem Field.join_singleton (f : Field) : Field.join [f] = quote f.key ++ ':' :: f.written := by
  simp [Field.join]

theorem Field.join_cons_cons (f next : Field) (fields : List Field) :
    Field.join (f :: next :: fields) =
      quote f.key ++ ':' :: (f.written ++ ',' :: Field.join (next :: fields)) := by
  simp [Field.join, List.intercalate_cons_cons]

def Field.addTo (fields : List Field) (entries : List (Text × Value)) : List (Text × Value) :=
  fields.foldl (fun entries f => insertEntry f.key f.value entries) entries

theorem readFields_cons {depth : Nat} {f : Field} (hread : IsRead depth f.written f.value) {fuel : Nat}
    (hfuel : f.written.length < fuel) (entries : List (Text × Value)) (rest : Text) :
    readFields (fuel + 1) depth entries (quote f.key ++ ':' :: (f.written ++ ',' :: rest)) =
        readFields fuel depth (insertEntry f.key f.value entries) rest ∧
      readFields (fuel + 1) depth entries (quote f.key ++ ':' :: (f.written ++ '\x7d' :: rest)) =
        some (insertEntry f.key f.value entries, rest) := by
  have hcolon : ∀ t, skipBlanks (':' :: t) = ':' :: t := fun t => rfl
  have hcomma : ∀ t, skipBlanks (',' :: t) = ',' :: t := fun t => rfl
  have hbrace : ∀ t, skipBlanks ('\x7d' :: t) = '\x7d' :: t := fun t => rfl
  constructor
  · rw [readFields, skipBlanks_quote]
    simp only [readString_quote, Option.bind_eq_bind, Option.bind_some, hcolon,
      hread fuel ',' rest hfuel (by decide), hcomma]
  · rw [readFields, skipBlanks_quote]
    simp only [readString_quote, Option.bind_eq_bind, Option.bind_some, hcolon,
      hread fuel '\x7d' rest hfuel (by decide), hbrace]

theorem readFields_join {depth : Nat} {fields : List Field} (hfields : fields ≠ [])
    (hread : ∀ f ∈ fields, IsRead depth f.written f.value) {fuel : Nat}
    (hfuel : (Field.join fields).length < fuel) (entries : List (Text × Value)) (rest : Text) :
    readFields fuel depth entries (Field.join fields ++ '\x7d' :: rest) =
      some (Field.addTo fields entries, rest) := by
  induction fields generalizing fuel entries with
  | nil => exact absurd rfl hfields
  | cons f fields ih =>
      obtain ⟨fuel, rfl⟩ := Nat.exists_eq_add_one_of_ne_zero (Nat.ne_zero_of_lt hfuel)
      have hf := hread f (by simp)
      cases fields with
      | nil =>
          rw [Field.join_singleton, List.length_append, List.length_cons] at hfuel
          rw [Field.join_singleton, List.append_assoc, List.cons_append,
            (readFields_cons hf (by omega) entries rest).2]
          rfl
      | cons next fields =>
          rw [Field.join_cons_cons] at hfuel
          simp only [List.length_append, List.length_cons] at hfuel
          rw [Field.join_cons_cons, List.append_assoc, List.cons_append, List.append_assoc,
            List.cons_append, (readFields_cons hf (by omega) entries _).1,
            ih (by simp) (fun g hg => hread g (List.mem_cons_of_mem f hg)) (by omega)]
          rfl

theorem parse?_join {fields : List Field} (hfields : fields ≠ [])
    (hread : ∀ f ∈ fields, IsRead (depthLimit - 1) f.written f.value) :
    parse? ('\x7b' :: Field.join fields ++ ['\x7d']) = some (.table (Field.addTo fields [])) := by
  have hquote : ∃ t, skipBlanks (Field.join fields ++ ['\x7d']) = '"' :: t := by
    obtain ⟨f, others, rfl⟩ := List.exists_cons_of_ne_nil hfields
    cases others with
    | nil =>
        rw [Field.join_singleton, List.append_assoc, skipBlanks_quote]
        exact ⟨_, rfl⟩
    | cons next fields =>
        rw [Field.join_cons_cons, List.append_assoc, skipBlanks_quote]
        exact ⟨_, rfl⟩
  obtain ⟨t, ht⟩ := hquote
  have hopen : skipBlanks ('\x7b' :: (Field.join fields ++ ['\x7d'])) =
      '\x7b' :: (Field.join fields ++ ['\x7d']) := rfl
  have hlength : (Field.join fields).length <
      ('\x7b' :: (Field.join fields ++ ['\x7d'])).length := by
    simp only [List.length_cons, List.length_append]
    omega
  have hlimit : depthLimit = depthLimit - 1 + 1 := rfl
  rw [List.cons_append, parse?, readValue, hopen, hlimit]
  simp only [ht, readFields_join hfields hread hlength]
  rfl

end HandlerGuard.Json
