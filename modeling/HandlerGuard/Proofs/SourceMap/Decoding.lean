import HandlerGuard.Proofs.SourceMap.Vlq
import HandlerGuard.SourceMap.Basic

namespace HandlerGuard.SourceMap

/-- A mapping as a map with several sources has it. -/
structure Entry where
  generated : Position
  /-- Which of the sources it leads to. -/
  index : Nat
  source : Position
deriving DecidableEq, Repr

def Entry.ofMapping (m : Mapping) : Entry := ⟨m.generated, 0, m.source⟩

/-- The numbers that were read last, one of each kind. -/
structure Cursor where
  column : Int
  index : Int
  sourceLine : Int
  sourceColumn : Int

namespace Cursor

/-- The cursor after a segment with the given differences, of which there are four. -/
def move? (c : Cursor) : List Int → Option Cursor
  | [column, index, line, sourceColumn] =>
      some ⟨c.column + column, c.index + index, c.sourceLine + line, c.sourceColumn + sourceColumn⟩
  | _ => none

/-- The mapping on a generated line that a cursor stands for; none if a number is negative. -/
def locate? (line : Nat) (c : Cursor) : Option Entry := do
  let column ← c.column.toNat?
  let index ← c.index.toNat?
  let sourceLine ← c.sourceLine.toNat?
  let sourceColumn ← c.sourceColumn.toNat?
  some ⟨⟨line, column⟩, index, ⟨sourceLine, sourceColumn⟩⟩

def newLine (c : Cursor) : Cursor := { c with column := 0 }

end Cursor

/-- The segments of each line. -/
def rows (t : Text) : List (List Text) :=
  (t.splitOn ';').map fun row => if row.isEmpty then [] else row.splitOn ','

/-- The mappings of the segments of a line, and the cursor after them. -/
def readRow (line : Nat) (c : Cursor) : List Text → Option (List Entry × Cursor)
  | [] => some ([], c)
  | segment :: rest => do
      let differences ← Vlq.read? segment
      let c ← c.move? differences
      let entry ← c.locate? line
      let (entries, last) ← readRow line c rest
      some (entry :: entries, last)

/-- The mappings of lines, of which the first is numbered `line`. -/
def readRows (line : Nat) (c : Cursor) : List (List Text) → Option (List Entry)
  | [] => some []
  | row :: rest => do
      let (entries, last) ← readRow line c row
      let others ← readRows (line + 1) last.newLine rest
      some (entries ++ others)

def readMappings? (t : Text) : Option (List Entry) := readRows 0 ⟨0, 0, 0, 0⟩ (rows t)

def Cursor.past (column : Nat) (source : Position) : Cursor := ⟨column, 0, source.line, source.column⟩

@[simp] theorem newLine_past (column : Nat) (source : Position) :
    (Cursor.past column source).newLine = Cursor.past 0 source := rfl

theorem read?_writeMapping (column : Nat) (source : Position) (m : Mapping) :
    Vlq.read? (writeMapping column source m) =
      some [(m.generated.column : Int) - column, 0, (m.source.line : Int) - source.line,
        (m.source.column : Int) - source.column] := by
  rw [writeMapping, List.append_assoc, List.append_assoc, Vlq.read?_encode_append,
    Vlq.read?_encode_append, Vlq.read?_encode_append, ← List.append_nil (Vlq.encode _),
    Vlq.read?_encode_append]
  rfl

theorem move?_past (column : Nat) (source : Position) (m : Mapping) :
    (Cursor.past column source).move?
        [(m.generated.column : Int) - column, 0, (m.source.line : Int) - source.line,
          (m.source.column : Int) - source.column] =
      some (Cursor.past m.generated.column m.source) := by
  simp only [Cursor.move?, Cursor.past, Option.some.injEq, Cursor.mk.injEq]
  omega

theorem locate?_past (line column : Nat) (source : Position) :
    (Cursor.past column source).locate? line = some ⟨⟨line, column⟩, 0, source⟩ := rfl

theorem readRow_writeMapping (line column : Nat) (source : Position) (m : Mapping)
    (rest : List Text) :
    readRow line (Cursor.past column source) (writeMapping column source m :: rest) =
      (readRow line (Cursor.past m.generated.column m.source) rest).map fun read =>
        (⟨⟨line, m.generated.column⟩, 0, m.source⟩ :: read.1, read.2) := by
  rw [readRow, read?_writeMapping]
  simp only [Option.bind_eq_bind, Option.bind_some, move?_past, locate?_past]
  cases readRow line (Cursor.past m.generated.column m.source) rest <;> rfl

theorem readRows_writeMapping {rows : List (List Text)} (hrows : rows ≠ []) (line column : Nat)
    (source : Position) (m : Mapping) :
    readRows line (Cursor.past column source)
        (rows.modifyHead (writeMapping column source m :: ·)) =
      (readRows line (Cursor.past m.generated.column m.source) rows).map
        (⟨⟨line, m.generated.column⟩, 0, m.source⟩ :: ·) := by
  obtain ⟨row, rest, rfl⟩ := List.exists_cons_of_ne_nil hrows
  rw [List.modifyHead_cons, readRows, readRows, readRow_writeMapping]
  cases readRow line (Cursor.past m.generated.column m.source) row with
  | none => rfl
  | some read =>
      simp only [Option.map_some, Option.bind_eq_bind, Option.bind_some]
      cases readRows (line + 1) read.2.newLine rest <;> rfl

theorem readRows_replicate {count : Nat} (hcount : 0 < count) (line column : Nat)
    (source : Position) (rows : List (List Text)) :
    readRows line (Cursor.past column source) (List.replicate count [] ++ rows) =
      readRows (line + count) (Cursor.past 0 source) rows := by
  have hstep : ∀ line column rows, readRows line (Cursor.past column source) ([] :: rows) =
      readRows (line + 1) (Cursor.past 0 source) rows := by
    intro line column rows
    rw [readRows, readRow]
    simp only [Option.bind_eq_bind, Option.bind_some, newLine_past, List.nil_append]
    cases readRows (line + 1) (Cursor.past 0 source) rows <;> rfl
  induction count generalizing line column with
  | zero => omega
  | succ count ih =>
      rw [List.replicate_succ, List.cons_append, hstep]
      cases count with
      | zero => rfl
      | succ count => rw [ih (by omega), Nat.add_assoc, Nat.add_comm 1]

/-- The segments of the lines from `line` on. The first line is the rest of the one that the mapping
before stands on. -/
def segmentRows (line column : Nat) (source : Position) : List Mapping → List (List Text)
  | [] => [[]]
  | m :: rest =>
      if line < m.generated.line then
        List.replicate (m.generated.line - line) [] ++
          (segmentRows m.generated.line m.generated.column m.source rest).modifyHead
            (writeMapping 0 source m :: ·)
      else
        (segmentRows line m.generated.column m.source rest).modifyHead
          (writeMapping column source m :: ·)

theorem segmentRows_ne_nil (line column : Nat) (source : Position) (maps : List Mapping) :
    segmentRows line column source maps ≠ [] := by
  induction maps generalizing line column source with
  | nil => simp [segmentRows]
  | cons m rest ih =>
      rw [segmentRows]
      split
      · simpa using fun _ => ih _ _ _
      · simpa using ih _ _ _

theorem readRows_segmentRows {line : Nat} {maps : List Mapping}
    (hlines : maps.Pairwise fun a b => a.generated.line ≤ b.generated.line)
    (hfrom : ∀ m ∈ maps, line ≤ m.generated.line) (column : Nat) (source : Position) :
    readRows line (Cursor.past column source) (segmentRows line column source maps) =
      some (maps.map Entry.ofMapping) := by
  induction maps generalizing line column source with
  | nil => rfl
  | cons m rest ih =>
      obtain ⟨hnext, hlines⟩ := List.pairwise_cons.mp hlines
      have hhere := hfrom m (by simp)
      have hrest := ih hlines hnext m.generated.column m.source
      rw [segmentRows]
      split
      · rename_i hlater
        rw [readRows_replicate (by omega), Nat.add_sub_cancel' hhere,
          readRows_writeMapping (segmentRows_ne_nil _ _ _ _), hrest]
        rfl
      · obtain rfl : line = m.generated.line := by omega
        rw [readRows_writeMapping (segmentRows_ne_nil _ _ _ _), hrest]
        rfl

def joinRows (rows : List (List Text)) : Text := [';'].intercalate (rows.map [','].intercalate)

/-- The comma between what stands on a line and what goes on there. -/
def comma (row : List Text) : Text := if row = [] then [] else [',']

theorem intercalate_append_cons {α : Type} (separator front rest : List α)
    (others : List (List α)) :
    separator.intercalate ((front ++ rest) :: others) =
      front ++ separator.intercalate (rest :: others) := by
  cases others <;> simp

theorem joinRows_cons_cons (segment : Text) (row : List Text) (rows : List (List Text)) :
    joinRows ((segment :: row) :: rows) = segment ++ (comma row ++ joinRows (row :: rows)) := by
  have hrow : [','].intercalate (segment :: row) =
      (segment ++ comma row) ++ [','].intercalate row := by
    cases row <;> simp [comma]
  rw [joinRows, List.map_cons, hrow, intercalate_append_cons, List.append_assoc]
  rfl

theorem joinRows_replicate {rows : List (List Text)} (hrows : rows ≠ []) (count : Nat) :
    joinRows (List.replicate count [] ++ rows) = List.replicate count ';' ++ joinRows rows := by
  induction count with
  | zero => rfl
  | succ count ih =>
      rw [List.replicate_succ, List.cons_append, joinRows, List.map_cons,
        List.intercalate_cons_of_ne_nil (by simpa using fun _ => hrows)]
      rw [joinRows] at ih
      rw [ih]
      rfl

/-- The mappings are written as the lines of their segments. A comma stands in front if a segment
precedes on the line and another one follows. -/
theorem writeMappings_eq {line : Nat} (first : Bool) {column : Nat} {source : Position}
    {maps : List Mapping} {row : List Text} {rest : List (List Text)}
    (hrows : segmentRows line column source maps = row :: rest) :
    writeMappings line first column source maps =
      (if first then [] else comma row) ++ joinRows (row :: rest) := by
  induction maps generalizing line first column source row rest with
  | nil =>
      obtain ⟨rfl, rfl⟩ := List.cons.inj hrows
      cases first <;> rfl
  | cons m others ih =>
      rw [segmentRows] at hrows
      rw [writeMappings]
      split
      · rename_i hlater
        rw [if_pos hlater] at hrows
        obtain ⟨row', rest', hothers⟩ := List.exists_cons_of_ne_nil
          (segmentRows_ne_nil m.generated.line m.generated.column m.source others)
        rw [hothers, List.modifyHead_cons] at hrows
        -- the line at hand has no more segments
        obtain rfl : row = [] := by
          obtain ⟨count, hcount⟩ := Nat.exists_eq_succ_of_ne_zero (Nat.sub_ne_zero_of_lt hlater)
          rw [hcount, List.replicate_succ, List.cons_append] at hrows
          exact (List.cons.inj hrows).1.symm
        rw [ih false hothers, ← hrows, joinRows_replicate (by simp), joinRows_cons_cons]
        simp [comma]
      · rename_i hsame
        rw [if_neg hsame] at hrows
        obtain ⟨row', rest', hothers⟩ := List.exists_cons_of_ne_nil
          (segmentRows_ne_nil line m.generated.column m.source others)
        rw [hothers, List.modifyHead_cons] at hrows
        obtain ⟨rfl, rfl⟩ := List.cons.inj hrows
        rw [ih false hothers, joinRows_cons_cons]
        simp [comma]

theorem mem_alphabet_of_mem_writeMapping {column : Nat} {source : Position} {m : Mapping} {c : Char}
    (h : c ∈ writeMapping column source m) : c ∈ Vlq.alphabet := by
  simp only [writeMapping, List.mem_append] at h
  rcases h with ((h | h) | h) | h <;> exact Vlq.mem_alphabet_of_mem_encode h

theorem writeMapping_ne_nil (column : Nat) (source : Position) (m : Mapping) :
    writeMapping column source m ≠ [] := by
  simp [writeMapping, Vlq.encode_ne_nil]

theorem exists_of_mem_intercalate {separator : Text} {parts : List Text} {c : Char}
    (h : c ∈ separator.intercalate parts) : c ∈ separator ∨ ∃ part ∈ parts, c ∈ part := by
  induction parts with
  | nil => simp at h
  | cons part parts ih =>
      cases parts with
      | nil => exact Or.inr ⟨part, by simp, by simpa using h⟩
      | cons next parts =>
          rw [List.intercalate_cons_cons, List.append_assoc, List.mem_append, List.mem_append] at h
          rcases h with h | h | h
          · exact Or.inr ⟨part, by simp, h⟩
          · exact Or.inl h
          · rcases ih h with h | ⟨other, hother, h⟩
            · exact Or.inl h
            · exact Or.inr ⟨other, List.mem_cons_of_mem part hother, h⟩

theorem rows_joinRows {lines : List (List Text)} (hlines : lines ≠ [])
    (hsegments : ∀ row ∈ lines, ∀ segment ∈ row,
      segment ≠ [] ∧ ∀ c ∈ segment, c ∈ Vlq.alphabet) :
    rows (joinRows lines) = lines := by
  have hfeed : ∀ text ∈ lines.map [','].intercalate, ';' ∉ text := by
    intro text htext hmem
    obtain ⟨row, hrow, rfl⟩ := List.mem_map.mp htext
    rcases exists_of_mem_intercalate hmem with hmem | ⟨segment, hsegment, hmem⟩
    · exact absurd hmem (by decide)
    · exact absurd ((hsegments row hrow segment hsegment).2 _ hmem) (by decide)
  rw [rows, joinRows, List.splitOn_intercalate ';' hfeed (by simpa using hlines), List.map_map]
  refine (List.map_congr_left ?_).trans (List.map_id lines)
  intro row hrow
  cases row with
  | nil => rfl
  | cons segment others =>
      have hcomma : ∀ part ∈ segment :: others, ',' ∉ part := fun part hpart hmem =>
        absurd ((hsegments _ hrow part hpart).2 _ hmem) (by decide)
      obtain ⟨c, rest, hsegment⟩ :=
        List.exists_cons_of_ne_nil (hsegments _ hrow segment (by simp)).1
      have hfilled : ([','].intercalate (segment :: others)).isEmpty = false := by
        rw [hsegment, List.intercalate_cons_cons_left]
        rfl
      change (if ([','].intercalate (segment :: others)).isEmpty = true then [] else _) = _
      rw [hfilled, List.splitOn_intercalate ',' hcomma (by simp)]
      rfl

theorem forall_mem_segmentRows {P : Text → Prop}
    (hP : ∀ column source m, P (writeMapping column source m)) (line column : Nat)
    (source : Position) (maps : List Mapping) :
    ∀ row ∈ segmentRows line column source maps, ∀ segment ∈ row, P segment := by
  have hcons : ∀ {lines : List (List Text)} {first : Text},
      (∀ row ∈ lines, ∀ segment ∈ row, P segment) → P first →
        ∀ row ∈ lines.modifyHead (first :: ·), ∀ segment ∈ row, P segment := by
    intro lines first hlines hfirst row hrow segment hsegment
    cases lines with
    | nil => simp at hrow
    | cons head lines =>
        rcases List.mem_cons.mp hrow with rfl | hrow
        · rcases List.mem_cons.mp hsegment with rfl | hsegment
          · exact hfirst
          · exact hlines head (by simp) segment hsegment
        · exact hlines row (List.mem_cons_of_mem head hrow) segment hsegment
  induction maps generalizing line column source with
  | nil => simp [segmentRows]
  | cons m rest ih =>
      rw [segmentRows]
      split
      · intro row hrow
        rcases List.mem_append.mp hrow with hrow | hrow
        · rw [List.eq_of_mem_replicate hrow]
          simp
        · exact hcons (ih _ _ _) (hP _ _ _) row hrow
      · exact hcons (ih _ _ _) (hP _ _ _)

/-- Mappings whose lines do not decrease are read back as they were written, in order, all of the first
source. -/
theorem readMappings?_writeMappings {maps : List Mapping}
    (hlines : maps.Pairwise fun a b => a.generated.line ≤ b.generated.line) :
    readMappings? (writeMappings 0 true 0 Position.origin maps) =
      some (maps.map Entry.ofMapping) := by
  obtain ⟨row, rest, hrows⟩ :=
    List.exists_cons_of_ne_nil (segmentRows_ne_nil 0 0 Position.origin maps)
  have hsplit : rows (writeMappings 0 true 0 Position.origin maps) =
      segmentRows 0 0 Position.origin maps := by
    rw [writeMappings_eq true hrows, if_pos rfl, List.nil_append, ← hrows]
    refine rows_joinRows (segmentRows_ne_nil _ _ _ _) (forall_mem_segmentRows ?_ 0 0 _ maps)
    intro column source m
    exact ⟨writeMapping_ne_nil column source m, fun c => mem_alphabet_of_mem_writeMapping⟩
  rw [readMappings?, hsplit]
  exact readRows_segmentRows hlines (fun m _ => Nat.zero_le _) 0 Position.origin

example : readMappings? "AAAA;;EAEA,CAFA".toList =
    some [⟨⟨0, 0⟩, 0, ⟨0, 0⟩⟩, ⟨⟨2, 2⟩, 0, ⟨2, 0⟩⟩, ⟨⟨2, 3⟩, 0, ⟨0, 0⟩⟩] := by decide +kernel

theorem mem_writeMappings {line : Nat} {first : Bool} {column : Nat} {source : Position}
    {maps : List Mapping} {c : Char} (h : c ∈ writeMappings line first column source maps) :
    c ∈ ',' :: ';' :: Vlq.alphabet := by
  have hsegment : ∀ {column : Nat} {source : Position} {m : Mapping},
      c ∈ writeMapping column source m → c ∈ ',' :: ';' :: Vlq.alphabet := fun h =>
    List.mem_cons_of_mem _ (List.mem_cons_of_mem _ (mem_alphabet_of_mem_writeMapping h))
  induction maps generalizing line first column source with
  | nil => simp [writeMappings] at h
  | cons m rest ih =>
      rw [writeMappings] at h
      split at h
      · rw [List.append_assoc, List.mem_append, List.mem_append] at h
        rcases h with h | h | h
        · rw [List.eq_of_mem_replicate h]
          simp
        · exact hsegment h
        · exact ih h
      · rw [List.append_assoc, List.mem_append, List.mem_append] at h
        rcases h with h | h | h
        · cases first <;> simp at h
          simp [h]
        · exact hsegment h
        · exact ih h

end HandlerGuard.SourceMap
