import HandlerGuard.Proofs.Patch.Rendering
import HandlerGuard.Proofs.Text.Weaving

namespace HandlerGuard

/-- The text of a copied segment, and nothing for an inserted one. -/
def Segment.copiedText (s : Segment) : Text :=
  match s.provenance with
  | .copied _ => s.text
  | .inserted _ => []

namespace Patch

/-- The copied pieces cover the range from `cursor` to `stop` once and in order. -/
def Tiles (cursor stop : Nat) : List Piece → Prop
  | [] => cursor = stop
  | .inserted _ :: rest => Tiles cursor stop rest
  | .copied s :: rest => s.start = cursor ∧ Tiles s.stop stop rest

/-- What tiling pieces put in at an offset, the first copied one of which begins at `cursor`. -/
def insertedBy (cursor : Nat) : List Piece → Nat → Text
  | [], _ => []
  | .inserted t :: rest, offset =>
      (if offset = cursor then t else []) ++ insertedBy cursor rest offset
  | .copied s :: rest, offset => insertedBy s.stop rest offset

def insertions (edits : List Edit) (offset : Nat) : Text :=
  edits.flatMap fun e => insertedBy e.span.start e.pieces offset

@[simp] theorem flatMap_copiedText_segmentOf_copied (t : Text) (offset : Nat) :
    (segmentOf t (.copied offset)).flatMap Segment.copiedText = t := by
  cases t with
  | nil => rfl
  | cons c t => simp [segmentOf, Segment.copiedText]

@[simp] theorem flatMap_copiedText_segmentOf_inserted (t : Text) (anchor : Nat) :
    (segmentOf t (.inserted anchor)).flatMap Segment.copiedText = [] := by
  cases t with
  | nil => rfl
  | cons c t => simp [segmentOf, Segment.copiedText]

theorem PiecesFit.tail {source : Text} {outer : Span} {piece : Piece} {pieces : List Piece}
    (h : PiecesFit source outer (piece :: pieces)) : PiecesFit source outer pieces :=
  fun inner hmem => h inner (List.mem_cons_of_mem _ hmem)

theorem Tiles.le {source : Text} {outer : Span} {cursor stop : Nat} {pieces : List Piece}
    (hfit : PiecesFit source outer pieces) (htiles : Tiles cursor stop pieces) :
    cursor ≤ stop := by
  induction pieces generalizing cursor with
  | nil => exact Nat.le_of_eq htiles
  | cons piece pieces ih =>
      cases piece with
      | inserted t => exact ih hfit.tail htiles
      | copied s =>
          have hstop := ih hfit.tail htiles.2
          have hpos := Text.start_lt_stop_of_covers (hfit s (by simp)).1
          have hstart := htiles.1
          omega

theorem insertedBy_eq_nil {source : Text} {outer : Span} {cursor stop offset : Nat}
    {pieces : List Piece} (hfit : PiecesFit source outer pieces)
    (htiles : Tiles cursor stop pieces) (houtside : offset < cursor ∨ stop < offset) :
    insertedBy cursor pieces offset = [] := by
  induction pieces generalizing cursor with
  | nil => rfl
  | cons piece pieces ih =>
      cases piece with
      | inserted t =>
          have hle := Tiles.le hfit.tail htiles
          rw [insertedBy, if_neg (by omega), ih hfit.tail htiles houtside]
          rfl
      | copied s =>
          have hpos := Text.start_lt_stop_of_covers (hfit s (by simp)).1
          have hstart := htiles.1
          exact ih hfit.tail htiles.2 (by omega)

theorem insertions_cons (e : Edit) (edits : List Edit) (offset : Nat) :
    insertions (e :: edits) offset =
      insertedBy e.span.start e.pieces offset ++ insertions edits offset := rfl

theorem exists_copied_of_tiles {source left middle right : Text} {outer s : Span}
    {cursor stop : Nat} {pieces : List Piece}
    (hsource : source = left ++ (middle ++ right)) (hleft : left.byteLength = cursor)
    (hmiddle : cursor + middle.byteLength = stop)
    (hfit : PiecesFit source outer (.copied s :: pieces)) (hstart : s.start = cursor)
    (hrest : Tiles s.stop stop pieces) :
    ∃ first others, middle = first ++ others ∧
      source = (left ++ first) ++ (others ++ right) ∧ textAt source s = first ∧
        cursor + first.byteLength = s.stop := by
  have hstop := Tiles.le hfit.tail hrest
  obtain ⟨left', first, tail, hsplit, -, hleft', hfirst⟩ :=
    Text.covers_iff.mp (hfit s (by simp)).1
  obtain ⟨rfl, htail⟩ := Text.append_inj_of_byteLength
    (hsplit.symm.trans hsource) (by omega)
  obtain ⟨others, rfl, rfl⟩ := Text.exists_middle_of_byteLength_le htail (by omega)
  refine ⟨first, others, rfl, by simp [hsource], ?_, by omega⟩
  rw [textAt, Text.slice?_eq_some_iff.mpr ⟨left', _, hsplit, hleft', hfirst⟩]
  rfl

theorem flatMap_text_pieceLayout {source left middle right : Text} {outer : Span}
    {anchor cursor stop : Nat} {pieces : List Piece}
    (hsource : source = left ++ (middle ++ right)) (hleft : left.byteLength = cursor)
    (hmiddle : cursor + middle.byteLength = stop)
    (hfit : PiecesFit source outer pieces) (htiles : Tiles cursor stop pieces) :
    (pieces.flatMap (pieceLayout source anchor)).flatMap (·.text) =
      middle.weaveFrom (insertedBy cursor pieces) cursor ++ insertedBy cursor pieces stop := by
  induction pieces generalizing left middle cursor with
  | nil =>
      have hempty : middle = [] := Text.byteLength_eq_zero.mp (by
        simp only [Tiles] at htiles
        omega)
      subst hempty
      rfl
  | cons piece pieces ih =>
      cases piece with
      | inserted t =>
          have hothers := ih hsource hleft hmiddle hfit.tail htiles
          rw [List.flatMap_cons, List.flatMap_append, hothers, pieceLayout,
            flatMap_text_segmentOf, ← hmiddle, eq_comm]
          apply Text.weaveFrom_start
          · simp [insertedBy]
          · intro n hlow _
            rw [insertedBy, if_neg (by omega)]
            rfl
      | copied s =>
          obtain ⟨hstart, hrest⟩ := htiles
          obtain ⟨first, others, rfl, hsource', hcopied, hnext⟩ :=
            exists_copied_of_tiles hsource hleft hmiddle hfit hstart hrest
          have hothers := ih hsource' (by simp; omega) (by simp at hmiddle; omega) hfit.tail hrest
          have hfirst : first.weaveFrom (insertedBy cursor (.copied s :: pieces)) cursor = first := by
            apply Text.weaveFrom_of_eq_nil
            intro n _ hhigh
            have hbefore : n < s.stop := by omega
            rw [insertedBy, insertedBy_eq_nil hfit.tail hrest (Or.inl hbefore)]
          rw [List.flatMap_cons, List.flatMap_append, hothers, pieceLayout,
            flatMap_text_segmentOf, hcopied, Text.weaveFrom_append, hfirst, hnext,
            List.append_assoc]
          rfl

theorem insertions_eq_nil {source : Text} {edits : List Edit} {offset : Nat}
    (hfitting : ∀ e ∈ edits, PiecesFit source e.span e.pieces)
    (htiles : ∀ e ∈ edits, Tiles e.span.start e.span.stop e.pieces)
    (hbehind : ∀ e ∈ edits, offset < e.span.start) : insertions edits offset = [] := by
  apply List.flatMap_eq_nil_iff.mpr
  intro e he
  exact insertedBy_eq_nil (hfitting e he) (htiles e he) (Or.inl (hbehind e he))

theorem exists_gap_of_covers {source left tail : Text} {s : Span}
    (hsource : source = left ++ tail) (hcovers : source.covers s = true)
    (hle : left.byteLength ≤ s.start) :
    ∃ gap middle right, tail = gap ++ (middle ++ right) ∧
      left.byteLength + gap.byteLength = s.start ∧ s.start + middle.byteLength = s.stop := by
  obtain ⟨front, middle, right, hsplit, -, hfront, hmiddle⟩ := Text.covers_iff.mp hcovers
  obtain ⟨gap, rfl, rfl⟩ := Text.exists_middle_of_byteLength_le
    (hsource.symm.trans hsplit) (by omega)
  refine ⟨gap, middle, right, rfl, ?_, by omega⟩
  rw [← hfront, Text.byteLength_append]

theorem textAt_gap {source left gap right : Text} {start : Nat}
    (hsource : source = left ++ (gap ++ right))
    (hgap : left.byteLength + gap.byteLength = start) :
    textAt source ⟨left.byteLength, start⟩ = gap := by
  rw [hsource, ← hgap, textAt_append]

theorem textAt_tail {source left tail : Text} (hsource : source = left ++ tail) :
    textAt source ⟨left.byteLength, source.byteLength⟩ = tail := by
  have hsplit : source = left ++ (tail ++ []) := by simpa using hsource
  exact textAt_gap hsplit (by simp [hsource])

theorem flatMap_text_layoutFrom {source left tail : Text} {edits : List Edit}
    (hsource : source = left ++ tail) (hfrom : ∀ e ∈ edits, left.byteLength ≤ e.span.start)
    (hordered : edits.Pairwise fun a b => a.span.stop ≤ b.span.start)
    (hcovered : ∀ e ∈ edits, source.covers e.span = true)
    (hfitting : ∀ e ∈ edits, PiecesFit source e.span e.pieces)
    (htiles : ∀ e ∈ edits, Tiles e.span.start e.span.stop e.pieces) :
    (layoutFrom source left.byteLength edits).flatMap (·.text) =
      tail.weaveFrom (insertions edits) left.byteLength ++
        insertions edits (left.byteLength + tail.byteLength) := by
  induction edits generalizing left tail with
  | nil =>
      have hnone : insertions [] = fun _ => [] := rfl
      rw [layoutFrom, textAt_tail hsource, flatMap_text_segmentOf, hnone, Text.weaveFrom_nil,
        List.append_nil]
  | cons e rest ih =>
      have hcovers := hcovered e (by simp)
      have hfit := hfitting e (by simp)
      have htile := htiles e (by simp)
      have hfitting' : ∀ f ∈ rest, PiecesFit source f.span f.pieces :=
        fun f hf => hfitting f (List.mem_cons_of_mem _ hf)
      have htiles' : ∀ f ∈ rest, Tiles f.span.start f.span.stop f.pieces :=
        fun f hf => htiles f (List.mem_cons_of_mem _ hf)
      obtain ⟨hnext, hordered⟩ := List.pairwise_cons.mp hordered
      obtain ⟨gap, middle, right, rfl, hgap, hmiddle⟩ :=
        exists_gap_of_covers hsource hcovers (hfrom e (by simp))
      have hsplit : source = (left ++ gap) ++ (middle ++ right) := by simp [hsource]
      have hstop : ((left ++ gap) ++ middle).byteLength = e.span.stop := by
        simp only [Text.byteLength_append]
        omega
      have hpieces : (e.pieces.flatMap (pieceLayout source e.span.start)).flatMap (·.text) =
          middle.weaveFrom (insertedBy e.span.start e.pieces) e.span.start ++
            insertedBy e.span.start e.pieces e.span.stop :=
        flatMap_text_pieceLayout hsplit (by simpa using hgap) hmiddle hfit htile
      have hothers : (layoutFrom source e.span.stop rest).flatMap (·.text) =
          right.weaveFrom (insertions rest) e.span.stop ++
            insertions rest (e.span.stop + right.byteLength) := by
        rw [← hstop]
        exact ih (by simp [hsource]) (by rw [hstop]; exact hnext) hordered
          (fun f hf => hcovered f (List.mem_cons_of_mem _ hf)) hfitting' htiles'
      have hrest : ∀ n, n < e.span.stop → insertions rest n = [] := fun n hn =>
        insertions_eq_nil hfitting' htiles' fun f hf => Nat.lt_of_lt_of_le hn (hnext f hf)
      -- nothing is put in before the edit, only its own text inside it, and only the text of
      -- later edits behind it; at its end both meet
      have hbefore : gap.weaveFrom (insertions (e :: rest)) left.byteLength = gap := by
        apply Text.weaveFrom_of_eq_nil
        intro n _ hhigh
        rw [insertions_cons, insertedBy_eq_nil hfit htile (Or.inl (by omega)),
          hrest n (by omega)]
        rfl
      have hinside : middle.weaveFrom (insertions (e :: rest)) e.span.start =
          middle.weaveFrom (insertedBy e.span.start e.pieces) e.span.start := by
        apply Text.weaveFrom_congr
        intro n _ hhigh
        rw [insertions_cons, hrest n (by omega), List.append_nil]
      have hbehind : right.weaveFrom (insertions (e :: rest)) e.span.stop ++
            insertions (e :: rest) (e.span.stop + right.byteLength) =
          insertedBy e.span.start e.pieces e.span.stop ++
            (right.weaveFrom (insertions rest) e.span.stop ++
              insertions rest (e.span.stop + right.byteLength)) := by
        apply Text.weaveFrom_start rfl
        intro n hlow _
        rw [insertions_cons, insertedBy_eq_nil hfit htile (Or.inr hlow)]
        rfl
      have hend : left.byteLength + (gap ++ (middle ++ right)).byteLength =
          e.span.stop + right.byteLength := by
        simp only [Text.byteLength_append]
        omega
      rw [layoutFrom, List.flatMap_append, List.flatMap_append, flatMap_text_segmentOf,
        textAt_gap hsource hgap, hpieces, hothers, Text.weaveFrom_append, Text.weaveFrom_append,
        hbefore, hgap, hinside, hmiddle, hend, List.append_assoc, List.append_assoc,
        List.append_assoc, List.append_assoc, hbehind]

/-- The piece without the text that it puts in. -/
def stripPiece : Piece → Piece
  | .inserted _ => .inserted []
  | .copied s => .copied s

/-- The edit without the text that it puts in. -/
def strip (e : Edit) : Edit := ⟨e.span, e.pieces.map stripPiece⟩

theorem flatMap_copiedText_pieceLayout (source : Text) (anchor : Nat) (piece : Piece) :
    (pieceLayout source anchor piece).flatMap Segment.copiedText =
      (pieceLayout source anchor (stripPiece piece)).flatMap (·.text) := by
  cases piece with
  | inserted t => simp [pieceLayout, stripPiece]
  | copied s => simp [pieceLayout, stripPiece]

theorem flatMap_copiedText_layoutFrom (source : Text) (cursor : Nat) (edits : List Edit) :
    (layoutFrom source cursor edits).flatMap Segment.copiedText =
      (layoutFrom source cursor (edits.map strip)).flatMap (·.text) := by
  induction edits generalizing cursor with
  | nil => simp [layoutFrom]
  | cons e rest ih =>
      have hpieces : (e.pieces.flatMap (pieceLayout source e.span.start)).flatMap
            Segment.copiedText =
          ((e.pieces.map stripPiece).flatMap (pieceLayout source e.span.start)).flatMap
            (·.text) := by
        rw [List.flatMap_map, List.flatMap_assoc, List.flatMap_assoc]
        simp only [flatMap_copiedText_pieceLayout]
      rw [List.map_cons, layoutFrom, layoutFrom, List.flatMap_append, List.flatMap_append,
        List.flatMap_append, List.flatMap_append, hpieces, ih]
      simp [strip]

theorem Tiles.strip {cursor stop : Nat} {pieces : List Piece} (h : Tiles cursor stop pieces) :
    Tiles cursor stop (pieces.map stripPiece) := by
  induction pieces generalizing cursor with
  | nil => exact h
  | cons piece pieces ih =>
      cases piece with
      | inserted t => exact ih h
      | copied s => exact ⟨h.1, ih h.2⟩

theorem PiecesFit.strip {source : Text} {outer : Span} {pieces : List Piece}
    (h : PiecesFit source outer pieces) : PiecesFit source outer (pieces.map stripPiece) := by
  intro inner hmem
  obtain ⟨piece, hpiece, heq⟩ := List.mem_map.mp hmem
  cases piece with
  | inserted t => simp [stripPiece] at heq
  | copied s =>
      obtain rfl : s = inner := by simpa [stripPiece] using heq
      exact h s hpiece

theorem insertedBy_strip (cursor : Nat) (pieces : List Piece) (offset : Nat) :
    insertedBy cursor (pieces.map stripPiece) offset = [] := by
  induction pieces generalizing cursor with
  | nil => rfl
  | cons piece pieces ih =>
      cases piece with
      | inserted t => simp [stripPiece, insertedBy, ih]
      | copied s => exact ih s.stop

/-- Every edit keeps the text of its range. -/
def OnlyInserts (p : Patch) : Prop :=
  ∀ e ∈ p.edits, Tiles e.span.start e.span.stop e.pieces

theorem WellFormed.flatMap_text_layout {p : Patch} (h : p.WellFormed) (honly : p.OnlyInserts) :
    p.layout.flatMap (·.text) = p.lead ++ p.source.weave (insertions p.edits) := by
  have hbody := flatMap_text_layoutFrom (List.nil_append p.source).symm
    (fun _ _ => Nat.zero_le _) h.ordered h.covered h.fitting honly
  rw [Text.byteLength_nil, Nat.zero_add] at hbody
  rw [layout, List.flatMap_append, flatMap_text_segmentOf, hbody, Text.weave]

theorem WellFormed.flatMap_copiedText_layout {p : Patch} (h : p.WellFormed)
    (honly : p.OnlyInserts) : p.layout.flatMap Segment.copiedText = p.source := by
  have hbody : (layoutFrom p.source 0 (p.edits.map strip)).flatMap (·.text) =
      p.source.weaveFrom (insertions (p.edits.map strip)) 0 ++
        insertions (p.edits.map strip) (0 + p.source.byteLength) := by
    apply flatMap_text_layoutFrom (List.nil_append p.source).symm (fun _ _ => Nat.zero_le _)
    · exact List.pairwise_map.mpr h.ordered
    · exact List.forall_mem_map.mpr h.covered
    · exact List.forall_mem_map.mpr fun e he => (h.fitting e he).strip
    · exact List.forall_mem_map.mpr fun e he => (honly e he).strip
  have hnothing : insertions (p.edits.map strip) = fun _ => [] := by
    funext offset
    simp [insertions, List.flatMap_map, strip, insertedBy_strip]
  rw [layout, List.flatMap_append, flatMap_copiedText_segmentOf_inserted, List.nil_append,
    flatMap_copiedText_layoutFrom, hbody, hnothing, Text.weaveFrom_nil, List.append_nil]

section

variable {α β : Type}

theorem flatMap_eq_of_perm {f : α → List β} {l l' : List α} (hperm : l.Perm l')
    (hsingle : l.Pairwise fun a b => f a = [] ∨ f b = []) : l.flatMap f = l'.flatMap f := by
  induction hperm with
  | nil => rfl
  | cons a _ ih =>
      rw [List.flatMap_cons, List.flatMap_cons, ih (List.pairwise_cons.mp hsingle).2]
  | swap a b l =>
      obtain ⟨hfirst, -⟩ := List.pairwise_cons.mp hsingle
      rw [List.flatMap_cons, List.flatMap_cons, List.flatMap_cons, List.flatMap_cons]
      rcases hfirst a (by simp) with h | h
      · simp [h]
      · simp [h]
  | trans hperm _ ih ih' =>
      have hsymm : ∀ {a b : α}, (f a = [] ∨ f b = []) → (f b = [] ∨ f a = []) := Or.symm
      rw [ih hsingle, ih' (hperm.pairwise hsingle hsymm)]

theorem flatMap_append_eq_append_flatMap {f g : α → List β} {l : List α}
    (hhere : ∀ a ∈ l, f a = [] ∨ g a = [])
    (hbefore : l.Pairwise fun a b => f a = [] ∨ g b = []) :
    (l.flatMap fun a => f a ++ g a) = l.flatMap g ++ l.flatMap f := by
  induction l with
  | nil => rfl
  | cons a l ih =>
      obtain ⟨hfirst, hothers⟩ := List.pairwise_cons.mp hbefore
      have ih := ih (fun b hb => hhere b (List.mem_cons_of_mem _ hb)) hothers
      rw [List.flatMap_cons, List.flatMap_cons, List.flatMap_cons, ih]
      by_cases hempty : f a = []
      · simp [hempty]
      · have hg : g a = [] := (hhere a (by simp)).resolve_left hempty
        have hrest : l.flatMap g = [] := by
          apply List.flatMap_eq_nil_iff.mpr
          intro b hb
          exact (hfirst b hb).resolve_left hempty
        simp [hg, hrest]

end

/-- What an edit puts in at an offset at which its range does not begin earlier. -/
def opening (e : Edit) (offset : Nat) : Text :=
  if offset ≤ e.span.start then insertedBy e.span.start e.pieces offset else []

/-- What an edit puts in at an offset before which its range begins. -/
def closing (e : Edit) (offset : Nat) : Text :=
  if offset ≤ e.span.start then [] else insertedBy e.span.start e.pieces offset

/-- Where one range ends and the next begins, the text of the first comes first. This does not
depend on the order in which the edits are listed. -/
theorem WellFormed.insertions_eq {p : Patch} {edits : List Edit} (h : p.WellFormed)
    (honly : p.OnlyInserts) (hperm : p.edits.Perm edits) (offset : Nat) :
    insertions p.edits offset =
      edits.flatMap (closing · offset) ++ edits.flatMap (opening · offset) := by
  have hnil : ∀ e ∈ p.edits, (offset < e.span.start ∨ e.span.stop < offset) →
      insertedBy e.span.start e.pieces offset = [] :=
    fun e he houtside => insertedBy_eq_nil (h.fitting e he) (honly e he) houtside
  have hsplit : insertions p.edits offset =
      p.edits.flatMap fun e => opening e offset ++ closing e offset := by
    unfold insertions
    congr 1
    funext e
    unfold opening closing
    split <;> simp
  have hordered : p.edits.Pairwise fun a b =>
      a ∈ p.edits ∧ b ∈ p.edits ∧ a.span.stop ≤ b.span.start :=
    List.Pairwise.and_mem.mp h.ordered
  have hbefore : p.edits.Pairwise fun a b => opening a offset = [] ∨ closing b offset = [] := by
    refine hordered.imp ?_
    rintro a b ⟨ha, hb, hle⟩
    have hpos := h.start_lt_stop ha
    by_cases hstart : offset ≤ a.span.start
    · exact Or.inr (if_pos (by omega))
    · exact Or.inl (if_neg hstart)
  have hclosings : p.edits.Pairwise fun a b => closing a offset = [] ∨ closing b offset = [] := by
    refine hordered.imp ?_
    rintro a b ⟨ha, hb, hle⟩
    by_cases hstart : offset ≤ b.span.start
    · exact Or.inr (if_pos hstart)
    · left
      rw [closing, hnil a ha (by omega)]
      exact ite_self []
  have hopenings : p.edits.Pairwise fun a b => opening a offset = [] ∨ opening b offset = [] := by
    refine hordered.imp ?_
    rintro a b ⟨ha, hb, hle⟩
    have hpos := h.start_lt_stop ha
    by_cases hstart : offset ≤ a.span.start
    · right
      rw [opening, hnil b hb (by omega)]
      exact ite_self []
    · exact Or.inl (if_neg hstart)
  have hhere : ∀ e ∈ p.edits, opening e offset = [] ∨ closing e offset = [] := by
    intro e _
    by_cases hstart : offset ≤ e.span.start
    · exact Or.inr (if_pos hstart)
    · exact Or.inl (if_neg hstart)
  rw [hsplit, flatMap_append_eq_append_flatMap hhere hbefore, flatMap_eq_of_perm hperm hclosings,
    flatMap_eq_of_perm hperm hopenings]

end Patch

end HandlerGuard
