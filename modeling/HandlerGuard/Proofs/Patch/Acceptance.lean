import HandlerGuard.Proofs.Patch.History

namespace HandlerGuard

/-- The range has text, ends in the text and cuts no character. -/
def Text.Sound (t : Text) (s : Span) : Prop :=
  s.start < s.stop ∧ s.stop ≤ t.byteLength ∧
    t.isBoundary s.start = true ∧ t.isBoundary s.stop = true

theorem Text.covers_iff_sound {t : Text} {s : Span} : t.covers s = true ↔ t.Sound s := by
  simp only [covers, Sound, Bool.and_eq_true, decide_eq_true_eq, and_assoc]

namespace Span

/-- Some byte lies in both ranges. -/
def Meets (a b : Span) : Prop :=
  ∃ offset, (a.start ≤ offset ∧ offset < a.stop) ∧ b.start ≤ offset ∧ offset < b.stop

theorem not_meets_of_stop_le {a b : Span} (h : a.stop ≤ b.start) : ¬a.Meets b := by
  rintro ⟨offset, ⟨-, ha⟩, hb, -⟩
  omega

theorem not_meets_of_le_start {a b : Span} (h : b.stop ≤ a.start) : ¬a.Meets b := by
  rintro ⟨offset, ⟨ha, -⟩, -, hb⟩
  omega

theorem meets_of_start_lt {a b : Span} (hle : a.start ≤ b.start) (hlt : b.start < a.stop)
    (hpos : b.start < b.stop) : a.Meets b :=
  ⟨b.start, ⟨hle, hlt⟩, Nat.le_refl _, hpos⟩

theorem Meets.symm {a b : Span} (h : a.Meets b) : b.Meets a := by
  obtain ⟨offset, ha, hb⟩ := h
  exact ⟨offset, hb, ha⟩

end Span

/-- What the piece copies, if it does, is a sound range inside the edited one. -/
def Piece.Fits (source : Text) (outer : Span) : Piece → Prop
  | .inserted _ => True
  | .copied inner => source.Sound inner ∧ outer.start ≤ inner.start ∧ inner.stop ≤ outer.stop

namespace Patch

/-- The first range with a fault: that of the edit, or else one that a piece copies. -/
def FirstFault (source : Text) (s : Span) (pieces : List Piece) (bad : Span) : Prop :=
  (¬source.Sound s ∧ bad = s) ∨
    (source.Sound s ∧ ∃ front back, pieces = front ++ .copied bad :: back ∧
      (∀ piece ∈ front, piece.Fits source s) ∧ ¬(Piece.copied bad).Fits source s)

/-- The edit is the first of the recorded ones that has a byte in common with the range. -/
def FirstMeeting (p : Patch) (s : Span) (e : Edit) : Prop :=
  ∃ before after, p.edits = before ++ e :: after ∧ (∀ f ∈ before, ¬f.span.Meets s) ∧ e.span.Meets s

theorem fits_copied_iff {source : Text} {outer inner : Span} :
    (Piece.copied inner).Fits source outer ↔
      source.covers inner = true ∧ inner.within outer = true := by
  rw [Text.covers_iff_sound, Span.within_iff]
  exact Iff.rfl

theorem checkPiece_cases (p : Patch) (outer : Span) (piece : Piece) :
    (piece.Fits p.source outer ∧ p.checkPiece outer piece = .ok ()) ∨
      ∃ inner, piece = .copied inner ∧ ¬piece.Fits p.source outer ∧
        p.checkPiece outer piece = .error (.badSpan inner p.source.byteLength) := by
  cases piece with
  | inserted t => exact Or.inl ⟨trivial, rfl⟩
  | copied inner =>
      rw [fits_copied_iff]
      by_cases hcovers : p.source.covers inner = true
      · have hspan : p.checkSpan inner = .ok () := checkSpan_eq_ok_iff.mpr hcovers
        by_cases hwithin : inner.within outer = true
        · left
          refine ⟨⟨hcovers, hwithin⟩, ?_⟩
          simp only [checkPiece, hspan, if_pos hwithin]
          rfl
        · right
          refine ⟨inner, rfl, fun h => hwithin h.2, ?_⟩
          simp only [checkPiece, hspan, if_neg hwithin]
          rfl
      · right
        refine ⟨inner, rfl, fun h => hcovers h.1, ?_⟩
        simp only [checkPiece, checkSpan, if_neg hcovers]
        rfl

theorem checkPieces_cases (p : Patch) (outer : Span) (pieces : List Piece) :
    ((∀ piece ∈ pieces, piece.Fits p.source outer) ∧ p.checkPieces outer pieces = .ok ()) ∨
      ∃ front inner back, pieces = front ++ .copied inner :: back ∧
        (∀ piece ∈ front, piece.Fits p.source outer) ∧ ¬(Piece.copied inner).Fits p.source outer ∧
        p.checkPieces outer pieces = .error (.badSpan inner p.source.byteLength) := by
  induction pieces with
  | nil => exact Or.inl ⟨by simp, rfl⟩
  | cons piece pieces ih =>
      rcases p.checkPiece_cases outer piece with ⟨hfirst, hcheck⟩ | ⟨inner, rfl, hfault, hcheck⟩
      · rcases ih with ⟨hothers, hrest⟩ | ⟨front, inner, back, rfl, hfront, hfault, hrest⟩
        · left
          refine ⟨List.forall_mem_cons.mpr ⟨hfirst, hothers⟩, ?_⟩
          rw [checkPieces, hcheck]
          exact hrest
        · right
          refine ⟨piece :: front, inner, back, rfl, List.forall_mem_cons.mpr ⟨hfirst, hfront⟩, hfault,
            ?_⟩
          rw [checkPieces, hcheck]
          exact hrest
      · right
        refine ⟨[], inner, pieces, rfl, by simp, hfault, ?_⟩
        rw [checkPieces, hcheck]
        rfl

namespace WellFormed

variable {p : Patch} {s : Span}

theorem neighbours_cases (h : p.WellFormed) (hpos : s.start < s.stop) :
    ((∀ e ∈ p.edits, ¬e.span.Meets s) ∧
        checkLeft s (p.splitEdits s).1 = .ok () ∧ checkRight s (p.splitEdits s).2 = .ok ()) ∨
      ∃ e, p.FirstMeeting s e ∧
        (checkLeft s (p.splitEdits s).1 = .error (.overlap e.span s) ∨
          checkLeft s (p.splitEdits s).1 = .ok () ∧
            checkRight s (p.splitEdits s).2 = .error (.overlap e.span s)) := by
  have hedits := splitEdits_append p s
  cases hleft : checkLeft s (p.splitEdits s).1 with
  | error error =>
      obtain ⟨left, hlast, hlt, rfl⟩ := checkLeft_eq_error hleft
      obtain ⟨front, hsplit⟩ := List.getLast?_eq_some_iff.mp hlast
      have hstart := start_lt_of_mem_splitEdits (List.mem_of_getLast? hlast)
      have hordered := (h.ordered_splitEdits s).1
      rw [hsplit] at hedits hordered
      -- all edits before the neighbour end where it starts, so before the range
      refine Or.inr ⟨left, ⟨front, (p.splitEdits s).2, by simp [← hedits], ?_, ?_⟩, Or.inl rfl⟩
      · intro f hf
        have hstop := (List.pairwise_append.mp hordered).2.2 f hf left (by simp)
        exact Span.not_meets_of_stop_le (by omega)
      · exact Span.meets_of_start_lt (Nat.le_of_lt hstart) hlt hpos
  | ok u =>
      have hbefore := h.stop_le_of_getLast (checkLeft_eq_ok_iff.mp hleft)
      cases hright : checkRight s (p.splitEdits s).2 with
      | error error =>
          obtain ⟨right, hhead, hlt, rfl⟩ := checkRight_eq_error hright
          obtain ⟨back, hsplit⟩ := List.head?_eq_some_iff.mp hhead
          have hstart := start_le_of_mem_head_splitEdits hhead
          have hmem : right ∈ p.edits := by
            rw [← hedits]
            exact List.mem_append_right _ (List.mem_of_mem_head? hhead)
          rw [hsplit] at hedits
          refine Or.inr ⟨right, ⟨_, back, hedits.symm, ?_, ?_⟩, Or.inr ⟨rfl, rfl⟩⟩
          · intro f hf
            exact Span.not_meets_of_stop_le (hbefore f hf)
          · exact (Span.meets_of_start_lt hstart hlt (h.start_lt_stop hmem)).symm
      | ok u =>
          have hafter := h.stop_le_of_head (checkRight_eq_ok_iff.mp hright)
          refine Or.inl ⟨?_, rfl, rfl⟩
          intro e he
          rw [← hedits] at he
          rcases List.mem_append.mp he with he | he
          · exact Span.not_meets_of_stop_le (hbefore e he)
          · exact Span.not_meets_of_le_start (hafter e he)

theorem overwriteWith_cases (h : p.WellFormed) (s : Span) (pieces : List Piece) :
    (∃ bad, FirstFault p.source s pieces bad ∧
        p.overwriteWith s pieces = .error (.badSpan bad p.source.byteLength)) ∨
      (p.source.Sound s ∧ ∀ piece ∈ pieces, piece.Fits p.source s) ∧
        ((∃ e, p.FirstMeeting s e ∧ p.overwriteWith s pieces = .error (.overlap e.span s)) ∨
          (∀ e ∈ p.edits, ¬e.span.Meets s) ∧
            p.overwriteWith s pieces =
              .ok { p with edits := (p.splitEdits s).1 ++ ⟨s, pieces⟩ :: (p.splitEdits s).2 }) := by
  by_cases hsound : p.source.Sound s
  · have hspan : p.checkSpan s = .ok () := checkSpan_eq_ok_iff.mpr (Text.covers_iff_sound.mpr hsound)
    rcases p.checkPieces_cases s pieces with
      ⟨hfit, hpieces⟩ | ⟨front, inner, back, hsplit, hfront, hfault, hpieces⟩
    · refine Or.inr ⟨⟨hsound, hfit⟩, ?_⟩
      rcases h.neighbours_cases hsound.1 with
        ⟨hfree, hleft, hright⟩ | ⟨e, hmeets, hleft | ⟨hleft, hright⟩⟩
      · refine Or.inr ⟨hfree, ?_⟩
        simp only [Patch.overwriteWith, hspan, hpieces, hleft, hright]
        rfl
      · refine Or.inl ⟨e, hmeets, ?_⟩
        simp only [Patch.overwriteWith, hspan, hpieces, hleft]
        rfl
      · refine Or.inl ⟨e, hmeets, ?_⟩
        simp only [Patch.overwriteWith, hspan, hpieces, hleft, hright]
        rfl
    · refine Or.inl ⟨inner, Or.inr ⟨hsound, front, back, hsplit, hfront, hfault⟩, ?_⟩
      simp only [Patch.overwriteWith, hspan, hpieces]
      rfl
  · have hcovers : ¬p.source.covers s = true := fun h => hsound (Text.covers_iff_sound.mp h)
    refine Or.inl ⟨s, Or.inl ⟨hsound, rfl⟩, ?_⟩
    simp only [Patch.overwriteWith, checkSpan, if_neg hcovers]
    rfl

end WellFormed

theorem FirstFault.not_fits {source : Text} {s bad : Span} {pieces : List Piece}
    (h : FirstFault source s pieces bad) :
    ¬(source.Sound s ∧ ∀ piece ∈ pieces, piece.Fits source s) := by
  rintro ⟨hsound, hfit⟩
  rcases h with ⟨hunsound, -⟩ | ⟨-, front, back, rfl, -, hfault⟩
  · exact hunsound hsound
  · exact hfault (hfit (.copied bad) (by simp))

theorem FirstMeeting.exists_meets {p : Patch} {s : Span} {e : Edit} (h : p.FirstMeeting s e) :
    ∃ e ∈ p.edits, e.span.Meets s := by
  obtain ⟨before, after, hedits, -, hmeets⟩ := h
  exact ⟨e, by simp [hedits], hmeets⟩

namespace WellFormed

variable {p : Patch}

theorem exists_overwriteWith_iff (h : p.WellFormed) (s : Span) (pieces : List Piece) :
    (∃ q, p.overwriteWith s pieces = .ok q) ↔
      (p.source.Sound s ∧ ∀ piece ∈ pieces, piece.Fits p.source s) ∧
        ∀ e ∈ p.edits, ¬e.span.Meets s := by
  rcases h.overwriteWith_cases s pieces with
    ⟨bad, hfault, hresult⟩ | ⟨hfit, ⟨e, hmeets, hresult⟩ | ⟨hfree, hresult⟩⟩
  · simp only [hresult, reduceCtorEq, exists_false, false_iff]
    exact fun hall => hfault.not_fits hall.1
  · simp only [hresult, reduceCtorEq, exists_false, false_iff]
    rintro ⟨-, hfree⟩
    obtain ⟨f, hf, hmeets⟩ := hmeets.exists_meets
    exact hfree f hf hmeets
  · exact iff_of_true ⟨_, hresult⟩ ⟨hfit, hfree⟩

theorem overwriteWith_eq_error (h : p.WellFormed) (s : Span) (pieces : List Piece)
    (error : EditError) (herror : p.overwriteWith s pieces = .error error) :
    (∃ bad, FirstFault p.source s pieces bad ∧ error = .badSpan bad p.source.byteLength) ∨
      (p.source.Sound s ∧ ∀ piece ∈ pieces, piece.Fits p.source s) ∧
        ∃ e, p.FirstMeeting s e ∧ error = .overlap e.span s := by
  rcases h.overwriteWith_cases s pieces with
    ⟨bad, hfault, hresult⟩ | ⟨hfit, ⟨e, hmeets, hresult⟩ | ⟨-, hresult⟩⟩
  · exact Or.inl ⟨bad, hfault, Except.error.inj (herror.symm.trans hresult)⟩
  · exact Or.inr ⟨hfit, e, hmeets, Except.error.inj (herror.symm.trans hresult)⟩
  · simp [herror] at hresult

end WellFormed

theorem reached_concat (source : Text) (requests : List Request) (request : Request) :
    reached source (requests ++ [request]) = (reached source requests).serve request := by
  simp [reached, serveAll]

/-- A request to replace a range goes through exactly if the range and all that is copied are sound, what
is copied lies inside the range, and no recorded edit has a byte in common with it. It then adds this one
edit. Otherwise it changes nothing: the first range with a fault is reported if there is one, and if there
is none, the first recorded edit that the range meets. -/
theorem reached_overwriteWith_decided (source : Text) (requests : List Request) (s : Span)
    (pieces : List Piece) :
    ((∃ q, (reached source requests).overwriteWith s pieces = .ok q) ↔
        (source.Sound s ∧ ∀ piece ∈ pieces, piece.Fits source s) ∧
          ∀ e ∈ (reached source requests).edits, ¬e.span.Meets s) ∧
      (∀ q, (reached source requests).overwriteWith s pieces = .ok q →
        reached source (requests ++ [.overwriteWith s pieces]) = q ∧ q.source = source ∧
          q.lead = (reached source requests).lead ∧
          ∃ before after, (reached source requests).edits = before ++ after ∧
            q.edits = before ++ ⟨s, pieces⟩ :: after) ∧
      ((∃ bad length,
          (reached source requests).overwriteWith s pieces = .error (.badSpan bad length)) ↔
        ¬(source.Sound s ∧ ∀ piece ∈ pieces, piece.Fits source s)) ∧
      ∀ error, (reached source requests).overwriteWith s pieces = .error error →
        reached source (requests ++ [.overwriteWith s pieces]) = reached source requests ∧
          ((∃ bad, FirstFault source s pieces bad ∧ error = .badSpan bad source.byteLength) ∨
            (source.Sound s ∧ ∀ piece ∈ pieces, piece.Fits source s) ∧
              ∃ e, (reached source requests).FirstMeeting s e ∧ error = .overlap e.span s) := by
  have hwf := wellFormed_reached source requests
  have hsource := source_reached source requests
  have hserved : reached source (requests ++ [.overwriteWith s pieces]) =
      (reached source requests).orKeep ((reached source requests).overwriteWith s pieces) :=
    reached_concat source requests _
  have haccepted := hwf.exists_overwriteWith_iff s pieces
  have hrefused := hwf.overwriteWith_eq_error s pieces
  rw [hsource] at haccepted hrefused
  refine ⟨haccepted, ?_, ?_, ?_⟩
  · intro q hq
    obtain ⟨-, -, -, hadded⟩ := hwf.overwriteWith_eq_ok_iff.mp hq
    refine ⟨by rw [hserved, hq]; rfl, ?_, ?_, _, _, (splitEdits_append _ s).symm, ?_⟩
    · exact (source_overwriteWith hq).trans hsource
    · exact lead_overwriteWith hq
    · rw [hadded]
  · constructor
    · rintro ⟨bad, length, herror⟩
      rcases hrefused _ herror with ⟨_, hfault, -⟩ | ⟨-, e, -, heq⟩
      · exact hfault.not_fits
      · simp at heq
    · intro hunfit
      cases hresult : (reached source requests).overwriteWith s pieces with
      | ok q => exact absurd (haccepted.mp ⟨q, hresult⟩).1 hunfit
      | error error =>
          rcases hrefused _ hresult with ⟨bad, -, rfl⟩ | ⟨hfit, -⟩
          · exact ⟨bad, _, rfl⟩
          · exact absurd hfit hunfit
  · intro error herror
    refine ⟨?_, hrefused error herror⟩
    rw [hserved, herror]
    rfl

theorem mixedText_refused :
    FirstFault mixedText ⟨2, 10⟩ [.copied ⟨5, 9⟩, .copied ⟨1, 3⟩] ⟨1, 3⟩ ∧
      ∃ e, (reached mixedText mixedRequests).FirstMeeting ⟨2, 10⟩ e ∧ e.span = ⟨0, 4⟩ := by
  obtain ⟨hfault, hoverlap⟩ :
      (reached mixedText mixedRequests).overwriteWith ⟨2, 10⟩ [.copied ⟨5, 9⟩, .copied ⟨1, 3⟩] =
          .error (.badSpan ⟨1, 3⟩ 12) ∧
        (reached mixedText mixedRequests).overwriteWith ⟨2, 10⟩ [.copied ⟨5, 9⟩] =
          .error (.overlap ⟨0, 4⟩ ⟨2, 10⟩) := by
    decide +kernel
  constructor
  · obtain ⟨-, -, -, hrefused⟩ := reached_overwriteWith_decided mixedText mixedRequests ⟨2, 10⟩
      [.copied ⟨5, 9⟩, .copied ⟨1, 3⟩]
    rcases (hrefused _ hfault).2 with ⟨bad, hfirst, heq⟩ | ⟨-, e, -, heq⟩
    · obtain ⟨rfl, -⟩ := EditError.badSpan.inj heq
      exact hfirst
    · simp at heq
  · obtain ⟨-, -, -, hrefused⟩ := reached_overwriteWith_decided mixedText mixedRequests ⟨2, 10⟩
      [.copied ⟨5, 9⟩]
    rcases (hrefused _ hoverlap).2 with ⟨bad, -, heq⟩ | ⟨-, e, hmeets, heq⟩
    · simp at heq
    · exact ⟨e, hmeets, (EditError.overlap.inj heq).1.symm⟩

end Patch

end HandlerGuard
