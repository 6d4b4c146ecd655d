import HandlerGuard.Proofs.Patch.History

namespace HandlerGuard

namespace Patch

/-- An edit to be recorded, or text to be put in front. -/
inductive Change where
  | record (edit : Edit)
  | prepend (text : Text)
deriving DecidableEq, Repr

def Change.edit? : Change → Option Edit
  | record e => some e
  | prepend _ => none

def Change.lead? : Change → Option Text
  | record _ => none
  | prepend t => some t

def change (p : Patch) : Change → Except EditError Patch
  | .record e => p.overwriteWith e.span e.pieces
  | .prepend t => .ok (p.prepend t)

/-- The patch after some changes, from the first to the last, unless one of them is refused. -/
def changeAll (p : Patch) : List Change → Except EditError Patch
  | [] => .ok p
  | c :: rest => do
      let next ← p.change c
      next.changeAll rest

/-- The edits are sound, and neither two of them overlap nor one of them and a recorded edit. -/
structure Admits (p : Patch) (edits : List Edit) : Prop where
  covered : ∀ e ∈ edits, p.source.covers e.span = true
  fitting : ∀ e ∈ edits, PiecesFit p.source e.span e.pieces
  fresh : ∀ e ∈ edits, ∀ f ∈ p.edits, f.span.Apart e.span
  apart : edits.Pairwise fun a b => a.span.Apart b.span

theorem Admits.perm {p : Patch} {edits edits' : List Edit} (h : p.Admits edits)
    (hperm : edits.Perm edits') : p.Admits edits' where
  covered e he := h.covered e (hperm.mem_iff.mpr he)
  fitting e he := h.fitting e (hperm.mem_iff.mpr he)
  fresh e he := h.fresh e (hperm.mem_iff.mpr he)
  apart := hperm.pairwise h.apart Span.Apart.symm

theorem admits_prepend_iff {p : Patch} {t : Text} {edits : List Edit} :
    (p.prepend t).Admits edits ↔ p.Admits edits :=
  ⟨fun h => ⟨h.covered, h.fitting, h.fresh, h.apart⟩, fun h => ⟨h.covered, h.fitting, h.fresh, h.apart⟩⟩

theorem admits_cons_iff {p next : Patch} {e : Edit} {edits : List Edit}
    (hsource : next.source = p.source) (hedits : next.edits.Perm (e :: p.edits)) :
    p.Admits (e :: edits) ↔
      p.source.covers e.span = true ∧ PiecesFit p.source e.span e.pieces ∧
        (∀ f ∈ p.edits, f.span.Apart e.span) ∧ next.Admits edits := by
  constructor
  · rintro ⟨hcovered, hfitting, hfresh, hapart⟩
    obtain ⟨hfirst, hothers⟩ := List.pairwise_cons.mp hapart
    refine ⟨hcovered e (by simp), hfitting e (by simp), hfresh e (by simp), ?_, ?_, ?_, hothers⟩
    · intro f hf
      rw [hsource]
      exact hcovered f (List.mem_cons_of_mem _ hf)
    · intro f hf
      rw [hsource]
      exact hfitting f (List.mem_cons_of_mem _ hf)
    · intro f hf g hg
      rcases List.mem_cons.mp (hedits.mem_iff.mp hg) with rfl | hg
      · exact hfirst f hf
      · exact hfresh f (List.mem_cons_of_mem _ hf) g hg
  · rintro ⟨hcovers, hfit, hfree, hcovered, hfitting, hfresh, hapart⟩
    rw [hsource] at hcovered hfitting
    refine ⟨List.forall_mem_cons.mpr ⟨hcovers, hcovered⟩, List.forall_mem_cons.mpr ⟨hfit, hfitting⟩,
      List.forall_mem_cons.mpr ⟨hfree, ?_⟩, List.pairwise_cons.mpr ⟨?_, hapart⟩⟩
    · intro f hf g hg
      exact hfresh f hf g (hedits.mem_iff.mpr (List.mem_cons_of_mem _ hg))
    · intro f hf
      exact hfresh f hf e (hedits.mem_iff.mpr (by simp))

namespace WellFormed

variable {p q : Patch} {changes : List Change}

theorem exists_changeAll_iff (h : p.WellFormed) :
    (∃ q, p.changeAll changes = .ok q) ↔ p.Admits (changes.filterMap Change.edit?) := by
  induction changes generalizing p with
  | nil =>
      constructor
      · intro _
        exact ⟨by simp, by simp, by simp, List.Pairwise.nil⟩
      · intro _
        exact ⟨p, rfl⟩
  | cons c rest ih =>
      cases c with
      | prepend t => exact (ih (wellFormed_prepend h t)).trans admits_prepend_iff
      | record e =>
          constructor
          · rintro ⟨q, hq⟩
            obtain ⟨next, hnext, hq⟩ := bind_eq_ok_iff.mp hq
            obtain ⟨hcovers, hfit, hfree, -⟩ := h.overwriteWith_eq_ok_iff.mp hnext
            apply (admits_cons_iff (source_overwriteWith hnext) (edits_overwriteWith hnext)).mpr
            exact ⟨hcovers, hfit, hfree, (ih (h.overwriteWith hnext)).mp ⟨q, hq⟩⟩
          · intro hadmits
            have hnext := h.overwriteWith_eq_ok_iff.mpr ⟨hadmits.covered e (by simp [Change.edit?]),
              hadmits.fitting e (by simp [Change.edit?]), hadmits.fresh e (by simp [Change.edit?]), rfl⟩
            obtain ⟨-, -, -, hrest⟩ :=
              (admits_cons_iff (source_overwriteWith hnext) (edits_overwriteWith hnext)).mp hadmits
            obtain ⟨q, hq⟩ := (ih (h.overwriteWith hnext)).mpr hrest
            exact ⟨q, bind_eq_ok_iff.mpr ⟨_, hnext, hq⟩⟩

theorem changeAll (h : p.WellFormed) (hq : p.changeAll changes = .ok q) :
    q.WellFormed ∧ q.source = p.source ∧
      q.lead = (changes.filterMap Change.lead?).foldl (fun lead t => t ++ lead) p.lead ∧
      q.edits.Perm (changes.filterMap Change.edit? ++ p.edits) := by
  induction changes generalizing p with
  | nil =>
      obtain rfl := Except.ok.inj hq
      exact ⟨h, rfl, rfl, .rfl⟩
  | cons c rest ih =>
      cases c with
      | prepend t => exact ih (wellFormed_prepend h t) hq
      | record e =>
          obtain ⟨next, hnext, hq⟩ := bind_eq_ok_iff.mp hq
          obtain ⟨hwf, hsource, hlead, hedits⟩ := ih (h.overwriteWith hnext) hq
          refine ⟨hwf, hsource.trans (source_overwriteWith hnext), ?_, ?_⟩
          · rw [hlead, lead_overwriteWith hnext]
            rfl
          · calc
              q.edits.Perm (rest.filterMap Change.edit? ++ next.edits) := hedits
              List.Perm _ (rest.filterMap Change.edit? ++ e :: p.edits) :=
                (edits_overwriteWith hnext).append_left _
              List.Perm _ (e :: (rest.filterMap Change.edit? ++ p.edits)) := List.perm_middle

theorem edits_eq_of_perm (hp : p.WellFormed) (hq : q.WellFormed) (hperm : p.edits.Perm q.edits) :
    p.edits = q.edits := by
  apply hperm.eq_of_pairwise _ hp.ordered hq.ordered
  intro a b ha hb hab hba
  have hpos := hp.start_lt_stop ha
  have hpos' := hq.start_lt_stop hb
  omega

theorem changeAll_unique {q' : Patch} {changes' : List Change} (h : p.WellFormed)
    (hedits : (changes.filterMap Change.edit?).Perm (changes'.filterMap Change.edit?))
    (hleads : changes.filterMap Change.lead? = changes'.filterMap Change.lead?)
    (hq : p.changeAll changes = .ok q) (hq' : p.changeAll changes' = .ok q') : q = q' := by
  obtain ⟨hwf, hsource, hlead, hperm⟩ := h.changeAll hq
  obtain ⟨hwf', hsource', hlead', hperm'⟩ := h.changeAll hq'
  have hsame : q.edits = q'.edits :=
    hwf.edits_eq_of_perm hwf' (hperm.trans ((hedits.append_right _).trans hperm'.symm))
  rw [hleads] at hlead
  cases q
  cases q'
  simp_all

end WellFormed

/-- Edits that are recorded in another order, with the same texts put in front in their order at any time
in between, are all accepted if and only if they are in the first order. The edits, the segments and the
text that they lead to are the same. -/
theorem reached_changes_commute (source : Text) (requests : List Request)
    (changes changes' : List Change)
    (hedits : (changes.filterMap Change.edit?).Perm (changes'.filterMap Change.edit?))
    (hleads : changes.filterMap Change.lead? = changes'.filterMap Change.lead?) :
    ((∃ q, (reached source requests).changeAll changes = .ok q) ↔
        ∃ q, (reached source requests).changeAll changes' = .ok q) ∧
      ∀ q q', (reached source requests).changeAll changes = .ok q →
        (reached source requests).changeAll changes' = .ok q' →
          q.source = source ∧ q'.source = source ∧ q.lead = q'.lead ∧ q.edits = q'.edits ∧
            (∃ parts, q.segments = .ok parts ∧ q'.segments = .ok parts) ∧
            ∃ text, q.render = .ok text ∧ q'.render = .ok text := by
  have hwf := wellFormed_reached source requests
  constructor
  · rw [hwf.exists_changeAll_iff, hwf.exists_changeAll_iff]
    exact ⟨fun h => h.perm hedits, fun h => h.perm hedits.symm⟩
  · intro q q' hq hq'
    obtain rfl := hwf.changeAll_unique hedits hleads hq hq'
    obtain ⟨hfinal, hsource, -, -⟩ := hwf.changeAll hq
    rw [source_reached] at hsource
    exact ⟨hsource, hsource, rfl, rfl, ⟨_, hfinal.segments_eq, hfinal.segments_eq⟩,
      _, hfinal.render_eq, hfinal.render_eq⟩

/-- Changes of which the second edit stands in front of the first and touches it. -/
def mixedChanges : List Change :=
  [.record ⟨⟨4, 9⟩, [.inserted "é".toList, .copied ⟨5, 9⟩]⟩, .prepend "b".toList,
    .record ⟨⟨2, 4⟩, []⟩, .prepend "a".toList]

/-- The same changes with the edits in order and at the end. -/
def sortedChanges : List Change :=
  [.prepend "b".toList, .prepend "a".toList, .record ⟨⟨2, 4⟩, []⟩,
    .record ⟨⟨4, 9⟩, [.inserted "é".toList, .copied ⟨5, 9⟩]⟩]

theorem mixedChanges_commute : ∃ q q',
    (reached mixedText []).changeAll mixedChanges = .ok q ∧
      (reached mixedText []).changeAll sortedChanges = .ok q' ∧
      q.edits = q'.edits ∧ q'.render = .ok "ab#!é😀d\nc".toList := by
  have hrun : ∃ q, (reached mixedText []).changeAll mixedChanges = .ok q ∧
      q.render = .ok "ab#!é😀d\nc".toList := by
    refine ⟨⟨mixedText, "ab".toList, [⟨⟨2, 4⟩, []⟩,
      ⟨⟨4, 9⟩, [.inserted "é".toList, .copied ⟨5, 9⟩]⟩]⟩, ?_⟩
    decide +kernel
  obtain ⟨q, hq, hrender⟩ := hrun
  obtain ⟨haccepted, hsame⟩ := reached_changes_commute mixedText [] mixedChanges
    sortedChanges (.swap _ _ []) rfl
  obtain ⟨q', hq'⟩ := haccepted.mp ⟨q, hq⟩
  obtain ⟨-, -, -, hedits, -, text, htext, htext'⟩ := hsame q q' hq hq'
  exact ⟨q, q', hq, hq', hedits, htext'.trans (htext.symm.trans hrender)⟩

end Patch

end HandlerGuard
