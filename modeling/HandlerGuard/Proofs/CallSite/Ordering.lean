import Mathlib.Data.List.Forall2
import HandlerGuard.Proofs.CallSite.Placement

namespace HandlerGuard

open Script

namespace Script

namespace Chained

variable {α : Type} {R S : Nat → Nat → α → Prop} {lo hi : Nat} {as : List α}

theorem imp_of_mem (h : Chained R lo hi as) (himp : ∀ a ∈ as, ∀ lo hi, R lo hi a → S lo hi a) :
    Chained S lo hi as := by
  induction h with
  | nil hle => exact nil hle
  | cons hle head tail ih =>
      obtain ⟨hfirst, hothers⟩ := List.forall_mem_cons.mp himp
      exact cons hle (hfirst _ _ head) (ih hothers)

theorem of_forall (hle : lo ≤ hi) (h : ∀ a ∈ as, R lo lo a) : Chained R lo hi as := by
  induction as with
  | nil => exact nil hle
  | cons a as ih =>
      obtain ⟨hfirst, hothers⟩ := List.forall_mem_cons.mp h
      exact cons le_rfl hfirst (ih hothers)

end Chained

namespace Tree

theorem pairwise_paths (t : Tree) : t.paths.Pairwise fun outer inner => ¬inner <+: outer := by
  induction t using part_induction with
  | step t ih =>
      rw [paths_eq, List.pairwise_cons]
      constructor
      · intro path hpath
        obtain ⟨part, -, hpath⟩ := List.mem_flatMap.mp hpath
        obtain ⟨rest, -, rfl⟩ := List.mem_map.mp hpath
        simp
      · rw [List.pairwise_flatMap]
        constructor
        · rintro ⟨step, part⟩ hmem
          rw [List.pairwise_map]
          refine (ih step part (mem_parts_iff.mp hmem)).imp ?_
          intro outer inner hnot
          simpa [List.cons_prefix_cons] using hnot
        · refine (List.pairwise_map.mp (nodup_parts t)).imp ?_
          rintro ⟨step, part⟩ ⟨step', part'⟩ hne outer houter inner hinner hbelow
          obtain ⟨rest, -, rfl⟩ := List.mem_map.mp houter
          obtain ⟨rest', -, rfl⟩ := List.mem_map.mp hinner
          exact hne (List.cons_prefix_cons.mp hbelow).1.symm

end Tree

end Script

namespace CallSite

theorem mem_targetCalls_iff {name : Text} {t : Tree} {path : Path} :
    path ∈ targetCalls name t ↔
      ∃ span calleeSpan types arguments,
        t.at? path = some (.call span (.identifier calleeSpan name) types arguments false) := by
  rw [targetCalls, List.mem_filter, Tree.mem_paths_iff]
  constructor
  · rintro ⟨-, hany⟩
    obtain ⟨part, hpart, htarget⟩ := (Option.any_eq_true _ _).mp hany
    cases part with
    | call span callee types arguments optional =>
        obtain ⟨rfl, calleeSpan, rfl⟩ := isTarget_iff.mp htarget
        exact ⟨span, calleeSpan, types, arguments, hpart⟩
    | identifier span found => simp [isTargetNode] at htarget
    | conditional span test consequent alternate => simp [isTargetNode] at htarget
    | spread span argument => simp [isTargetNode] at htarget
    | node span kind children => simp [isTargetNode] at htarget
  · rintro ⟨span, calleeSpan, types, arguments, hpart⟩
    have htarget : isTarget name (.identifier calleeSpan name) false = true :=
      isTarget_iff.mpr ⟨rfl, calleeSpan, rfl⟩
    simp [hpart, isTargetNode, htarget]

/-- What is told of an argument: nothing exactly if it is missing or a spread element, and else its
range. -/
def TellsArgument (argument : Option Tree) (range : Option Span) : Prop :=
  (range = none ↔ argument = none ∨ ∃ span operand, argument = some (.spread span operand)) ∧
    ∀ a s, argument = some a → range = some s → s = a.span

theorem tellsArgument_argumentSpan (argument : Option Tree) :
    TellsArgument argument (argumentSpan argument) := by
  cases argument with
  | none => simp [TellsArgument, argumentSpan]
  | some a => cases a <;> simp [TellsArgument, argumentSpan, Tree.span]

def TellsCall (name : Text) (t : Tree) (path : Path) (site : CallSite) : Prop :=
  ∃ calleeSpan types arguments,
    t.at? path = some (.call site.span (.identifier calleeSpan name) types arguments false) ∧
      site.callee = name ∧ site.argumentCount = arguments.length ∧
      TellsArgument arguments[0]? site.key ∧ TellsArgument arguments[1]? site.handler

theorem tellsCall_of_siteAt {name guard source : Text} {inside : Bool} {t : Tree} {path : Path}
    {site : CallSite} (h : siteAt name guard source inside t path = some site) :
    TellsCall name t path site := by
  obtain ⟨span, callee, types, arguments, optional, hpart, htarget, rfl⟩ :=
    (siteAt_eq_some_iff name guard source).mp h
  obtain ⟨rfl, calleeSpan, rfl⟩ := isTarget_iff.mp htarget
  exact ⟨calleeSpan, types, arguments, hpart, rfl, rfl, tellsArgument_argumentSpan _,
    tellsArgument_argumentSpan _⟩

/-- The calls begin one behind the other between two places. -/
def StartInOrder (lo hi : Nat) (sites : List CallSite) : Prop :=
  (sites.Pairwise fun a b => a.span.start ≤ b.span.start) ∧
    ∀ site ∈ sites, lo ≤ site.span.start ∧ site.span.start ≤ hi

theorem startInOrder_flatMap {α : Type} {f : α → List CallSite} {lo hi : Nat} {as : List α}
    (h : Chained (fun lo hi a => StartInOrder lo hi (f a)) lo hi as) :
    StartInOrder lo hi (as.flatMap f) := by
  induction h with
  | nil hle => exact ⟨List.Pairwise.nil, by simp⟩
  | cons hle head tail ih =>
      obtain ⟨hhead, hbounds⟩ := head
      obtain ⟨htail, hbounds'⟩ := ih
      have hend := tail.le
      rw [List.flatMap_cons]
      constructor
      · refine List.pairwise_append.mpr ⟨hhead, htail, ?_⟩
        intro a ha b hb
        exact (hbounds a ha).2.trans (hbounds' b hb).1
      · intro site hsite
        rcases List.mem_append.mp hsite with hsite | hsite
        · have := hbounds site hsite
          omega
        · have := hbounds' site hsite
          omega

/-- The calls of the named function in a tree stand between two places, part by part in the order in which
the parts are visited, and those inside a call not before the place where it begins. Where a tree without
such calls stands does not matter. -/
inductive InOrder (name : Text) : Nat → Nat → Tree → Prop where
  | free {lo hi : Nat} {t : Tree} (hfree : ∀ path, path ∉ targetCalls name t) : InOrder name lo hi t
  | node {lo hi first last : Nat} {t : Tree} (hfirst : lo ≤ first) (hlast : last ≤ hi)
      (hcall : t.isCall = true → lo ≤ t.span.start ∧ t.span.start ≤ first)
      (hparts : Chained (fun lo hi part => InOrder name lo hi part.2) first last t.parts) :
      InOrder name lo hi t

section

variable {name guard source : Text} {t : Tree} {lo hi : Nat}

theorem isCall_of_ofNode {inside : Bool} {site : CallSite}
    (h : ofNode name guard source inside t = some site) :
    t.isCall = true ∧ site.span = t.span := by
  rw [← siteAt_nil] at h
  obtain ⟨span, callee, types, arguments, optional, hat, -, rfl⟩ :=
    (siteAt_eq_some_iff name guard source).mp h
  rw [Tree.at?_nil] at hat
  obtain rfl := Option.some.inj hat
  exact ⟨rfl, rfl⟩

theorem ofTree_eq_nil {inside : Bool} (h : ∀ path, path ∉ targetCalls name t) :
    ofTree name guard source inside t = [] := by
  rw [ofTree_eq_filterMap, List.filterMap_eq_nil_iff]
  intro path hpath
  have hnone := isSome_siteAt name guard source inside t path
  have hany : (t.at? path).any (isTargetNode name) = false := by
    by_contra hany
    exact h path (List.mem_filter.mpr ⟨hpath, by simpa using hany⟩)
  rw [hany] at hnone
  simpa using hnone

theorem startInOrder_ofTree {inside : Bool} {first last : Nat} (hfirst : lo ≤ first)
    (hlast : last ≤ hi) (hcall : t.isCall = true → lo ≤ t.span.start ∧ t.span.start ≤ first)
    (hparts : Chained (fun lo hi part => StartInOrder lo hi
        (ofTree name guard source (insidePart name guard source inside t part.1) part.2))
      first last t.parts) :
    StartInOrder lo hi (ofTree name guard source inside t) := by
  have hbetween := hparts.le
  obtain ⟨hothers, hbounds⟩ := startInOrder_flatMap hparts
  rw [ofTree_eq]
  cases hnode : ofNode name guard source inside t with
  | none =>
      refine ⟨hothers, ?_⟩
      intro site hsite
      have := hbounds site hsite
      omega
  | some found =>
      obtain ⟨hkind, hspan⟩ := isCall_of_ofNode hnode
      have hstart := hcall hkind
      rw [← hspan] at hstart
      constructor
      · refine List.pairwise_cons.mpr ⟨?_, hothers⟩
        intro site hsite
        exact hstart.2.trans (hbounds site hsite).1
      · intro site hsite
        rcases List.mem_cons.mp hsite with rfl | hsite
        · omega
        · have := hbounds site hsite
          omega

theorem InOrder.startInOrder (h : InOrder name lo hi t) (inside : Bool) :
    StartInOrder lo hi (ofTree name guard source inside t) := by
  induction t using Tree.part_induction generalizing lo hi inside with
  | step t ih =>
      cases h with
      | free hfree =>
          rw [ofTree_eq_nil hfree]
          exact ⟨List.Pairwise.nil, by simp⟩
      | node hfirst hlast hcall hparts =>
          apply startInOrder_ofTree hfirst hlast hcall
          apply hparts.imp_of_mem
          rintro ⟨step, part⟩ hmem lo hi horder
          exact ih step part (Tree.mem_parts_iff.mp hmem) horder _

end

/-- A call of the named function inside an assertion stands in the expression, not in the type. -/
def OutsideTypes (name : Text) (t : Tree) : Prop :=
  ∀ p ∈ targetCalls name t, ∀ q ∈ t.paths, (t.at? q).any (·.hasKind .assertion) = true →
    q <+: p → q ++ [.child 0] <+: p

instance (name : Text) (t : Tree) : Decidable (OutsideTypes name t) :=
  inferInstanceAs (Decidable (∀ p ∈ _, ∀ q ∈ _, _ → _ → _))

section

variable {name source : Text} {t part : Tree} {step : Step}

theorem cons_mem_targetCalls_iff {path : Path} (hpart : t.part? step = some part) :
    step :: path ∈ targetCalls name t ↔ path ∈ targetCalls name part := by
  simp only [mem_targetCalls_iff, Tree.at?_cons, hpart, Option.bind_some]

theorem OutsideTypes.of_part? (h : OutsideTypes name t) (hpart : t.part? step = some part) :
    OutsideTypes name part := by
  intro p hp q hq hkind hbelow
  have hat : t.at? (step :: q) = part.at? q := by
    rw [Tree.at?_cons, hpart, Option.bind_some]
  have hfront := h (step :: p) ((cons_mem_targetCalls_iff hpart).mpr hp) (step :: q)
    (Tree.mem_paths_iff.mpr (hat ▸ Tree.mem_paths_iff.mp hq)) (hat ▸ hkind)
    (List.cons_prefix_cons.mpr ⟨rfl, hbelow⟩)
  exact (List.cons_prefix_cons.mp hfront).2

theorem OutsideTypes.free_of_assertion (h : OutsideTypes name t)
    (hkind : t.hasKind .assertion = true) (hpart : t.part? step = some part)
    (hstep : step ≠ .child 0) (path : Path) : path ∉ targetCalls name part := by
  intro hpath
  have hfront := h (step :: path) ((cons_mem_targetCalls_iff hpart).mpr hpath) []
    (Tree.mem_paths_iff.mpr (by simp)) (by simpa using hkind) List.nil_prefix
  exact hstep (List.cons_prefix_cons.mp hfront).1.symm

theorem OutsideTypes.inOrder_of_assertion (houtside : OutsideTypes name t)
    (hkind : t.hasKind .assertion = true) {lo hi : Nat} (hle : lo ≤ hi)
    (hparts : ∀ step part, t.part? step = some part → InOrder name lo hi part) :
    InOrder name lo hi t := by
  cases t with
  | identifier span found => simp [Tree.hasKind] at hkind
  | call span callee types arguments optional => simp [Tree.hasKind] at hkind
  | conditional span test consequent alternate => simp [Tree.hasKind] at hkind
  | spread span argument => simp [Tree.hasKind] at hkind
  | node span kind children =>
      apply InOrder.node le_rfl le_rfl (by simp [Tree.isCall])
      cases children with
      | nil => exact .nil hle
      | cons value types =>
          rw [Tree.parts, indexed_cons]
          refine .cons hle (hparts (.child 0) value rfl) (.of_forall le_rfl ?_)
          -- the types may stand in front of the value, but they are free of calls
          rintro ⟨step, type⟩ htype
          obtain ⟨index, rfl, hat⟩ := mem_indexed_iff.mp htype
          have hpart : (Script.Tree.node span kind (value :: types)).part? (.child (index + 1)) =
              some type := by
            rw [Tree.part?, List.getElem?_cons_succ, hat]
          exact .free (houtside.free_of_assertion hkind hpart (by simp))

theorem OutsideTypes.inOrder_of_lies {lo hi : Nat} (houtside : OutsideTypes name t)
    (h : t.Lies source lo hi) : InOrder name lo hi t := by
  induction t using Tree.part_induction generalizing lo hi with
  | step t ih =>
      cases hkind : t.hasKind .assertion with
      | true =>
          apply houtside.inOrder_of_assertion hkind h.le
          intro step part hpart
          obtain ⟨m, n, hm, hn, hlies⟩ := h.exists_of_part? hpart
          exact ih step part hpart (houtside.of_part? hpart) (hlies.widen hm hn)
      | false =>
          obtain ⟨order, hfirst, hlast, hstart, -, -, hrange, -, horder, hparts⟩ := h
          rw [horder hkind] at hparts
          refine .node hfirst hlast (fun hcall => ⟨hstart, (hrange hcall).1⟩) (hparts.imp_of_mem ?_)
          rintro ⟨step, part⟩ hmem lo hi hlies
          have hpart := Tree.mem_parts_iff.mp hmem
          exact ih step part hpart (houtside.of_part? hpart) hlies

end

/-- Every call of the function is reported once and nothing else is, a call before those inside it, with
the number of its arguments and the ranges of the first two unless they are missing or spread elements. The
calls begin one behind the other if the parts of the tree are visited in the order in which they stand in
the text. In a module that was read from its text this is so unless a call stands in the type of an
assertion. -/
theorem calls_found_in_order (target : Target) (source : Text) (program : Program) :
    ∃ paths : List Path,
      (∀ path, path ∈ paths ↔ ∃ span calleeSpan types arguments, program.tree.at? path =
        some (.call span (.identifier calleeSpan target.functionName) types arguments false)) ∧
      paths.Nodup ∧
      (paths.Pairwise fun outer inner => ¬inner <+: outer) ∧
      List.Forall₂ (TellsCall target.functionName program.tree) paths
        (find target source program) ∧
      (∀ lo hi, InOrder target.functionName lo hi program.tree →
        (find target source program).Pairwise fun a b => a.span.start ≤ b.span.start) ∧
      ∀ language, Program.parse? language source = some program →
        OutsideTypes target.functionName program.tree →
          ∃ hi, InOrder target.functionName 0 hi program.tree := by
  refine ⟨targetCalls target.functionName program.tree, fun _ => mem_targetCalls_iff,
    (Tree.nodup_paths program.tree).filter _, (Tree.pairwise_paths program.tree).filter _, ?_, ?_, ?_⟩
  · refine List.forall₂_iff_zip.mpr ⟨length_targetCalls target source program, ?_⟩
    intro path site hreport
    exact tellsCall_of_siteAt (mem_reports_iff.mp hreport)
  · intro lo hi horder
    exact (horder.startInOrder false).1
  · intro language hparse houtside
    obtain ⟨hi, hlies⟩ := Program.lies_of_parse? hparse
    exact ⟨hi, houtside.inOrder_of_lies hlies⟩

/-- A module with a call in an assertion in the key of another, and one with a spread key. -/
def assertedText : Text :=
  ("usePrerenderData(usePrerenderData('é', f) as K, () => g)\n" ++
    "x ? usePrerenderData<T>(...k, h) : usePrerenderData()").toList

set_option maxRecDepth 10000 in
theorem assertedText_in_order : ∃ (program : Program) (paths : List Path),
    Program.parse? .ts assertedText = some program ∧
      OutsideTypes Target.standard.functionName program.tree ∧ paths.length = 4 ∧ paths.Nodup ∧
      List.Forall₂ (TellsCall Target.standard.functionName program.tree) paths
        (find Target.standard assertedText program) ∧
      (find Target.standard assertedText program).Pairwise fun a b => a.span.start ≤ b.span.start := by
  have hrun : ((Program.parse? .ts assertedText).any fun program =>
      decide (OutsideTypes Target.standard.functionName program.tree) &&
        decide ((find Target.standard assertedText program).length = 4)) = true := by
    decide +kernel
  obtain ⟨program, hparse, hrun⟩ := (Option.any_eq_true _ _).mp hrun
  obtain ⟨houtside, hlength⟩ := Bool.and_eq_true_iff.mp hrun
  have houtside := of_decide_eq_true houtside
  obtain ⟨paths, -, hnodup, -, htells, hsorted, horder⟩ :=
    calls_found_in_order Target.standard assertedText program
  obtain ⟨hi, horder⟩ := horder .ts hparse houtside
  exact ⟨program, paths, hparse, houtside, htells.length_eq.trans (of_decide_eq_true hlength), hnodup,
    htells, hsorted 0 hi horder⟩

end CallSite

end HandlerGuard
