import HandlerGuard.CallSite.Basic
import HandlerGuard.Proofs.Script.Path

namespace HandlerGuard.CallSite

open Script

/-- What is reported of a node itself. -/
def ofNode (name guard source : Text) (inside : Bool) : Tree → Option CallSite
  | .call span callee _ arguments optional =>
      if isTarget name callee optional then
        some
          { callee := name
            span
            argumentCount := arguments.length
            key := argumentSpan arguments[0]?
            handler := argumentSpan arguments[1]?
            status := classify source guard inside arguments }
      else none
  | _ => none

/-- Whether a part of a node stands in a guarded handler. -/
def insidePart (name guard source : Text) (inside : Bool) (t : Tree) (step : Step) : Bool :=
  inside || (decide (step = .argument 1) &&
    (ofNode name guard source inside t).any fun site => site.status.guardsHandler)

/-- Whether a path leads into a guarded handler. -/
def insideAt (name guard source : Text) : Bool → Tree → Path → Bool
  | inside, _, [] => inside
  | inside, t, step :: rest =>
      match t.part? step with
      | some part => insideAt name guard source (insidePart name guard source inside t step) part rest
      | none => inside

/-- What is reported of the node at a path. -/
def siteAt (name guard source : Text) (inside : Bool) (t : Tree) (path : Path) :
    Option CallSite :=
  (t.at? path).bind (ofNode name guard source (insideAt name guard source inside t path))

section

variable (name guard source : Text)

theorem ofTrees_eq {inside : Bool} {step : Nat → Step} {f : Step → Bool}
    (hf : ∀ index, f (step index) = inside) (trees : List Tree) :
    ofTrees name guard source inside trees =
      (indexed step trees).flatMap fun part => ofTree name guard source (f part.1) part.2 := by
  induction trees generalizing step with
  | nil => rfl
  | cons t rest ih =>
      have hrest := ih fun index => hf (index + 1)
      rw [ofTrees, indexed_cons, List.flatMap_cons, hrest, hf 0]

theorem ofArguments_eq {inside handlerInside : Bool} {f : Step → Bool}
    (hhandler : f (.argument 1) = handlerInside)
    (hothers : ∀ index, index ≠ 1 → f (.argument index) = inside) (trees : List Tree) :
    ofArguments name guard source inside handlerInside trees =
      (indexed .argument trees).flatMap fun part =>
        ofTree name guard source (f part.1) part.2 := by
  rcases trees with _ | ⟨key, _ | ⟨handler, rest⟩⟩
  · rfl
  · have hkey := hothers 0 (by decide)
    simp [ofArguments, indexed, hkey]
  · have hkey := hothers 0 (by decide)
    have hrest : ∀ index, f (.argument (index + 1 + 1)) = inside := by
      intro index
      exact hothers _ (by omega)
    rw [ofArguments, indexed_cons, indexed_cons, List.flatMap_cons, List.flatMap_cons,
      hkey, hhandler, ofTrees_eq name guard source hrest, List.append_assoc]

theorem insidePart_of_ne {inside : Bool} {t : Tree} {step : Step} (h : step ≠ .argument 1) :
    insidePart name guard source inside t step = inside := by
  simp [insidePart, h]

theorem ofTree_eq (inside : Bool) (t : Tree) :
    ofTree name guard source inside t =
      (ofNode name guard source inside t).toList ++ t.parts.flatMap fun part =>
        ofTree name guard source (insidePart name guard source inside t part.1) part.2 := by
  cases t with
  | identifier span found => simp [ofTree, ofNode, Tree.parts]
  | conditional span test consequent alternate =>
      simp [ofTree, ofNode, Tree.parts, insidePart]
  | spread span argument => simp [ofTree, ofNode, Tree.parts, insidePart]
  | node span kind children =>
      simp only [ofTree, ofNode, Tree.parts, Option.toList_none, List.nil_append]
      apply ofTrees_eq
      intro index
      exact insidePart_of_ne name guard source (by simp)
  | call span callee types arguments optional =>
      -- only in the second argument of a target call may the flag be another one
      have htypes : ∀ index, insidePart name guard source inside
          (.call span callee types arguments optional) (.typeArgument index) = inside :=
        fun index => insidePart_of_ne name guard source (by simp)
      have hcallee : insidePart name guard source inside
          (.call span callee types arguments optional) .callee = inside :=
        insidePart_of_ne name guard source (by simp)
      have hothers : ∀ index, index ≠ 1 → insidePart name guard source inside
          (.call span callee types arguments optional) (.argument index) = inside :=
        fun index hne => insidePart_of_ne name guard source (by simpa using hne)
      rw [ofTree, Tree.parts, List.flatMap_cons, List.flatMap_append, hcallee,
        ofTrees_eq name guard source htypes]
      by_cases htarget : isTarget name callee optional = true
      · have hhandler : insidePart name guard source inside
            (.call span callee types arguments optional) (.argument 1) =
              (inside || (classify source guard inside arguments).guardsHandler) := by
          simp [insidePart, ofNode, htarget]
        rw [if_pos htarget, ofNode, if_pos htarget]
        dsimp only
        rw [ofArguments_eq name guard source hhandler hothers]
        simp
      · have harguments : ∀ index, insidePart name guard source inside
            (.call span callee types arguments optional) (.argument index) = inside := by
          simp [insidePart, ofNode, htarget]
        rw [if_neg htarget, ofNode, if_neg htarget, ofTrees_eq name guard source harguments]
        simp

theorem siteAt_nil (inside : Bool) (t : Tree) :
    siteAt name guard source inside t [] = ofNode name guard source inside t := by
  simp [siteAt, insideAt]

theorem siteAt_cons {inside : Bool} {t part : Tree} {step : Step}
    (hpart : t.part? step = some part) (path : Path) :
    siteAt name guard source inside t (step :: path) =
      siteAt name guard source (insidePart name guard source inside t step) part path := by
  simp [siteAt, insideAt, Tree.at?_cons, hpart]

theorem ofTree_eq_filterMap (inside : Bool) (t : Tree) :
    ofTree name guard source inside t =
      t.paths.filterMap (siteAt name guard source inside t) := by
  induction t using Tree.part_induction generalizing inside with
  | step t ih =>
      have hparts : t.parts.flatMap (fun part =>
            ofTree name guard source (insidePart name guard source inside t part.1) part.2) =
          t.parts.flatMap fun part =>
            (part.2.paths.map (part.1 :: ·)).filterMap (siteAt name guard source inside t) := by
        apply List.flatMap_congr
        rintro ⟨step, part⟩ hmem
        have hpart := Tree.mem_parts_iff.mp hmem
        rw [ih step part hpart, List.filterMap_map]
        congr 1
        funext path
        exact (siteAt_cons name guard source hpart path).symm
      rw [ofTree_eq, hparts, Tree.paths_eq, List.filterMap_cons, siteAt_nil,
        List.filterMap_flatMap]
      cases ofNode name guard source inside t <;> rfl

theorem insideAt_concat (inside : Bool) {t part : Tree} {path : Path}
    (hpart : t.at? path = some part) (step : Step) (hstep : (part.part? step).isSome = true) :
    insideAt name guard source inside t (path ++ [step]) =
      (insideAt name guard source inside t path || (decide (step = .argument 1) &&
        (siteAt name guard source inside t path).any fun site => site.status.guardsHandler)) := by
  induction path generalizing t inside with
  | nil =>
      obtain rfl : t = part := by simpa using hpart
      obtain ⟨next, hnext⟩ := Option.isSome_iff_exists.mp hstep
      simp [insideAt, hnext, siteAt_nil, insidePart]
  | cons s path ih =>
      rw [Tree.at?_cons] at hpart
      obtain ⟨next, hnext, hpart⟩ := Option.bind_eq_some_iff.mp hpart
      rw [siteAt_cons name guard source hnext, List.cons_append]
      simp only [insideAt, hnext]
      exact ih (insidePart name guard source inside t s) hpart

theorem siteAt_eq_some_iff {inside : Bool} {t : Tree} {path : Path} {site : CallSite} :
    siteAt name guard source inside t path = some site ↔
      ∃ span callee types arguments optional,
        t.at? path = some (.call span callee types arguments optional) ∧
        isTarget name callee optional = true ∧
        site =
          { callee := name
            span
            argumentCount := arguments.length
            key := argumentSpan arguments[0]?
            handler := argumentSpan arguments[1]?
            status :=
              classify source guard (insideAt name guard source inside t path) arguments } := by
  rw [siteAt, Option.bind_eq_some_iff]
  constructor
  · rintro ⟨part, hpart, hsite⟩
    cases part with
    | call span callee types arguments optional =>
        simp only [ofNode] at hsite
        split at hsite
        · rename_i htarget
          exact ⟨span, callee, types, arguments, optional, hpart, htarget,
            (Option.some.inj hsite).symm⟩
        · simp at hsite
    | identifier span found => simp [ofNode] at hsite
    | conditional span test consequent alternate => simp [ofNode] at hsite
    | spread span argument => simp [ofNode] at hsite
    | node span kind children => simp [ofNode] at hsite
  · rintro ⟨span, callee, types, arguments, optional, hpart, htarget, rfl⟩
    exact ⟨_, hpart, by simp [ofNode, htarget]⟩

end

theorem classify_eq_insideGuardedHandler_iff {source guard : Text} {inside : Bool}
    {arguments : List Tree} :
    classify source guard inside arguments = .insideGuardedHandler ↔ inside = true := by
  unfold classify
  split
  · simp_all
  · split
    · split
      · simp_all
      · split <;> simp_all
    · simp_all

theorem isTarget_iff {name : Text} {callee : Tree} {optional : Bool} :
    isTarget name callee optional = true ↔
      optional = false ∧ ∃ span, callee = .identifier span name := by
  cases callee with
  | identifier span found => simp [isTarget]
  | call span callee types arguments optional => simp [isTarget]
  | conditional span test consequent alternate => simp [isTarget]
  | spread span argument => simp [isTarget]
  | node span kind children => simp [isTarget]

def isTargetNode (name : Text) : Tree → Bool
  | .call _ callee _ _ optional => isTarget name callee optional
  | _ => false

def targetCalls (name : Text) (t : Tree) : List Path :=
  t.paths.filter fun path => (t.at? path).any (isTargetNode name)

/-- The calls of the target in a module, each with what is reported of it. -/
def reports (target : Target) (source : Text) (program : Program) : List (Path × CallSite) :=
  (targetCalls target.functionName program.tree).zip (find target source program)

theorem isSome_siteAt (name guard source : Text) (inside : Bool) (t : Tree) (path : Path) :
    (siteAt name guard source inside t path).isSome = (t.at? path).any (isTargetNode name) := by
  rw [siteAt]
  cases t.at? path with
  | none => rfl
  | some part =>
      cases part with
      | call span callee types arguments optional =>
          simp only [Option.bind_some, ofNode, Option.any_some, isTargetNode]
          split <;> simp_all
      | identifier span found => rfl
      | conditional span test consequent alternate => rfl
      | spread span argument => rfl
      | node span kind children => rfl

theorem find_eq_filterMap (target : Target) (source : Text) (program : Program) :
    find target source program = program.tree.paths.filterMap
      (siteAt target.functionName target.guard.trim source false program.tree) :=
  ofTree_eq_filterMap target.functionName target.guard.trim source false program.tree

theorem mem_find_iff {target : Target} {source : Text} {program : Program} {site : CallSite} :
    site ∈ find target source program ↔
      ∃ path, siteAt target.functionName target.guard.trim source false program.tree path =
        some site := by
  rw [find_eq_filterMap, List.mem_filterMap]
  constructor
  · rintro ⟨path, -, hsite⟩
    exact ⟨path, hsite⟩
  · rintro ⟨path, hsite⟩
    obtain ⟨span, callee, types, arguments, optional, hpart, -⟩ :=
      (siteAt_eq_some_iff _ _ _).mp hsite
    exact ⟨path, Tree.mem_paths_iff.mpr (by simp [hpart]), hsite⟩

theorem zip_filter_filterMap {α β : Type} (f : α → Option β) (l : List α) :
    (l.filter fun a => (f a).isSome).zip (l.filterMap f) =
      l.filterMap fun a => (f a).map (a, ·) := by
  induction l with
  | nil => rfl
  | cons a l ih => cases h : f a <;> simp [h, ih]

theorem reports_eq (target : Target) (source : Text) (program : Program) :
    reports target source program = program.tree.paths.filterMap fun path =>
      (siteAt target.functionName target.guard.trim source false program.tree path).map
        (path, ·) := by
  rw [reports, find_eq_filterMap, targetCalls, ← zip_filter_filterMap]
  simp only [isSome_siteAt]

theorem length_targetCalls (target : Target) (source : Text) (program : Program) :
    (targetCalls target.functionName program.tree).length =
      (find target source program).length := by
  rw [targetCalls, find_eq_filterMap, List.length_filterMap_eq_countP, List.countP_eq_length_filter]
  simp only [isSome_siteAt]

theorem mem_reports_iff {target : Target} {source : Text} {program : Program} {path : Path}
    {site : CallSite} :
    (path, site) ∈ reports target source program ↔
      siteAt target.functionName target.guard.trim source false program.tree path =
        some site := by
  rw [reports_eq, List.mem_filterMap]
  constructor
  · rintro ⟨path', -, h⟩
    obtain ⟨site', hsite, heq⟩ := Option.map_eq_some_iff.mp h
    obtain ⟨rfl, rfl⟩ := Prod.mk.inj heq
    exact hsite
  · intro h
    obtain ⟨span, callee, types, arguments, optional, hpart, -⟩ :=
      (siteAt_eq_some_iff _ _ _).mp h
    refine ⟨path, Tree.mem_paths_iff.mpr (by simp [hpart]), ?_⟩
    rw [h]
    rfl

end HandlerGuard.CallSite
