import Mathlib.Data.List.Nodup
import HandlerGuard.Script.Program

/-!
Paths in syntax trees.

A node is identified by the way down to it, never by what it looks like: equal trees may stand in
several places. The paths of a tree are listed in the order in which a walk meets its nodes, a node
before its parts.
-/
namespace HandlerGuard.Script

/-- A step from a node down to one of its parts. -/
inductive Step where
  | callee
  | typeArgument (index : Nat)
  | argument (index : Nat)
  | test
  | consequent
  | alternate
  /-- From a spread element to what is spread. -/
  | operand
  | child (index : Nat)
deriving DecidableEq, Repr

/-- The steps from the root of a tree down to a node. -/
abbrev Path := List Step

/-- The trees of a list, each with the step that leads to it. -/
def indexed (step : Nat → Step) (trees : List Tree) : List (Step × Tree) :=
  trees.mapIdx fun index t => (step index, t)

theorem mem_indexed_iff {step : Nat → Step} {trees : List Tree} {s : Step} {t : Tree} :
    (s, t) ∈ indexed step trees ↔ ∃ index, s = step index ∧ trees[index]? = some t := by
  simp only [indexed, List.mem_mapIdx, Prod.mk.injEq]
  constructor
  · rintro ⟨index, hlt, rfl, rfl⟩
    exact ⟨index, rfl, List.getElem?_eq_getElem hlt⟩
  · rintro ⟨index, rfl, h⟩
    obtain ⟨hlt, rfl⟩ := List.getElem?_eq_some_iff.mp h
    exact ⟨index, hlt, rfl, rfl⟩

theorem indexed_cons (step : Nat → Step) (t : Tree) (rest : List Tree) :
    indexed step (t :: rest) = (step 0, t) :: indexed (fun index => step (index + 1)) rest := by
  simp [indexed, List.mapIdx_cons]

theorem nodup_indexed {step : Nat → Step} (hstep : Function.Injective step)
    (trees : List Tree) : ((indexed step trees).map Prod.fst).Nodup := by
  induction trees generalizing step with
  | nil => simp [indexed]
  | cons t rest ih =>
      rw [indexed_cons, List.map_cons, List.nodup_cons]
      constructor
      · intro hmem
        obtain ⟨⟨s, part⟩, hpart, hs⟩ := List.mem_map.mp hmem
        obtain ⟨index, rfl, -⟩ := mem_indexed_iff.mp hpart
        exact Nat.succ_ne_zero index (hstep hs)
      · exact ih (hstep.comp fun _ _ h => Nat.succ.inj h)

namespace Tree

/-- The parts of a node in the order they are visited. -/
def parts : Tree → List (Step × Tree)
  | identifier _ _ => []
  | call _ callee types arguments _ =>
      (.callee, callee) :: (indexed .typeArgument types ++ indexed .argument arguments)
  | conditional _ test consequent alternate =>
      [(.test, test), (.consequent, consequent), (.alternate, alternate)]
  | spread _ argument => [(.operand, argument)]
  | node _ _ children => indexed .child children

def part? : Tree → Step → Option Tree
  | call _ callee _ _ _, .callee => some callee
  | call _ _ types _ _, .typeArgument index => types[index]?
  | call _ _ _ arguments _, .argument index => arguments[index]?
  | conditional _ test _ _, .test => some test
  | conditional _ _ consequent _, .consequent => some consequent
  | conditional _ _ _ alternate, .alternate => some alternate
  | spread _ argument, .operand => some argument
  | node _ _ children, .child index => children[index]?
  | _, _ => none

def at? : Tree → Path → Option Tree
  | t, [] => some t
  | t, step :: rest => (t.part? step).bind fun part => at? part rest

mutual

/-- The paths of a tree, each before those of the node's parts. -/
def paths : Tree → List Path
  | identifier _ _ => [[]]
  | call _ callee types arguments _ =>
      [] :: ((paths callee).map (.callee :: ·) ++ (pathsOf .typeArgument types ++
        pathsOf .argument arguments))
  | conditional _ test consequent alternate =>
      [] :: ((paths test).map (.test :: ·) ++ ((paths consequent).map (.consequent :: ·) ++
        (paths alternate).map (.alternate :: ·)))
  | spread _ argument => [] :: (paths argument).map (.operand :: ·)
  | node _ _ children => [] :: pathsOf .child children

/-- The paths of the trees of a list, the first of which the step of 0 leads to. -/
def pathsOf (step : Nat → Step) : List Tree → List Path
  | [] => []
  | t :: rest => (paths t).map (step 0 :: ·) ++ pathsOf (fun index => step (index + 1)) rest

end

theorem mem_parts_iff {t part : Tree} {s : Step} :
    (s, part) ∈ t.parts ↔ t.part? s = some part := by
  cases t with
  | identifier span name => simp [parts, part?]
  | call span callee types arguments optional =>
      simp only [parts, List.mem_cons, List.mem_append, mem_indexed_iff]
      cases s <;> simp [part?, eq_comm]
  | conditional span test consequent alternate =>
      cases s <;> simp [parts, part?, eq_comm]
  | spread span argument => cases s <;> simp [parts, part?, eq_comm]
  | node span kind children =>
      simp only [parts, mem_indexed_iff]
      cases s <;> simp [part?]

theorem pathsOf_eq (step : Nat → Step) (trees : List Tree) :
    pathsOf step trees =
      (indexed step trees).flatMap fun part => part.2.paths.map (part.1 :: ·) := by
  induction trees generalizing step with
  | nil => simp [pathsOf, indexed]
  | cons t rest ih => rw [pathsOf, indexed_cons, List.flatMap_cons, ih]

theorem paths_eq (t : Tree) :
    t.paths = [] :: t.parts.flatMap fun part => part.2.paths.map (part.1 :: ·) := by
  cases t with
  | identifier span name => simp [paths, parts]
  | call span callee types arguments optional => simp [paths, parts, pathsOf_eq]
  | conditional span test consequent alternate => simp [paths, parts]
  | spread span argument => simp [paths, parts]
  | node span kind children => simp [paths, parts, pathsOf_eq]

theorem sizeOf_lt_of_getElem? {trees : List Tree} {part : Tree} {index : Nat}
    (h : trees[index]? = some part) : sizeOf part < sizeOf trees :=
  List.sizeOf_lt_of_mem (List.mem_of_getElem? h)

theorem sizeOf_lt_of_part? {t part : Tree} {s : Step} (h : t.part? s = some part) :
    sizeOf part < sizeOf t := by
  rw [← mem_parts_iff] at h
  cases t with
  | identifier span name => simp [parts] at h
  | call span callee types arguments optional =>
      simp only [parts, List.mem_cons, List.mem_append, mem_indexed_iff, Prod.mk.injEq] at h
      rcases h with ⟨-, rfl⟩ | ⟨index, -, h⟩ | ⟨index, -, h⟩
      · simp only [call.sizeOf_spec]
        omega
      · have := sizeOf_lt_of_getElem? h
        simp only [call.sizeOf_spec]
        omega
      · have := sizeOf_lt_of_getElem? h
        simp only [call.sizeOf_spec]
        omega
  | conditional span test consequent alternate =>
      simp only [parts, List.mem_cons, Prod.mk.injEq, List.not_mem_nil, or_false] at h
      rcases h with ⟨-, rfl⟩ | ⟨-, rfl⟩ | ⟨-, rfl⟩ <;> simp only [conditional.sizeOf_spec] <;> omega
  | spread span argument =>
      simp only [parts, List.mem_singleton, Prod.mk.injEq] at h
      obtain ⟨-, rfl⟩ := h
      simp only [spread.sizeOf_spec]
      omega
  | node span kind children =>
      simp only [parts, mem_indexed_iff] at h
      obtain ⟨index, -, h⟩ := h
      have := sizeOf_lt_of_getElem? h
      simp only [node.sizeOf_spec]
      omega

@[elab_as_elim]
theorem part_induction {motive : Tree → Prop}
    (step : ∀ t, (∀ s part, t.part? s = some part → motive part) → motive t) (t : Tree) :
    motive t := by
  induction hsize : sizeOf t using Nat.strongRecOn generalizing t with
  | ind n ih =>
      apply step
      intro s part hpart
      exact ih (sizeOf part) (hsize ▸ sizeOf_lt_of_part? hpart) part rfl

@[simp] theorem at?_nil (t : Tree) : t.at? [] = some t := by
  simp [at?]

theorem at?_cons (t : Tree) (s : Step) (path : Path) :
    t.at? (s :: path) = (t.part? s).bind (·.at? path) := by
  simp [at?]

theorem at?_append (t : Tree) (p q : Path) :
    t.at? (p ++ q) = (t.at? p).bind (·.at? q) := by
  induction p generalizing t with
  | nil => simp
  | cons s p ih =>
      rw [List.cons_append, at?_cons, at?_cons]
      cases t.part? s with
      | none => rfl
      | some part => exact ih part

theorem at?_concat {t part : Tree} {p : Path} (h : t.at? p = some part) (s : Step) :
    t.at? (p ++ [s]) = part.part? s := by
  rw [at?_append, h, Option.bind_some, at?_cons]
  cases part.part? s <;> simp

theorem exists_of_isSome_at?_concat {t : Tree} {p : Path} {s : Step}
    (h : (t.at? (p ++ [s])).isSome = true) :
    ∃ part, t.at? p = some part ∧ (part.part? s).isSome = true := by
  cases hpart : t.at? p with
  | none => simp [at?_append, hpart] at h
  | some part => exact ⟨part, rfl, by rwa [at?_concat hpart] at h⟩

theorem mem_paths_iff {t : Tree} {path : Path} : path ∈ t.paths ↔ (t.at? path).isSome = true := by
  induction t using part_induction generalizing path with
  | step t ih =>
      rw [paths_eq]
      cases path with
      | nil => simp
      | cons s path =>
          simp only [List.mem_cons, reduceCtorEq, false_or, List.mem_flatMap, List.mem_map,
            List.cons.injEq, Prod.exists]
          rw [at?_cons]
          constructor
          · rintro ⟨s', part, hmem, path', hpath, rfl, rfl⟩
            have hpart := mem_parts_iff.mp hmem
            rw [hpart, Option.bind_some]
            exact (ih s' part hpart).mp hpath
          · intro h
            cases hpart : t.part? s with
            | none => simp [hpart] at h
            | some part =>
                rw [hpart, Option.bind_some] at h
                exact ⟨s, part, mem_parts_iff.mpr hpart, path, (ih s part hpart).mpr h, rfl, rfl⟩

theorem nodup_parts (t : Tree) : (t.parts.map Prod.fst).Nodup := by
  cases t with
  | identifier span name => simp [parts]
  | call span callee types arguments optional =>
      have htypes := nodup_indexed (fun _ _ h => Step.typeArgument.inj h) types
      have harguments := nodup_indexed (fun _ _ h => Step.argument.inj h) arguments
      simp only [parts, List.map_cons, List.map_append, List.nodup_cons, List.nodup_append]
      refine ⟨?_, htypes, harguments, ?_⟩
      · simp [indexed]
      · simp [indexed]
  | conditional span test consequent alternate => simp [parts]
  | spread span argument => simp [parts]
  | node span kind children =>
      exact nodup_indexed (fun _ _ h => Step.child.inj h) children

theorem nodup_paths (t : Tree) : t.paths.Nodup := by
  induction t using part_induction with
  | step t ih =>
      rw [paths_eq, List.nodup_cons]
      constructor
      · simp
      · rw [List.nodup_flatMap]
        constructor
        · rintro ⟨s, part⟩ hmem
          exact (ih s part (mem_parts_iff.mp hmem)).map (List.cons_injective)
        · have hparts := List.pairwise_map.mp (nodup_parts t)
          refine hparts.imp ?_
          rintro ⟨s, part⟩ ⟨s', part'⟩ hne path hpath hpath'
          obtain ⟨p, -, rfl⟩ := List.mem_map.mp hpath
          obtain ⟨p', -, heq⟩ := List.mem_map.mp hpath'
          exact hne (List.cons.inj heq).1.symm

mutual

def same : Tree → Tree → Bool
  | identifier span name, identifier span' name' => decide (span = span') && decide (name = name')
  | call span callee types arguments optional, call span' callee' types' arguments' optional' =>
      decide (span = span') && same callee callee' && sameAll types types' &&
        sameAll arguments arguments' && decide (optional = optional')
  | conditional span test consequent alternate, conditional span' test' consequent' alternate' =>
      decide (span = span') && same test test' && same consequent consequent' &&
        same alternate alternate'
  | spread span argument, spread span' argument' => decide (span = span') && same argument argument'
  | node span kind children, node span' kind' children' =>
      decide (span = span') && decide (kind = kind') && sameAll children children'
  | _, _ => false

def sameAll : List Tree → List Tree → Bool
  | [], [] => true
  | t :: rest, t' :: rest' => same t t' && sameAll rest rest'
  | _, _ => false

end

theorem eq_of_sameAll_of_forall {trees trees' : List Tree}
    (hsame : ∀ t ∈ trees, ∀ t', same t t' = true → t = t') (h : sameAll trees trees' = true) :
    trees = trees' := by
  induction trees generalizing trees' with
  | nil =>
      cases trees' with
      | nil => rfl
      | cons t' rest' => simp [sameAll] at h
  | cons t rest ih =>
      cases trees' with
      | nil => simp [sameAll] at h
      | cons t' rest' =>
          obtain ⟨hfirst, hrest⟩ := Bool.and_eq_true_iff.mp h
          rw [hsame t (by simp) t' hfirst,
            ih (fun s hs => hsame s (List.mem_cons_of_mem _ hs)) hrest]

theorem eq_of_same {t t' : Tree} (h : same t t' = true) : t = t' := by
  induction t using part_induction generalizing t' with
  | step t ih =>
      have hlist : ∀ (trees : List Tree) (step : Nat → Step),
          (∀ index part, trees[index]? = some part → t.part? (step index) = some part) →
            ∀ part ∈ trees, ∀ part', same part part' = true → part = part' := by
        intro trees step hparts part hpart part' hsame
        obtain ⟨index, hindex⟩ := List.getElem?_of_mem hpart
        exact ih (step index) part (hparts index part hindex) hsame
      cases t with
      | identifier span name =>
          cases t' with
          | identifier span' name' =>
              obtain ⟨rfl, rfl⟩ : span = span' ∧ name = name' := by simpa [same] using h
              rfl
          | _ => simp [same] at h
      | call span callee types arguments optional =>
          cases t' with
          | call span' callee' types' arguments' optional' =>
              simp only [same, Bool.and_eq_true, decide_eq_true_eq] at h
              obtain ⟨⟨⟨⟨rfl, hcallee⟩, htypes⟩, harguments⟩, rfl⟩ := h
              rw [ih .callee callee rfl hcallee,
                eq_of_sameAll_of_forall (hlist types .typeArgument fun _ _ hat => hat) htypes,
                eq_of_sameAll_of_forall (hlist arguments .argument fun _ _ hat => hat) harguments]
          | _ => simp [same] at h
      | conditional span test consequent alternate =>
          cases t' with
          | conditional span' test' consequent' alternate' =>
              simp only [same, Bool.and_eq_true, decide_eq_true_eq] at h
              obtain ⟨⟨⟨rfl, htest⟩, hconsequent⟩, halternate⟩ := h
              rw [ih .test test rfl htest, ih .consequent consequent rfl hconsequent,
                ih .alternate alternate rfl halternate]
          | _ => simp [same] at h
      | spread span argument =>
          cases t' with
          | spread span' argument' =>
              simp only [same, Bool.and_eq_true, decide_eq_true_eq] at h
              obtain ⟨rfl, hargument⟩ := h
              rw [ih .operand argument rfl hargument]
          | _ => simp [same] at h
      | node span kind children =>
          cases t' with
          | node span' kind' children' =>
              simp only [same, Bool.and_eq_true, decide_eq_true_eq] at h
              obtain ⟨⟨rfl, rfl⟩, hchildren⟩ := h
              rw [eq_of_sameAll_of_forall (hlist children .child fun _ _ hat => hat) hchildren]
          | _ => simp [same] at h

theorem eq_of_sameAll {trees trees' : List Tree} (h : sameAll trees trees' = true) :
    trees = trees' :=
  eq_of_sameAll_of_forall (fun _ _ _ => eq_of_same) h

end Tree

def Program.tree (program : Program) : Tree := .node default .part program.statements

end HandlerGuard.Script
