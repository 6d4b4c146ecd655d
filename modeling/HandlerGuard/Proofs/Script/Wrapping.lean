import HandlerGuard.Proofs.Script.Path

namespace HandlerGuard.Script

/-- Where the nodes of a rewritten tree stand, and what is put around the second arguments. All of it
is looked up by the path of a node or of a call in the old tree. -/
structure Wrapping where
  /-- The new range of a node. -/
  span : Path → Span
  /-- The range of the conditional put around an argument of the call. -/
  around : Path → Span
  test : Path → Tree
  alternate : Path → Tree

/-- The conditional that stands in place of an argument of the call at a path. -/
def Wrapping.conditional (w : Wrapping) (path : Path) (argument : Tree) : Tree :=
  .conditional (w.around path) (w.test path) argument (w.alternate path)

@[simp] theorem part?_conditional_consequent (w : Wrapping) (path : Path) (argument : Tree) :
    (w.conditional path argument).part? .consequent = some argument := rfl

/-- The second of some arguments rewritten. -/
def mapSecond (f : Tree → Tree) : List Tree → List Tree
  | first :: second :: rest => first :: f second :: rest
  | trees => trees

theorem getElem?_mapSecond (f : Tree → Tree) (trees : List Tree) (index : Nat) :
    (mapSecond f trees)[index]? = trees[index]?.map (if index = 1 then f else id) := by
  rcases trees with _ | ⟨first, _ | ⟨second, rest⟩⟩
  · rfl
  · cases index <;> simp [mapSecond]
  · rcases index with _ | _ | index <;> simp [mapSecond]

namespace Tree

mutual

/-- The tree, which stands at a path of a larger one, with the second arguments of the chosen calls
put under a test. -/
def wrap (chosen : Path → Bool) (w : Wrapping) (path : Path) : Tree → Tree
  | identifier _ name => identifier (w.span path) name
  | call _ callee types arguments optional =>
      call (w.span path) (wrap chosen w (path ++ [.callee]) callee)
        (wrapAll chosen w (fun index => path ++ [.typeArgument index]) types)
        (if chosen path then
          mapSecond (w.conditional path)
            (wrapAll chosen w (fun index => path ++ [.argument index]) arguments)
        else wrapAll chosen w (fun index => path ++ [.argument index]) arguments)
        optional
  | conditional _ test consequent alternate =>
      conditional (w.span path) (wrap chosen w (path ++ [.test]) test)
        (wrap chosen w (path ++ [.consequent]) consequent)
        (wrap chosen w (path ++ [.alternate]) alternate)
  | spread _ argument => spread (w.span path) (wrap chosen w (path ++ [.operand]) argument)
  | node _ kind children =>
      node (w.span path) kind (wrapAll chosen w (fun index => path ++ [.child index]) children)

/-- The trees at some paths, rewritten. -/
def wrapAll (chosen : Path → Bool) (w : Wrapping) (path : Nat → Path) : List Tree → List Tree
  | [] => []
  | t :: rest => wrap chosen w (path 0) t :: wrapAll chosen w (fun index => path (index + 1)) rest

end

variable (chosen : Path → Bool) (w : Wrapping)

theorem getElem?_wrapAll (path : Nat → Path) (trees : List Tree) (index : Nat) :
    (wrapAll chosen w path trees)[index]? = trees[index]?.map (wrap chosen w (path index)) := by
  induction trees generalizing path index with
  | nil => rfl
  | cons t rest ih =>
      cases index with
      | zero => rfl
      | succ index => exact ih (fun index => path (index + 1)) index

@[simp] theorem span_wrap (path : Path) (t : Tree) : (wrap chosen w path t).span = w.span path := by
  cases t <;> rfl

@[simp] theorem isSpread_wrap (path : Path) (t : Tree) :
    (wrap chosen w path t).isSpread = t.isSpread := by
  cases t <;> rfl

/-- The parts of a rewritten node are the rewritten parts, but for the second argument of a chosen
call. -/
theorem part?_wrap (path : Path) (t : Tree) (step : Step) :
    (wrap chosen w path t).part? step = (t.part? step).map fun part =>
      if chosen path = true ∧ step = .argument 1 then
        w.conditional path (wrap chosen w (path ++ [step]) part)
      else wrap chosen w (path ++ [step]) part := by
  cases t with
  | identifier span name => cases step <;> rfl
  | conditional span test consequent alternate => cases step <;> simp [wrap, part?]
  | spread span argument => cases step <;> simp [wrap, part?]
  | node span kind children =>
      cases step with
      | child index => simp [wrap, part?, getElem?_wrapAll]
      | _ => rfl
  | call span callee types arguments optional =>
      cases step with
      | callee => simp [wrap, part?]
      | typeArgument index => simp [wrap, part?, getElem?_wrapAll]
      | argument index =>
          by_cases hchosen : chosen path = true
          · by_cases hindex : index = 1
            · subst hindex
              simp [wrap, part?, hchosen, getElem?_mapSecond, getElem?_wrapAll, Function.comp_def]
            · simp [wrap, part?, hchosen, hindex, getElem?_mapSecond, getElem?_wrapAll]
          · simp [wrap, part?, hchosen, getElem?_wrapAll]
      | _ => rfl

/-- The way to a node in the rewritten tree, from the node at `path` on: one step more below each
wrapped argument. -/
def liftFrom (chosen : Path → Bool) (path : Path) : Path → Path
  | [] => []
  | step :: rest =>
      (if chosen path = true ∧ step = .argument 1 then [step, .consequent] else [step]) ++
        liftFrom chosen (path ++ [step]) rest

/-- The path in the rewritten tree to a node of the old one. -/
def lift (chosen : Path → Bool) (path : Path) : Path := liftFrom chosen [] path

theorem liftFrom_append (path p q : Path) :
    liftFrom chosen path (p ++ q) =
      liftFrom chosen path p ++ liftFrom chosen (path ++ p) q := by
  induction p generalizing path with
  | nil => simp [liftFrom]
  | cons step p ih => simp [liftFrom, ih]

theorem lift_concat (path : Path) (step : Step) :
    lift chosen (path ++ [step]) = lift chosen path ++
      if chosen path = true ∧ step = .argument 1 then [step, .consequent] else [step] := by
  rw [lift, liftFrom_append, liftFrom, liftFrom, List.append_nil, List.nil_append, lift]

theorem at?_wrap (path : Path) (t : Tree) (rest : Path) :
    (wrap chosen w path t).at? (liftFrom chosen path rest) =
      (t.at? rest).map (wrap chosen w (path ++ rest)) := by
  induction rest generalizing path t with
  | nil => simp [liftFrom]
  | cons step rest ih =>
      have hpart := part?_wrap chosen w path t step
      rw [at?_cons, liftFrom]
      cases h : t.part? step with
      | none =>
          rw [h] at hpart
          split <;> simp [at?_cons, hpart]
      | some part =>
          rw [h, Option.map_some] at hpart
          have ih := ih (path ++ [step]) part
          rw [List.append_assoc, List.singleton_append] at ih
          by_cases hchosen : chosen path = true ∧ step = .argument 1
          · -- one step more leads through the conditional that was put in
            rw [if_pos hchosen] at hpart ⊢
            simpa [at?_cons, hpart] using ih
          · rw [if_neg hchosen] at hpart ⊢
            simpa [at?_cons, hpart] using ih

theorem at?_lift {path : Path} {t part : Tree} (h : t.at? path = some part) :
    (wrap chosen w [] t).at? (lift chosen path) = some (wrap chosen w path part) := by
  rw [lift, at?_wrap, h, List.nil_append, Option.map_some]

/-- The path leads into the test or the alternate that was put in for the call at `call`. -/
def InInserted (chosen : Path → Bool) (path call new : Path) : Prop :=
  liftFrom chosen path call ++ [.argument 1, .test] <+: new ∨
    liftFrom chosen path call ++ [.argument 1, .alternate] <+: new

/-- Where the node at the path `new` of a rewritten tree comes from. -/
inductive Origin (chosen : Path → Bool) (w : Wrapping) (path : Path) (t : Tree) (new : Path)
    (part : Tree) : Prop where
  /-- It is a node of the old tree. -/
  | kept (old : Path) (hold : (t.at? old).isSome = true) (hnew : new = liftFrom chosen path old)
  /-- It is a conditional that was put in. -/
  | conditional (call : Path) (argument : Tree) (hpart : part = w.conditional call argument)
  /-- It was put in with a test or an alternate. -/
  | inserted (call : Path) (hchosen : chosen (path ++ call) = true)
      (hnew : InInserted chosen path call new)

variable {chosen w}

theorem InInserted.cons {path call new : Path} {step : Step}
    (h : InInserted chosen (path ++ [step]) call new) :
    InInserted chosen path (step :: call)
      ((if chosen path = true ∧ step = .argument 1 then [step, .consequent] else [step]) ++ new) := by
  unfold InInserted
  rw [liftFrom, List.append_assoc, List.append_assoc, List.prefix_append_right_inj,
    List.prefix_append_right_inj]
  exact h

theorem Origin.cons {path new : Path} {step : Step} {t next part : Tree}
    (hnext : t.part? step = some next)
    (h : Origin chosen w (path ++ [step]) next new part) :
    Origin chosen w path t
      ((if chosen path = true ∧ step = .argument 1 then [step, .consequent] else [step]) ++ new)
      part := by
  cases h with
  | kept old hold hnew =>
      exact .kept (step :: old) (by simpa [at?_cons, hnext] using hold) (by rw [hnew, liftFrom])
  | conditional call argument hpart => exact .conditional call argument hpart
  | inserted call hchosen hnew =>
      exact .inserted (step :: call) (by simpa using hchosen) hnew.cons

theorem origin_of_at?_wrap {path new : Path} {t part : Tree}
    (h : (wrap chosen w path t).at? new = some part) : Origin chosen w path t new part := by
  induction t using part_induction generalizing path new with
  | step t ih =>
      rcases new with _ | ⟨step, new⟩
      · exact .kept [] (by simp) rfl
      rw [at?_cons, part?_wrap] at h
      cases hnext : t.part? step with
      | none => simp [hnext] at h
      | some next =>
          rw [hnext, Option.map_some, Option.bind_some] at h
          by_cases hchosen : chosen path = true ∧ step = .argument 1
          · -- the step leads to a conditional that was put in, and only its consequent is old
            rw [if_pos hchosen] at h
            obtain ⟨hpath, rfl⟩ := hchosen
            rcases new with _ | ⟨inner, new⟩
            · exact .conditional path _ (Option.some.inj h).symm
            rw [at?_cons] at h
            cases inner with
            | consequent =>
                have horigin := Origin.cons hnext (ih _ next hnext h)
                rwa [if_pos ⟨hpath, rfl⟩] at horigin
            | test => exact .inserted [] (by simpa using hpath) (Or.inl (by simp [liftFrom]))
            | alternate => exact .inserted [] (by simpa using hpath) (Or.inr (by simp [liftFrom]))
            | _ => simp [Wrapping.conditional, part?] at h
          · rw [if_neg hchosen] at h
            have horigin := Origin.cons hnext (ih _ next hnext h)
            rwa [if_neg hchosen] at horigin

end Tree

/-- The module with the second arguments of the chosen calls put under a test. -/
def Program.wrap (chosen : Path → Bool) (w : Wrapping) (program : Program) : Program :=
  { program with
    statements := Tree.wrapAll chosen w (fun index => [.child index]) program.statements }

end HandlerGuard.Script
