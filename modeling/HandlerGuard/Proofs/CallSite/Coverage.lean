import Mathlib.Data.List.Induction
import HandlerGuard.Proofs.CallSite.Occurrence

namespace HandlerGuard.CallSite

open Script

/-- The handler of the call at `outer` is, or is going to be, under the guard, and the path leads into
that handler. -/
def GuardsPath (target : Target) (source : Text) (program : Program) (outer path : Path) : Prop :=
  ∃ site, (outer, site) ∈ reports target source program ∧ site.status.guardsHandler = true ∧
    outer ++ [.argument 1] <+: path

/-- One of three statements holds and the other two do not. -/
def ExactlyOne (a b c : Prop) : Prop :=
  (a ∧ ¬b ∧ ¬c) ∨ (¬a ∧ b ∧ ¬c) ∨ (¬a ∧ ¬b ∧ c)

section

variable {name guard source : Text} {t : Tree}

theorem insideAt_eq_true_iff {path : Path} (hpath : (t.at? path).isSome = true) :
    insideAt name guard source false t path = true ↔
      ∃ outer site, siteAt name guard source false t outer = some site ∧
        site.status.guardsHandler = true ∧ outer ++ [.argument 1] <+: path := by
  induction path using List.reverseRecOn with
  | nil => simp [insideAt]
  | append_singleton path step ih =>
      obtain ⟨part, hpart, hstep⟩ := Tree.exists_of_isSome_at?_concat hpath
      rw [insideAt_concat name guard source false hpart step hstep, Bool.or_eq_true,
        ih (by simp [hpart])]
      constructor
      · rintro (⟨outer, site, hsite, hguards, hbelow⟩ | hhere)
        · exact ⟨outer, site, hsite, hguards, hbelow.trans (List.prefix_append _ _)⟩
        · simp only [Bool.and_eq_true, decide_eq_true_eq, Option.any_eq_true] at hhere
          obtain ⟨rfl, site, hsite, hguards⟩ := hhere
          exact ⟨path, site, hsite, hguards, List.prefix_rfl⟩
      · rintro ⟨outer, site, hsite, hguards, hbelow⟩
        rcases List.prefix_concat_iff.mp hbelow with heq | hbelow
        · obtain ⟨rfl, hlast⟩ := List.append_inj' heq rfl
          obtain rfl : Step.argument 1 = step := by simpa using hlast
          right
          simp [hsite, hguards]
        · exact Or.inl ⟨outer, site, hsite, hguards, hbelow⟩

theorem status_eq_inside_iff {path : Path} {site : CallSite}
    (hsite : siteAt name guard source false t path = some site) :
    site.status = .insideGuardedHandler ↔
      ∃ outer site', siteAt name guard source false t outer = some site' ∧
        site'.status.guardsHandler = true ∧ outer ++ [.argument 1] <+: path := by
  obtain ⟨span, callee, types, arguments, optional, hpart, -, rfl⟩ :=
    (siteAt_eq_some_iff name guard source).mp hsite
  rw [classify_eq_insideGuardedHandler_iff, insideAt_eq_true_iff (by simp [hpart])]

theorem not_prefix_of_guardsHandler {outer inner : Path} {site site' : CallSite}
    (houter : siteAt name guard source false t outer = some site)
    (hguards : site.status.guardsHandler = true)
    (hinner : siteAt name guard source false t inner = some site')
    (hguards' : site'.status.guardsHandler = true) : ¬outer ++ [.argument 1] <+: inner := by
  intro hbelow
  have hstatus := (status_eq_inside_iff hinner).mpr ⟨outer, site, houter, hguards, hbelow⟩
  simp [hstatus, CallStatus.guardsHandler] at hguards'

theorem guarding_unique {p q path : Path} {site site' : CallSite}
    (hp : siteAt name guard source false t p = some site)
    (hguards : site.status.guardsHandler = true) (hbelow : p ++ [.argument 1] <+: path)
    (hq : siteAt name guard source false t q = some site')
    (hguards' : site'.status.guardsHandler = true) (hbelow' : q ++ [.argument 1] <+: path) :
    p = q := by
  rcases List.prefix_or_prefix_of_prefix hbelow hbelow' with h | h
  · rcases List.prefix_concat_iff.mp h with heq | h
    · exact (List.append_inj' heq rfl).1
    · exact absurd h (not_prefix_of_guardsHandler hp hguards hq hguards')
  · rcases List.prefix_concat_iff.mp h with heq | h
    · exact (List.append_inj' heq rfl).1.symm
    · exact absurd h (not_prefix_of_guardsHandler hq hguards' hp hguards)

theorem classify_of_handler {inside : Bool} {arguments : List Tree} {handler : Tree}
    (hhandler : arguments[1]? = some handler) (hspread : handler.isSpread = false) :
    classify source guard inside arguments = .guardable ∨
      classify source guard inside arguments = .alreadyGuarded ∨
      classify source guard inside arguments = .insideGuardedHandler := by
  rcases arguments with _ | ⟨key, _ | ⟨second, rest⟩⟩
  · simp at hhandler
  · simp at hhandler
  · obtain rfl : second = handler := by simpa using hhandler
    cases inside with
    | true => simp [classify]
    | false =>
        cases hguarded : isGuarded source guard second <;> simp [classify, hspread, hguarded]

end

theorem exists_guardsPath_iff {target : Target} {source : Text} {program : Program} {path : Path}
    {site : CallSite} (hreport : (path, site) ∈ reports target source program) :
    site.status = .insideGuardedHandler ↔
      ∃ outer, GuardsPath target source program outer path := by
  rw [status_eq_inside_iff (mem_reports_iff.mp hreport)]
  simp only [GuardsPath, mem_reports_iff]

theorem guardsPath_unique {target : Target} {source : Text} {program : Program} {p q path : Path}
    (hp : GuardsPath target source program p path)
    (hq : GuardsPath target source program q path) : p = q := by
  obtain ⟨site, hsite, hguards, hbelow⟩ := hp
  obtain ⟨site', hsite', hguards', hbelow'⟩ := hq
  exact guarding_unique (mem_reports_iff.mp hsite) hguards hbelow
    (mem_reports_iff.mp hsite') hguards' hbelow'

/-- Every call of the target is reported, and if it has a handler, exactly one of these holds: it is
going to be guarded, it is guarded already, or it is reported as inside a guarded handler and exactly
one guarding call has it in its handler. It is reported so only if there is such a call. -/
theorem handlers_covered_once (target : Target) (source : Text) (program : Program) :
    (targetCalls target.functionName program.tree).length =
        (find target source program).length ∧
      ∀ path site, (path, site) ∈ reports target source program →
        (∃ callee types arguments optional,
          program.tree.at? path = some (.call site.span callee types arguments optional) ∧
          isTarget target.functionName callee optional = true ∧
          ∀ handler, arguments[1]? = some handler → handler.isSpread = false →
            ExactlyOne (site.status = .guardable) (site.status = .alreadyGuarded)
              (site.status = .insideGuardedHandler ∧
                ∃! outer, GuardsPath target source program outer path)) ∧
        (site.status = .insideGuardedHandler ↔
          ∃ outer, GuardsPath target source program outer path) := by
  refine ⟨length_targetCalls target source program, ?_⟩
  intro path site hreport
  have hinside := exists_guardsPath_iff hreport
  refine ⟨?_, hinside⟩
  obtain ⟨span, callee, types, arguments, optional, hpart, htarget, hsite⟩ :=
    (siteAt_eq_some_iff _ _ _).mp (mem_reports_iff.mp hreport)
  refine ⟨callee, types, arguments, optional, by rw [hsite]; exact hpart, htarget, ?_⟩
  intro handler hhandler hspread
  have hcases : site.status = .guardable ∨ site.status = .alreadyGuarded ∨
      site.status = .insideGuardedHandler := by
    rw [hsite]
    exact classify_of_handler hhandler hspread
  rcases hcases with hstatus | hstatus | hstatus
  · exact Or.inl ⟨hstatus, by simp [hstatus], by simp [hstatus]⟩
  · exact Or.inr (Or.inl ⟨by simp [hstatus], hstatus, by simp [hstatus]⟩)
  · obtain ⟨outer, houter⟩ := hinside.mp hstatus
    refine Or.inr (Or.inr ⟨by simp [hstatus], by simp [hstatus], hstatus, outer, houter, ?_⟩)
    intro other hother
    exact guardsPath_unique hother houter

/-- A module with calls in the key, in the handler and in a later argument of a call. -/
def nestedText : Text :=
  ("usePrerenderData(usePrerenderData('é', f), () => usePrerenderData('b', g), " ++
    "usePrerenderData('c', h))").toList

def nestedModule : Program := (Program.parse? .ts nestedText).getD default

set_option maxRecDepth 10000 in
theorem nestedModule_covered_once : ∃ path site,
    (path, site) ∈ reports Target.standard nestedText nestedModule ∧
      site.status = .insideGuardedHandler ∧
      ∃! outer, GuardsPath Target.standard nestedText nestedModule outer path := by
  have hthird : ((reports Target.standard nestedText nestedModule)[2]?.any fun report =>
      decide (report.2.status = .insideGuardedHandler) &&
        (nestedModule.tree.at? (report.1 ++ [.argument 1])).any fun handler =>
          !handler.isSpread) = true := by
    decide +kernel
  obtain ⟨⟨path, site⟩, hget, h⟩ := (Option.any_eq_true _ _).mp hthird
  obtain ⟨hstatus, hhandler⟩ := Bool.and_eq_true_iff.mp h
  have hreport := List.mem_of_getElem? hget
  have hstatus : site.status = .insideGuardedHandler := of_decide_eq_true hstatus
  obtain ⟨⟨callee, types, arguments, optional, hcall, -, honce⟩, -⟩ :=
    (handlers_covered_once Target.standard nestedText nestedModule).2 path site hreport
  rw [Tree.at?_concat hcall] at hhandler
  obtain ⟨handler, hargument, hspread⟩ := (Option.any_eq_true _ _).mp hhandler
  have hone := honce handler hargument (by simpa using hspread)
  refine ⟨path, site, hreport, hstatus, ?_⟩
  rcases hone with ⟨h, -⟩ | ⟨-, h, -⟩ | ⟨-, -, -, hunique⟩
  · simp [hstatus] at h
  · simp [hstatus] at h
  · exact hunique

end HandlerGuard.CallSite
