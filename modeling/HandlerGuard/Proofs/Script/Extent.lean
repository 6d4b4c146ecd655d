import HandlerGuard.Proofs.Patch.Recording
import HandlerGuard.Proofs.Script.Lexing
import HandlerGuard.Proofs.Script.Path

namespace HandlerGuard.Script

/-- A name stands in the text at a range, perhaps with escapes. -/
def Spelled (source : Text) (span : Span) (name : Text) : Prop :=
  ∃ written, source.slice? span = some written ∧ Spells written name

/-- All names in a tree stand in the text where they say. -/
def Tree.NamesSpelled (source : Text) (t : Tree) : Prop :=
  ∀ path span name, t.at? path = some (.identifier span name) → Spelled source span name

/-- The elements of a list lie one behind the other between two places. -/
inductive Chained {α : Type} (R : Nat → Nat → α → Prop) : Nat → Nat → List α → Prop where
  | nil {lo hi : Nat} (hle : lo ≤ hi) : Chained R lo hi []
  | cons {lo mid hi : Nat} {a : α} {as : List α} (hle : lo ≤ mid) (head : R lo mid a)
      (tail : Chained R mid hi as) : Chained R lo hi (a :: as)

namespace Chained

variable {α β : Type} {R : Nat → Nat → α → Prop} {lo mid hi : Nat} {as bs : List α}

theorem le (h : Chained R lo hi as) : lo ≤ hi := by
  induction h with
  | nil hle => exact hle
  | cons hle head tail ih => exact hle.trans ih

theorem widen_left {lo' : Nat} (h : Chained R lo hi as) (hlo : lo' ≤ lo)
    (hR : ∀ {lo hi lo' a}, R lo hi a → lo' ≤ lo → R lo' hi a) : Chained R lo' hi as := by
  cases h with
  | nil hle => exact nil (hlo.trans hle)
  | cons hle head tail => exact cons (hlo.trans hle) (hR head hlo) tail

theorem widen_right {hi' : Nat} (h : Chained R lo hi as) (hhi : hi ≤ hi') :
    Chained R lo hi' as := by
  induction h with
  | nil hle => exact nil (hle.trans hhi)
  | cons hle head tail ih => exact cons hle head (ih hhi)

theorem append (h : Chained R lo mid as) (h' : Chained R mid hi bs)
    (hR : ∀ {lo hi lo' a}, R lo hi a → lo' ≤ lo → R lo' hi a) : Chained R lo hi (as ++ bs) := by
  induction h with
  | nil hle => exact h'.widen_left hle hR
  | cons hle head tail ih => exact cons hle head (ih h')

theorem of_append (h : Chained R lo hi (as ++ bs)) :
    ∃ mid, Chained R lo mid as ∧ Chained R mid hi bs := by
  induction as generalizing lo with
  | nil => exact ⟨lo, nil le_rfl, h⟩
  | cons a as ih =>
      cases h with
      | cons hle head tail =>
          obtain ⟨mid, hleft, hright⟩ := ih tail
          exact ⟨mid, cons hle head hleft, hright⟩

theorem map_iff {f : α → β} {S : Nat → Nat → β → Prop} :
    Chained S lo hi (as.map f) ↔ Chained (fun lo hi a => S lo hi (f a)) lo hi as := by
  constructor
  · intro h
    induction as generalizing lo with
    | nil =>
        cases h with
        | nil hle => exact nil hle
    | cons a as ih =>
        cases h with
        | cons hle head tail => exact cons hle head (ih tail)
  · intro h
    induction h with
    | nil hle => exact nil hle
    | cons hle head tail ih => exact cons hle head ih

theorem exists_of_mem (h : Chained R lo hi as) {a : α} (ha : a ∈ as) :
    ∃ m n, lo ≤ m ∧ n ≤ hi ∧ R m n a := by
  induction h with
  | nil hle => simp at ha
  | cons hle head tail ih =>
      rcases List.mem_cons.mp ha with rfl | ha
      · exact ⟨_, _, le_rfl, tail.le, head⟩
      · obtain ⟨m, n, hm, hn, hR⟩ := ih ha
        exact ⟨m, n, hle.trans hm, hn, hR⟩

theorem exists_apart (h : Chained R lo hi as) {a b : α} (ha : a ∈ as) (hb : b ∈ as) (hab : a ≠ b) :
    ∃ m n m' n', lo ≤ m ∧ n ≤ hi ∧ R m n a ∧ lo ≤ m' ∧ n' ≤ hi ∧ R m' n' b ∧
      (n ≤ m' ∨ n' ≤ m) := by
  induction h with
  | nil hle => simp at ha
  | cons hle head tail ih =>
      rcases List.mem_cons.mp ha with rfl | hleft
      · have hright := (List.mem_cons.mp hb).resolve_left hab.symm
        obtain ⟨m', n', hm', hn', hR⟩ := tail.exists_of_mem hright
        exact ⟨_, _, m', n', le_rfl, tail.le, head, hle.trans hm', hn', hR, Or.inl hm'⟩
      · rcases List.mem_cons.mp hb with rfl | hright
        · obtain ⟨m, n, hm, hn, hR⟩ := tail.exists_of_mem hleft
          exact ⟨m, n, _, _, hle.trans hm, hn, hR, le_rfl, tail.le, head, Or.inr hm⟩
        · obtain ⟨m, n, m', n', hm, hn, hR, hm', hn', hR', h⟩ := ih hleft hright
          exact ⟨m, n, m', n', hle.trans hm, hn, hR, hle.trans hm', hn', hR', h⟩

end Chained

namespace Tree

def isCall : Tree → Bool
  | call _ _ _ _ _ => true
  | _ => false

/-- The tree was read between two places of the text. A name is spelled at its range, and parts lie
one behind the other, those of a call in the range of the call. Only of a type assertion, which may have
the type in front, the parts are perhaps not in the order they are visited. -/
inductive Lies (source : Text) : Nat → Nat → Tree → Prop where
  | intro {lo hi first last : Nat} {t : Tree} (order : List (Step × Tree)) (hfirst : lo ≤ first)
      (hlast : last ≤ hi) (hstart : lo ≤ t.span.start) (hstop : t.span.stop ≤ hi)
      (hname : ∀ span name, t = .identifier span name → Spelled source span name)
      (hcall : t.isCall = true → t.span.start ≤ first ∧ last ≤ t.span.stop)
      (hperm : order.Perm t.parts) (horder : t.hasKind .assertion = false → order = t.parts)
      (hparts : Chained (fun lo hi part => Lies source lo hi part.2) first last order) :
      Lies source lo hi t

namespace Lies

variable {source : Text} {lo hi lo' hi' : Nat} {t part : Tree}

theorem le (h : t.Lies source lo hi) : lo ≤ hi := by
  obtain ⟨order, hfirst, hlast, -, -, -, -, -, -, hparts⟩ := h
  exact hfirst.trans (hparts.le.trans hlast)

theorem widen (h : t.Lies source lo hi) (hlo : lo' ≤ lo) (hhi : hi ≤ hi') :
    t.Lies source lo' hi' := by
  obtain ⟨order, hfirst, hlast, hstart, hstop, hname, hcall, hperm, horder, hparts⟩ := h
  exact ⟨order, hlo.trans hfirst, hlast.trans hhi, hlo.trans hstart, hstop.trans hhi, hname, hcall,
    hperm, horder, hparts⟩

theorem le_start (h : t.Lies source lo hi) : lo ≤ t.span.start := by
  obtain ⟨order, -, -, hstart, -⟩ := h
  exact hstart

theorem stop_le (h : t.Lies source lo hi) : t.span.stop ≤ hi := by
  obtain ⟨order, -, -, -, hstop, -⟩ := h
  exact hstop

theorem spelled {span : Span} {name : Text} (h : (Tree.identifier span name).Lies source lo hi) :
    Spelled source span name := by
  obtain ⟨order, -, -, -, -, hname, -⟩ := h
  exact hname span name rfl

theorem map_snd_indexed (step : Nat → Step) (trees : List Tree) :
    (indexed step trees).map Prod.snd = trees := by
  induction trees generalizing step with
  | nil => rfl
  | cons t rest ih => rw [indexed_cons, List.map_cons, ih]

theorem chained_indexed_iff {step : Nat → Step} {trees : List Tree} :
    Chained (fun lo hi part => Lies source lo hi part.2) lo hi (indexed step trees) ↔
      Chained (Lies source) lo hi trees := by
  rw [← Chained.map_iff, map_snd_indexed]

theorem identifier {span : Span} {name : Text} (hle : lo ≤ hi) (hstart : lo ≤ span.start)
    (hstop : span.stop ≤ hi) (hname : Spelled source span name) :
    (Tree.identifier span name).Lies source lo hi := by
  refine ⟨[], le_rfl, hle, hstart, hstop, ?_, by simp [isCall], .nil, fun _ => rfl, .nil le_rfl⟩
  rintro _ _ heq
  obtain ⟨rfl, rfl⟩ := by simpa using heq
  exact hname

theorem node {span : Span} {kind : NodeKind} {children : List Tree} (hstart : lo ≤ span.start)
    (hstop : span.stop ≤ hi) (h : Chained (Lies source) lo hi children) :
    (Tree.node span kind children).Lies source lo hi :=
  ⟨indexed .child children, le_rfl, le_rfl, hstart, hstop, by simp, by simp [isCall], .rfl,
    fun _ => rfl, chained_indexed_iff.mpr h⟩

theorem children {span : Span} {kind : NodeKind} {children : List Tree}
    (h : (Tree.node span kind children).Lies source lo hi) (hkind : kind ≠ .assertion) :
    Chained (Lies source) lo hi children := by
  obtain ⟨order, hfirst, hlast, -, -, -, -, -, horder, hparts⟩ := h
  rw [horder (by simpa [hasKind] using hkind)] at hparts
  exact ((chained_indexed_iff.mp hparts).widen_right hlast).widen_left hfirst
    fun h hle => h.widen hle le_rfl

theorem assertion {span : Span} {type value : Tree} (hstart : lo ≤ span.start)
    (hstop : span.stop ≤ hi) (h : Chained (Lies source) lo hi [type, value]) :
    (Tree.node span .assertion [value, type]).Lies source lo hi := by
  refine ⟨[(.child 1, type), (.child 0, value)], le_rfl, le_rfl, hstart, hstop, by simp,
    by simp [isCall], ?_, by simp [hasKind], Chained.map_iff.mp h⟩
  exact .swap _ _ []

theorem spread {span : Span} {argument : Tree} (hstart : lo ≤ span.start) (hstop : span.stop ≤ hi)
    (h : argument.Lies source lo hi) : (Tree.spread span argument).Lies source lo hi :=
  ⟨_, le_rfl, le_rfl, hstart, hstop, by simp, by simp [isCall], .rfl, fun _ => rfl,
    .cons h.le h (.nil le_rfl)⟩

theorem conditional {span : Span} {test consequent alternate : Tree} (hstart : lo ≤ span.start)
    (hstop : span.stop ≤ hi) (h : Chained (Lies source) lo hi [test, consequent, alternate]) :
    (Tree.conditional span test consequent alternate).Lies source lo hi :=
  ⟨_, le_rfl, le_rfl, hstart, hstop, by simp, by simp [isCall], .rfl, fun _ => rfl,
    Chained.map_iff.mp h⟩

theorem call {span : Span} {callee : Tree} {types arguments : List Tree} {optional : Bool}
    (hstart : lo ≤ span.start) (hstop : span.stop ≤ hi)
    (h : Chained (Lies source) span.start span.stop (callee :: types ++ arguments)) :
    (Tree.call span callee types arguments optional).Lies source lo hi := by
  refine ⟨_, hstart, hstop, hstart, hstop, by simp, fun _ => ⟨le_rfl, le_rfl⟩, .rfl, fun _ => rfl, ?_⟩
  rw [parts, ← Chained.map_iff]
  simpa [map_snd_indexed] using h

theorem exists_of_part? (h : t.Lies source lo hi) {step : Step} (hpart : t.part? step = some part) :
    ∃ m n, lo ≤ m ∧ n ≤ hi ∧ part.Lies source m n := by
  obtain ⟨order, hfirst, hlast, -, -, -, -, hperm, -, hparts⟩ := h
  have hmem : (step, part) ∈ order := hperm.mem_iff.mpr (mem_parts_iff.mpr hpart)
  obtain ⟨m, n, hm, hn, hlies⟩ := hparts.exists_of_mem hmem
  exact ⟨m, n, hfirst.trans hm, hn.trans hlast, hlies⟩

theorem within_of_part? (h : t.Lies source lo hi) (hcall : t.isCall = true) {step : Step}
    (hpart : t.part? step = some part) : part.span.within t.span = true := by
  obtain ⟨order, -, -, -, -, -, hrange, hperm, -, hparts⟩ := h
  obtain ⟨hstart, hstop⟩ := hrange hcall
  have hmem : (step, part) ∈ order := hperm.mem_iff.mpr (mem_parts_iff.mpr hpart)
  obtain ⟨m, n, hm, hn, hlies⟩ := hparts.exists_of_mem hmem
  exact Span.within_iff.mpr ⟨(hstart.trans hm).trans hlies.le_start,
    (hlies.stop_le.trans hn).trans hstop⟩

theorem exists_of_at? (h : t.Lies source lo hi) {path : Path} (hpart : t.at? path = some part) :
    ∃ m n, lo ≤ m ∧ n ≤ hi ∧ part.Lies source m n := by
  induction path generalizing t lo hi with
  | nil =>
      obtain rfl : t = part := by simpa using hpart
      exact ⟨lo, hi, le_rfl, le_rfl, h⟩
  | cons step path ih =>
      rw [at?_cons] at hpart
      obtain ⟨below, hbelow, hpart⟩ := Option.bind_eq_some_iff.mp hpart
      obtain ⟨m, n, hm, hn, hlies⟩ := h.exists_of_part? hbelow
      obtain ⟨m', n', hm', hn', hlies'⟩ := ih hlies hpart
      exact ⟨m', n', hm.trans hm', hn'.trans hn, hlies'⟩

theorem namesSpelled (h : t.Lies source lo hi) : t.NamesSpelled source := by
  intro path span name hname
  obtain ⟨m, n, -, -, hlies⟩ := h.exists_of_at? hname
  exact hlies.spelled

theorem apart (h : t.Lies source lo hi) {p q : Path} {a b : Tree} (ha : t.at? p = some a)
    (hb : t.at? q = some b) (hpq : ¬p <+: q) (hqp : ¬q <+: p) : a.span.Apart b.span := by
  induction p generalizing t lo hi q with
  | nil => exact absurd List.nil_prefix hpq
  | cons step p ih =>
      cases q with
      | nil => exact absurd List.nil_prefix hqp
      | cons step' q =>
          rw [at?_cons] at ha hb
          obtain ⟨left, hleft, ha⟩ := Option.bind_eq_some_iff.mp ha
          obtain ⟨right, hright, hb⟩ := Option.bind_eq_some_iff.mp hb
          by_cases hstep : step = step'
          · -- the same part, so the paths part further down
            subst hstep
            obtain rfl : left = right := Option.some.inj (hleft.symm.trans hright)
            obtain ⟨m, n, -, -, hlies⟩ := h.exists_of_part? hleft
            refine ih hlies ha hb ?_ ?_
            · simpa [List.cons_prefix_cons] using hpq
            · simpa [List.cons_prefix_cons] using hqp
          · -- two parts of one node, and each path stays in the range of its part
            obtain ⟨order, -, -, -, -, -, -, hperm, -, hparts⟩ := h
            have hleft : (step, left) ∈ order := hperm.mem_iff.mpr (mem_parts_iff.mpr hleft)
            have hright : (step', right) ∈ order := hperm.mem_iff.mpr (mem_parts_iff.mpr hright)
            have hne : (step, left) ≠ (step', right) := fun heq => hstep (congrArg Prod.fst heq)
            obtain ⟨m, n, m', n', -, -, hlies, -, -, hlies', hapart⟩ :=
              hparts.exists_apart hleft hright hne
            obtain ⟨x, y, hx, hy, hfound⟩ := hlies.exists_of_at? ha
            obtain ⟨x', y', hx', hy', hfound'⟩ := hlies'.exists_of_at? hb
            have ha := hfound.le_start
            have ha' := hfound.stop_le
            have hb := hfound'.le_start
            have hb' := hfound'.stop_le
            rcases hapart with hapart | hapart
            · left
              omega
            · right
              omega

end Lies

end Tree

end HandlerGuard.Script
