import HandlerGuard.Proofs.Script.Extent
import HandlerGuard.Script.Grammar.Rule

/-!
Readings that keep to the text.

A parser keeps to the text if, from a state whose token stands in the text, it comes to another such
state, never goes back, and yields a value that lies between where it began and where it came to. What
is read in a sequence then lies one behind the other. Sequences, choices and repetitions of such parsers
are such parsers. These facts are instances, so for a rule of the grammar the search for an instance
goes through its definition; on the way each value that was read carries the place up to which it lies.
-/
namespace HandlerGuard.Script

-- a rule of the grammar is one sequence, and an instance is found for the whole of it
set_option synthInstance.maxSize 1000000000

/-- What parsers yield, and when it lies between two places of the text. -/
class Yield (α : Type) where
  Lies : Text → Nat → Nat → α → Prop
  le {source : Text} {lo hi : Nat} {a : α} : Lies source lo hi a → lo ≤ hi
  widen {source : Text} {lo hi lo' hi' : Nat} {a : α} :
    Lies source lo hi a → lo' ≤ lo → hi ≤ hi' → Lies source lo' hi' a

/-- What has no place in the text. -/
class Placeless (α : Type) extends Yield α where
  lies {source : Text} {lo hi : Nat} (a : α) : lo ≤ hi → Lies source lo hi a

namespace Yield

/-- A type whose values have no place. -/
abbrev placeless (α : Type) : Placeless α where
  Lies _ lo hi _ := lo ≤ hi
  le h := h
  widen h hlo hhi := hlo.trans (h.trans hhi)
  lies _ h := h

instance : Placeless Unit := placeless Unit

instance : Placeless Bool := placeless Bool

instance : Placeless Char := placeless Char

instance : Yield Tree := ⟨fun source lo hi t => t.Lies source lo hi, Tree.Lies.le, Tree.Lies.widen⟩

/-- A word or a punctuator is spelled where it stands. -/
instance : Yield Token where
  Lies source lo hi t := lo ≤ t.start ∧ t.stop ≤ hi ∧ lo ≤ hi ∧
    (t.kind = .word ∨ t.kind = .punctuator → Spelled source ⟨t.start, t.stop⟩ t.text)
  le h := h.2.2.1
  widen h hlo hhi := ⟨hlo.trans h.1, h.2.1.trans hhi, hlo.trans (h.2.2.1.trans hhi), h.2.2.2⟩

variable {α β : Type}

theorem lower [Yield α] {source : Text} {lo hi lo' : Nat} {a : α} (h : Lies source lo hi a)
    (hle : lo' ≤ lo) : Lies source lo' hi a :=
  widen h hle le_rfl

instance [Yield α] : Yield (List α) where
  Lies source := Chained (Lies source)
  le := Chained.le
  widen h hlo hhi := (Chained.widen_left h hlo lower).widen_right hhi

theorem lies_list [Yield α] {source : Text} {lo hi : Nat} {as : List α} :
    Lies source lo hi as ↔ Chained (Lies source) lo hi as :=
  Iff.rfl

instance [Yield α] : Yield (Option α) where
  Lies source lo hi a? := lo ≤ hi ∧ ∀ a ∈ a?, Lies source lo hi a
  le h := h.1
  widen h hlo hhi := ⟨hlo.trans (h.1.trans hhi), fun a ha => widen (h.2 a ha) hlo hhi⟩

instance [Yield α] [Yield β] : Yield (α × β) where
  Lies source lo hi ab := ∃ mid, Lies source lo mid ab.1 ∧ Lies source mid hi ab.2
  le := fun ⟨_, ha, hb⟩ => (le ha).trans (le hb)
  widen := fun ⟨mid, ha, hb⟩ hlo hhi => ⟨mid, lower ha hlo, widen hb le_rfl hhi⟩

instance [Placeless α] : Placeless (List α) where
  lies as h := by
    rw [lies_list]
    induction as with
    | nil => exact .nil h
    | cons a as ih => exact .cons le_rfl (Placeless.lies a le_rfl) ih

instance [Placeless α] : Placeless (Option α) where
  lies _ h := ⟨h, fun a _ => Placeless.lies a h⟩

end Yield

/-- The first place is not behind the second. -/
class AtMost (m n : Nat) : Prop where
  out : m ≤ n

/-- A place that is not before `k`. -/
structure Later (k : Nat) where
  val : Nat
  le : k ≤ val

/-- A value that lies from `lo` on up to `mark`, which is not before `k`. -/
structure Found (source : Text) (lo k : Nat) (α : Type) [Yield α] where
  val : α
  mark : Nat
  le : k ≤ mark
  lies : Yield.Lies source lo mark val

/-- The value lies between two places, of which the second follows from how the value is made. -/
class Fits (source : Text) (lo : Nat) {α : Type} [Yield α] (a : α) (hi : outParam Nat) : Prop where
  out : Yield.Lies source lo hi a

namespace AtMost

variable {m n k : Nat}

instance : AtMost n n := ⟨le_rfl⟩

instance : AtMost 0 n := ⟨Nat.zero_le n⟩

instance (later : Later k) [h : AtMost m k] : AtMost m later.val := ⟨h.out.trans later.le⟩

instance {source : Text} {lo : Nat} {α : Type} [Yield α] (found : Found source lo k α)
    [h : AtMost m k] : AtMost m found.mark :=
  ⟨h.out.trans found.le⟩

end AtMost

namespace Fits

variable {source : Text} {α β : Type} [Yield α] [Yield β] {lo mid hi k : Nat}

instance (found : Found source mid k α) [h : AtMost lo mid] : Fits source lo found.val found.mark :=
  ⟨Yield.lower found.lies h.out⟩

instance (priority := low) {γ : Type} [Placeless γ] (a : γ) : Fits source lo a lo :=
  ⟨Placeless.lies a le_rfl⟩

instance : Fits source lo ([] : List α) lo := ⟨Chained.nil le_rfl⟩

instance (a : α) (as : List α) [ha : Fits source lo a mid] [has : Fits source mid as hi] :
    Fits source lo (a :: as) hi :=
  ⟨Chained.cons (Yield.le ha.out) ha.out has.out⟩

instance (as bs : List α) [has : Fits source lo as mid] [hbs : Fits source mid bs hi] :
    Fits source lo (as ++ bs) hi :=
  ⟨Chained.append has.out hbs.out Yield.lower⟩

instance (as : List (List α)) [has : Fits source lo as hi] : Fits source lo as.flatten hi := by
  obtain ⟨has⟩ := has
  rw [Yield.lies_list] at has
  refine ⟨?_⟩
  induction has with
  | nil hle => exact Chained.nil hle
  | cons hle head tail ih => exact Chained.append head ih Yield.lower

instance (as : List (List α)) [has : Fits source lo as hi] : Fits source lo (as.headD []) hi := by
  obtain ⟨has⟩ := has
  rw [Yield.lies_list] at has
  cases has with
  | nil hle => exact ⟨Chained.nil hle⟩
  | cons hle head tail => exact ⟨Chained.widen_right head tail.le⟩

instance (as : List (α × β)) [has : Fits source lo as hi] : Fits source lo (as.map Prod.fst) hi := by
  obtain ⟨has⟩ := has
  rw [Yield.lies_list] at has
  refine ⟨?_⟩
  induction has with
  | nil hle => exact Chained.nil hle
  | cons hle head tail ih =>
      obtain ⟨mid, ha, hb⟩ := head
      exact Chained.cons hle (Yield.widen ha le_rfl (Yield.le hb)) ih

instance : Fits source lo (none : Option α) lo := ⟨le_rfl, fun _ h => absurd h (by simp)⟩

instance (a : α) [ha : Fits source lo a hi] : Fits source lo (some a) hi :=
  ⟨Yield.le ha.out, fun _ h => Option.some.inj h ▸ ha.out⟩

instance (a? : Option α) [ha : Fits source lo a? hi] : Fits source lo a?.toList hi := by
  cases a? with
  | none => exact ⟨Chained.nil ha.out.1⟩
  | some a => exact ⟨Chained.cons ha.out.1 (ha.out.2 a rfl) (.nil le_rfl)⟩

instance (as? : Option (List α)) [has : Fits source lo as? hi] :
    Fits source lo (as?.getD []) hi := by
  cases as? with
  | none => exact ⟨Chained.nil has.out.1⟩
  | some as => exact ⟨has.out.2 as rfl⟩

instance (a : α) (b : β) [ha : Fits source lo a mid] [hb : Fits source mid b hi] :
    Fits source lo (a, b) hi :=
  ⟨mid, ha.out, hb.out⟩

end Fits

namespace Token

variable {source rest : Text} {t : Token}

theorem Stands.spelled (h : t.Stands source rest) (hkind : t.kind = .word ∨ t.kind = .punctuator) :
    Spelled source ⟨t.start, t.stop⟩ t.text := by
  obtain ⟨before, written, hsource, hstart, hstop, hwrites⟩ := h
  refine ⟨written, ?_, hwrites.spells hkind⟩
  exact Text.slice?_eq_some_iff.mpr ⟨before, rest, hsource, hstart, hstop⟩

theorem Stands.start_le_stop (h : t.Stands source rest) : t.start ≤ t.stop := by
  obtain ⟨before, written, -, hstart, hstop, -⟩ := h
  rw [← hstart, ← hstop]
  exact Nat.le_add_right _ _

theorem kind_of_is {text : String} (h : t.is text = true) :
    t.kind = .word ∨ t.kind = .punctuator := by
  simpa [is] using (Bool.and_eq_true_iff.mp h).1

theorem spells_of_is {written : Text} {text : String} (h : t.is text = true)
    (hwrites : t.kind.Writes written t.text) : Spells written text.toList := by
  obtain ⟨-, htext⟩ := Bool.and_eq_true_iff.mp h
  rw [← of_decide_eq_true htext]
  exact hwrites.spells (kind_of_is h)

theorem Stands.start_lt_stop {text : String} (h : t.Stands source rest) (his : t.is text = true)
    (htext : text.toList ≠ []) : t.start < t.stop := by
  obtain ⟨before, written, -, hstart, hstop, hwrites⟩ := h
  have hwritten : written ≠ [] := by
    rintro rfl
    have hspells := spells_of_is his hwrites
    generalize text.toList = name at hspells htext
    cases hspells
    exact htext rfl
  obtain ⟨c, others, rfl⟩ := List.exists_cons_of_ne_nil hwritten
  have hpos := c.utf8Size_pos
  rw [Text.byteLength_cons] at hstop
  omega

theorem kind_of_isName (h : t.isName = true) : t.kind = .word ∨ t.kind = .punctuator :=
  Or.inl (by simpa [isName] using (Bool.and_eq_true_iff.mp h).1)

theorem kind_of_isBindingName (h : t.isBindingName = true) :
    t.kind = .word ∨ t.kind = .punctuator := by
  simp only [isBindingName, Bool.or_eq_true] at h
  rcases h with (h | h) | h
  · exact kind_of_isName h
  · exact kind_of_is h
  · exact kind_of_is h

end Token

/-- The token of the state stands in the text, behind the one before it and followed by what is still
to be read. -/
structure State.Stands (source : Text) (s : State) : Prop where
  token : s.token.Stands source s.rest
  behind : s.before ≤ s.token.start

/-- If the token of the given state stands in the text, the parser comes to another such state, not
before the first, and what it yields lies between `lo` and there. -/
def KeepsFrom (source : Text) (s : State) (lo : Nat) {α : Type} [Yield α] (p : Parser α) : Prop :=
  ∀ c s' a, s.Stands source → p c s = .found a s' →
    s'.Stands source ∧ s.token.start ≤ s'.token.start ∧ Yield.Lies source lo s'.token.start a

/-- The parser keeps to the text from every state whose token is not before `k`. -/
class Keeps (source : Text) (lo k : Nat) {α : Type} [Yield α] (p : Parser α) : Prop where
  keepsFrom : ∀ s : State, k ≤ s.token.start → KeepsFrom source s lo p

namespace Parser

variable {source : Text} {lo k : Nat} {α β γ δ ε : Type} [Yield α]

theorem Keeps.later {p : Parser α} {m : Nat} (h : Keeps source lo k p) (hle : k ≤ m) :
    Keeps source lo m p :=
  ⟨fun s hm => h.keepsFrom s (hle.trans hm)⟩

theorem Keeps.lower {p : Parser α} {lo' : Nat} (h : Keeps source lo k p) (hle : lo' ≤ lo) :
    Keeps source lo' k p where
  keepsFrom := by
    intro s hk c s' a hs hfound
    obtain ⟨hs', hnext, ha⟩ := h.keepsFrom s hk c s' a hs hfound
    exact ⟨hs', hnext, Yield.lower ha hle⟩

/-! ### Sequences and choices -/

instance keeps_pure (a : α) {hi : Nat} [ha : Fits source lo a hi] [hhi : AtMost hi k] :
    Keeps source lo k (pure a : Parser α) where
  keepsFrom := by
    intro s hk c s' b hs h
    obtain ⟨rfl, rfl⟩ : a = b ∧ s = s' := by simpa [pure, Parser.pure] using h
    exact ⟨hs, le_rfl, Yield.widen ha.out le_rfl (hhi.out.trans hk)⟩

instance (priority := 10001) keeps_pure_bind (a : δ) (f : δ → Parser α)
    [hf : Keeps source lo k (f a)] : Keeps source lo k (pure a >>= f) :=
  hf

theorem bind_eq_found {p : Parser δ} {f : δ → Parser ε} {c : Context} {s s' : State} {b : ε}
    (h : (p >>= f) c s = .found b s') : ∃ a s'', p c s = .found a s'' ∧ f a c s'' = .found b s' := by
  cases hp : p c s with
  | found a s'' => exact ⟨a, s'', rfl, by simpa [bind, Parser.bind, hp] using h⟩
  | failed known => simp [bind, Parser.bind, hp] at h

theorem keeps_bind_of [Yield β] {lo' : Nat} {p : Parser α} {f : α → Parser β}
    (hp : Keeps source lo' k p)
    (hf : ∀ a mark, k ≤ mark → Yield.Lies source lo' mark a → Keeps source lo mark (f a)) :
    Keeps source lo k (p >>= f) where
  keepsFrom := by
    intro s hk c s' b hs h
    obtain ⟨a, s'', hfirst, hrest⟩ := bind_eq_found h
    obtain ⟨hs'', hle, ha⟩ := hp.keepsFrom s hk c s'' a hs hfirst
    obtain ⟨hs', hle', hb⟩ := (hf a _ (hk.trans hle) ha).keepsFrom s'' le_rfl c s' b hs'' hrest
    exact ⟨hs', hle.trans hle', hb⟩

instance keeps_bind [Yield β] (p : Parser α) (f : α → Parser β) [hp : Keeps source k k p]
    [hf : ∀ a : Found source k k α, Keeps source lo a.mark (f a.val)] :
    Keeps source lo k (p >>= f) :=
  keeps_bind_of hp fun a mark hk ha => hf ⟨a, mark, hk, ha⟩

-- what is read may hold what was read before
instance (priority := low) keeps_bind_back [Yield β] (p : Parser α) (f : α → Parser β)
    [hp : Keeps source lo k p] [hf : ∀ a : Found source lo k α, Keeps source lo a.mark (f a.val)] :
    Keeps source lo k (p >>= f) :=
  keeps_bind_of hp fun a mark hk ha => hf ⟨a, mark, hk, ha⟩

theorem keeps_bind_placeless_of [Placeless δ] {p : Parser δ} {f : δ → Parser α}
    (hp : Keeps source k k p) (hf : ∀ a, Keeps source lo k (f a)) : Keeps source lo k (p >>= f) :=
  keeps_bind_of hp fun a _ hk _ => Keeps.later (hf a) hk

-- no place has to be kept for what has none
instance (priority := high) keeps_bind_placeless [Placeless δ] (p : Parser δ) (f : δ → Parser α)
    [hp : Keeps source k k p] [hf : ∀ a, Keeps source lo k (f a)] : Keeps source lo k (p >>= f) :=
  keeps_bind_placeless_of hp hf

instance keeps_bind_pair [Yield β] [Yield γ] (p : Parser (α × β)) (f : α × β → Parser γ)
    [hp : Keeps source k k p]
    [hf : ∀ (a : Found source k k α) (b : Found source a.mark a.mark β),
      Keeps source lo b.mark (f (a.val, b.val))] : Keeps source lo k (p >>= f) :=
  keeps_bind_of hp fun (a, b) mark _ ⟨mid, ha, hb⟩ =>
    hf ⟨a, mid, Yield.le ha, ha⟩ ⟨b, mark, Yield.le hb, hb⟩

theorem keeps_bind_option_of [Yield β] {lo' : Nat} {p : Parser (Option α)} {f : Option α → Parser β}
    (hp : Keeps source lo' k p) (hnone : Keeps source lo k (f none))
    (hsome : ∀ a : Found source lo' k α, Keeps source lo a.mark (f (some a.val))) :
    Keeps source lo k (p >>= f) :=
  keeps_bind_of hp fun a? mark hk ha => by
    cases a? with
    | none => exact Keeps.later hnone hk
    | some a => exact hsome ⟨a, mark, hk, ha.2 a rfl⟩

instance keeps_bind_option [Yield β] (p : Parser (Option α)) (f : Option α → Parser β)
    [hp : Keeps source k k p] [hnone : Keeps source lo k (f none)]
    [hsome : ∀ a : Found source k k α, Keeps source lo a.mark (f (some a.val))] :
    Keeps source lo k (p >>= f) :=
  keeps_bind_option_of hp hnone hsome

instance (priority := low) keeps_bind_option_back [Yield β] (p : Parser (Option α))
    (f : Option α → Parser β) [hp : Keeps source lo k p] [hnone : Keeps source lo k (f none)]
    [hsome : ∀ a : Found source lo k α, Keeps source lo a.mark (f (some a.val))] :
    Keeps source lo k (p >>= f) :=
  keeps_bind_option_of hp hnone hsome

-- tried last, since it asks for three things where the others ask for one
instance (priority := low) keeps_bind_list [Yield β] (p : Parser (List α))
    (f : List α → Parser β) [hp : Keeps source k k p] [hnil : Keeps source lo k (f [])]
    [hone : ∀ a : Found source k k α, Keeps source lo a.mark (f [a.val])]
    [hmany : ∀ (a : Found source k k α) (b : Found source a.mark a.mark α)
      (rest : Found source b.mark b.mark (List α)),
      Keeps source lo rest.mark (f (a.val :: b.val :: rest.val))] : Keeps source lo k (p >>= f) :=
  keeps_bind_of hp fun as mark hk has => by
    rw [Yield.lies_list] at has
    cases has with
    | nil => exact Keeps.later hnil hk
    | cons hle ha htail =>
        cases htail with
        | nil hle' => exact hone ⟨_, mark, hk, Yield.widen ha le_rfl hle'⟩
        | cons hle' hb hrest => exact hmany ⟨_, _, hle, ha⟩ ⟨_, _, hle', hb⟩ ⟨_, mark, hrest.le, hrest⟩

instance keeps_ite (condition : Prop) [Decidable condition] (p q : Parser α)
    [hp : Keeps source lo k p] [hq : Keeps source lo k q] :
    Keeps source lo k (if condition then p else q) := by
  split
  · exact hp
  · exact hq

instance keeps_fail : Keeps source lo k (fail : Parser α) where
  keepsFrom := by
    intro s hk c s' a hs h
    simp [fail] at h

instance keeps_within (f : Context → Context) (p : Parser α) [hp : Keeps source lo k p] :
    Keeps source lo k (within f p) :=
  ⟨fun s hk c s' a hs h => hp.keepsFrom s hk (f c) s' a hs h⟩

instance keeps_withIn (p : Parser α) [Keeps source lo k p] : Keeps source lo k (withIn p) := by
  unfold withIn
  infer_instance

instance keeps_withoutIn (p : Parser α) [Keeps source lo k p] :
    Keeps source lo k (withoutIn p) := by
  unfold withoutIn
  infer_instance

/-! ### Staying at the token -/

/-- The parser stays at the token. -/
class Still {α : Type} (p : Parser α) : Prop where
  out {c : Context} {s s' : State} {a : α} : p c s = .found a s' →
    s'.token = s.token ∧ s'.rest = s.rest ∧ s'.before = s.before

theorem still_of_eq {p : Parser δ} (h : ∀ c s, ∃ a, p c s = .found a s) : Still p where
  out {c s s' a} hfound := by
    obtain ⟨a', heq⟩ := h c s
    obtain ⟨-, rfl⟩ : a' = a ∧ s = s' := by simpa [heq] using hfound
    exact ⟨rfl, rfl, rfl⟩

instance still_pure (a : δ) : Still (pure a : Parser δ) := still_of_eq fun _ _ => ⟨a, rfl⟩

instance still_current : Still current := still_of_eq fun _ s => ⟨s.token, rfl⟩

instance still_following : Still following := still_of_eq fun _ _ => ⟨_, rfl⟩

instance still_state : Still state := still_of_eq fun _ s => ⟨s, rfl⟩

instance still_context : Still context := still_of_eq fun c _ => ⟨c, rfl⟩

instance still_here : Still here := still_of_eq fun _ s => ⟨s.token.start, rfl⟩

theorem still_modify {f : State → State}
    (h : ∀ s, (f s).token = s.token ∧ (f s).rest = s.rest ∧ (f s).before = s.before) :
    Still (modify f) where
  out {c s s' a} hfound := by
    obtain rfl := by simpa [modify] using hfound
    exact h s

instance still_note : Still note := still_modify fun _ => ⟨rfl, rfl, rfl⟩

instance still_fail : Still (fail : Parser δ) where
  out h := by simp [fail] at h

instance still_bind (p : Parser δ) (f : δ → Parser ε) [hp : Still p] [hf : ∀ a, Still (f a)] :
    Still (p >>= f) where
  out h := by
    obtain ⟨a, s'', hfirst, hrest⟩ := bind_eq_found h
    obtain ⟨htoken, hrest', hbefore⟩ := hp.out hfirst
    obtain ⟨htoken', hrest'', hbefore'⟩ := (hf a).out hrest
    exact ⟨htoken'.trans htoken, hrest''.trans hrest', hbefore'.trans hbefore⟩

instance still_ite (condition : Prop) [Decidable condition] (p q : Parser δ) [hp : Still p]
    [hq : Still q] : Still (if condition then p else q) := by
  split
  · exact hp
  · exact hq

instance still_ahead (p : Parser Bool) : Still (ahead p) where
  out h := by
    unfold ahead at h
    split at h
    · obtain ⟨-, rfl⟩ := by simpa using h
      exact ⟨rfl, rfl, rfl⟩
    · obtain ⟨-, rfl⟩ := by simpa using h
      exact ⟨rfl, rfl, rfl⟩

instance still_noteIf (fault : Bool) : Still (noteIf fault) := by
  unfold noteIf
  infer_instance

instance still_budget : Still budget := by
  unfold budget
  infer_instance

instance still_sees (text : String) : Still (sees text) := by
  unfold sees
  infer_instance

instance still_seesOneOf (texts : List String) : Still (seesOneOf texts) := by
  unfold seesOneOf
  infer_instance

instance still_mayEnd : Still mayEnd := by
  unfold mayEnd
  infer_instance

theorem Still.stands {p : Parser δ} (hp : Still p) {c : Context} {s s' : State} {a : δ}
    (h : p c s = .found a s') (hs : s.Stands source) : s'.Stands source := by
  obtain ⟨htoken, hrest, hbefore⟩ := hp.out h
  refine ⟨?_, ?_⟩
  · rw [htoken, hrest]
    exact hs.token
  · rw [htoken, hbefore]
    exact hs.behind

theorem keeps_bind_still_of {p : Parser δ} {f : δ → Parser α} (hp : Still p)
    (hf : ∀ a, Keeps source lo k (f a)) : Keeps source lo k (p >>= f) where
  keepsFrom := by
    intro s hk c s' b hs h
    obtain ⟨a, s'', hfirst, hrest⟩ := bind_eq_found h
    obtain ⟨htoken, -⟩ := hp.out hfirst
    have hrest := (hf a).keepsFrom s'' (htoken ▸ hk) c s' b (hp.stands hfirst hs) hrest
    rwa [htoken] at hrest

instance (priority := high) keeps_bind_still (p : Parser δ) (f : δ → Parser α) [hp : Still p]
    [hf : ∀ a, Keeps source lo k (f a)] : Keeps source lo k (p >>= f) :=
  keeps_bind_still_of hp hf

theorem keeps_here_bind_of {f : Nat → Parser α}
    (hf : ∀ start : Later k, Keeps source lo start.val (f start.val)) :
    Keeps source lo k (here >>= f) :=
  ⟨fun s hk c s' a hs h => (hf ⟨s.token.start, hk⟩).keepsFrom s le_rfl c s' a hs h⟩

-- the place is where the token is
instance (priority := 10001) keeps_here_bind (f : Nat → Parser α)
    [hf : ∀ start : Later k, Keeps source lo start.val (f start.val)] :
    Keeps source lo k (here >>= f) :=
  keeps_here_bind_of hf

theorem keepsFrom_of_start [Placeless δ] {p : Parser δ} {s : State}
    (hlo : lo ≤ s.token.start)
    (h : ∀ {c s' a}, s.token.Stands source s.rest → p c s = .found a s' →
      s'.token.Stands source s'.rest ∧ s'.token.start = s.token.start ∧ s'.before = s.before) :
    KeepsFrom source s lo p := by
  intro c s' a hs hfound
  obtain ⟨hstands, hstart, hbefore⟩ := h hs.token hfound
  refine ⟨⟨hstands, ?_⟩, hstart.ge, Placeless.lies a ?_⟩
  · rw [hbefore, hstart]
    exact hs.behind
  · rw [hstart]
    exact hlo

instance (priority := low) keeps_of_still [Placeless δ] (p : Parser δ) [hp : Still p]
    [AtMost lo k] : Keeps source lo k p where
  keepsFrom := by
    intro s hk c s' a hs h
    obtain ⟨htoken, -⟩ := hp.out h
    rw [htoken]
    exact ⟨hp.stands h hs, le_rfl, Placeless.lies a (AtMost.out.trans hk)⟩

/-! ### Moving past the token -/

/-- The parser moves past the token. -/
class Passes (source : Text) {α : Type} (p : Parser α) : Prop where
  out {c : Context} {s s' : State} {a : α} : s.Stands source → p c s = .found a s' →
    s.token.stop ≤ s'.token.start

theorem keepsFrom_of_moves {p : Parser Unit} {s : State} (hlo : lo ≤ s.token.start)
    (h : ∀ {c s' a}, s.token.Stands source s.rest → p c s = .found a s' →
      s'.token.Stands source s'.rest ∧ s'.before = s.token.stop ∧ s.token.stop ≤ s'.token.start) :
    KeepsFrom source s lo p := by
  intro c s' a hs hfound
  obtain ⟨hstands, hbefore, hnext⟩ := h hs.token hfound
  have hle : s.token.start ≤ s'.token.start := hs.token.start_le_stop.trans hnext
  exact ⟨⟨hstands, hbefore.trans_le hnext⟩, hle, hlo.trans hle⟩

theorem stands_next {t : Token} {rest : Text} (h : t.Stands source rest) :
    (readToken t.stop rest).token.Stands source (readToken t.stop rest).rest ∧
      t.stop ≤ (readToken t.stop rest).token.start := by
  obtain ⟨before, written, hsource, -, hstop, -⟩ := h
  obtain ⟨gap, -, hgap⟩ := reaches_skipGap .between false t.stop rest
  refine ⟨?_, (Nat.le_add_right _ _).trans hgap.ge⟩
  rw [← hstop, ← Text.byteLength_append]
  exact stands_readToken (by rw [hsource, List.append_assoc])

instance keeps_advance [AtMost lo k] : Keeps source lo k advance where
  keepsFrom := fun s hk => keepsFrom_of_moves (AtMost.out.trans hk) fun hs h => by
    obtain rfl := by simpa [advance, moveTo] using h
    exact ⟨(stands_next hs).1, rfl, (stands_next hs).2⟩

instance passes_advance : Passes source advance where
  out hs h := by
    obtain rfl := by simpa [advance, moveTo] using h
    exact (stands_next hs.token).2

instance passes_bind_still (p : Parser δ) (f : δ → Parser ε) [hp : Still p]
    [hf : ∀ a, Passes source (f a)] : Passes source (p >>= f) where
  out hs h := by
    obtain ⟨a, s'', hfirst, hrest⟩ := bind_eq_found h
    obtain ⟨htoken, -⟩ := hp.out hfirst
    rw [← htoken]
    exact (hf a).out (hp.stands hfirst hs) hrest

instance passes_bind [Yield β] (p : Parser α) (f : α → Parser β) [hp : Passes source p]
    [hkeeps : Keeps source 0 0 p] [hf : ∀ a : Found source 0 0 α, Keeps source 0 a.mark (f a.val)] :
    Passes source (p >>= f) where
  out {c s s' b} hs h := by
    obtain ⟨a, s'', hfirst, hrest⟩ := bind_eq_found h
    obtain ⟨hs'', hle, ha⟩ := hkeeps.keepsFrom s (Nat.zero_le _) c s'' a hs hfirst
    obtain ⟨-, hle', -⟩ :=
      (hf ⟨a, _, Nat.zero_le _, ha⟩).keepsFrom s'' le_rfl c s' b hs'' hrest
    exact (hp.out hs hfirst).trans hle'

instance passes_ite (condition : Prop) [Decidable condition] (p q : Parser δ)
    [hp : Passes source p] [hq : Passes source q] :
    Passes source (if condition then p else q) := by
  split
  · exact hp
  · exact hq

instance passes_fail : Passes source (fail : Parser δ) where
  out hs h := by simp [fail] at h

instance passes_bump : Passes source bump := by
  unfold bump
  infer_instance

instance passes_expect (text : String) : Passes source (expect text) := by
  unfold expect
  infer_instance

section

variable [AtMost lo k]

instance keeps_bump : Keeps source lo k bump := by
  unfold bump
  infer_instance

instance keeps_accept (text : String) : Keeps source lo k (accept text) := by
  unfold accept
  infer_instance

instance keeps_expect (text : String) : Keeps source lo k (expect text) := by
  unfold expect
  infer_instance

instance keeps_semicolon : Keeps source lo k semicolon := by
  unfold semicolon
  infer_instance

instance keeps_attempt (p : Parser α) [hp : Keeps source lo k p] : Keeps source lo k (attempt p) where
  keepsFrom := by
    intro s hk c s' a hs h
    unfold attempt at h
    split at h
    · rename_i b s'' hfound
      obtain ⟨rfl, rfl⟩ := by simpa using h
      obtain ⟨hs'', hle, hb⟩ := hp.keepsFrom s hk c s'' b hs hfound
      exact ⟨hs'', hle, Yield.le hb, fun x hx => Option.some.inj hx ▸ hb⟩
    · -- a failed attempt goes back to the state that it began with
      obtain ⟨rfl, rfl⟩ := by simpa using h
      exact ⟨⟨hs.token, hs.behind⟩, le_rfl, AtMost.out.trans hk, fun x hx => absurd hx (by simp)⟩

end

/-! ### From a given state -/

theorem keepsFrom_of_stands {s : State} {p : Parser α}
    (h : s.Stands source → KeepsFrom source s lo p) : KeepsFrom source s lo p :=
  fun c s' a hs hfound => h hs c s' a hs hfound

theorem keepsFrom_ite {condition : Prop} [Decidable condition] {s : State} {p q : Parser α}
    (hp : condition → KeepsFrom source s lo p) (hq : ¬condition → KeepsFrom source s lo q) :
    KeepsFrom source s lo (if condition then p else q) := by
  split
  · rename_i h
    exact hp h
  · rename_i h
    exact hq h

theorem keeps_current_bind_of {f : Token → Parser α}
    (h : ∀ s, k ≤ s.token.start → KeepsFrom source s lo (f s.token)) :
    Keeps source lo k (current >>= f) :=
  ⟨fun s hk c s' a hs hfound => h s hk c s' a hs hfound⟩

theorem keepsFrom_sees_bind {text : String} {f : Bool → Parser α} {s : State}
    (h : KeepsFrom source s lo (f (s.token.is text))) : KeepsFrom source s lo (sees text >>= f) :=
  fun c s' a hs hfound => h c s' a hs hfound

theorem keepsFrom_state_bind {f : State → Parser α} {s : State} (h : KeepsFrom source s lo (f s)) :
    KeepsFrom source s lo (state >>= f) :=
  fun c s' a hs hfound => h c s' a hs hfound

theorem keeps_state_bind_of {f : State → Parser α}
    (h : ∀ s, k ≤ s.token.start → KeepsFrom source s lo (f s)) : Keeps source lo k (state >>= f) :=
  ⟨fun s hk => keepsFrom_state_bind (h s hk)⟩

theorem keepsFrom_pure {s : State} {a : α} (h : Yield.Lies source lo s.token.start a) :
    KeepsFrom source s lo (pure a : Parser α) := by
  intro c s' b hs hfound
  obtain ⟨rfl, rfl⟩ : a = b ∧ s = s' := by simpa [pure, Parser.pure] using hfound
  exact ⟨hs, le_rfl, h⟩

theorem keepsFrom_bind [Yield β] {lo' : Nat} {p : Parser α} {f : α → Parser β} {s : State}
    (hp : KeepsFrom source s lo' p)
    (hf : ∀ a : Found source lo' s.token.start α, Keeps source lo a.mark (f a.val)) :
    KeepsFrom source s lo (p >>= f) := by
  intro c s' b hs h
  obtain ⟨a, s'', hfirst, hrest⟩ := bind_eq_found h
  obtain ⟨hs'', hle, ha⟩ := hp c s'' a hs hfirst
  obtain ⟨hs', hle', hb⟩ := (hf ⟨a, _, hle, ha⟩).keepsFrom s'' le_rfl c s' b hs'' hrest
  exact ⟨hs', hle.trans hle', hb⟩

theorem keepsFrom_bind_still {p : Parser δ} {f : δ → Parser α} {s : State}
    (hp : Still p) (hf : ∀ {c s₁ a}, p c s = .found a s₁ → s₁.token = s.token →
      KeepsFrom source s₁ lo (f a)) : KeepsFrom source s lo (p >>= f) := by
  intro c s' b hs h
  obtain ⟨a, s₁, hfirst, hrest⟩ := bind_eq_found h
  obtain ⟨htoken, -⟩ := hp.out hfirst
  rw [← htoken]
  exact hf hfirst htoken c s' b (hp.stands hfirst hs) hrest

theorem keepsFrom_bind_passes [Yield β] {p : Parser α} {f : α → Parser β} {s : State}
    (hp : Keeps source k k p) (hpasses : Passes source p) (hk : k ≤ s.token.start)
    (hf : ∀ a : Found source k k α, s.token.stop ≤ a.mark → Keeps source lo a.mark (f a.val)) :
    KeepsFrom source s lo (p >>= f) := by
  intro c s' b hs h
  obtain ⟨a, s'', hfirst, hrest⟩ := bind_eq_found h
  obtain ⟨hs'', hle, ha⟩ := hp.keepsFrom s hk c s'' a hs hfirst
  have hrest := (hf ⟨a, _, hk.trans hle, ha⟩ (hpasses.out hs hfirst)).keepsFrom s'' le_rfl c s' b
    hs'' hrest
  exact ⟨hrest.1, hle.trans hrest.2.1, hrest.2.2⟩

theorem keeps_spanFrom_bind_of {start : Nat} {f : Span → Parser α}
    (h : ∀ s : State, k ≤ s.token.start → s.before ≤ s.token.start →
      KeepsFrom source s lo (f ⟨start, s.before⟩)) : Keeps source lo k (spanFrom start >>= f) :=
  ⟨fun s hk c s' a hs hfound => h s hk hs.behind c s' a hs hfound⟩

theorem before_bump {c : Context} {s s' : State} {a : Unit} (h : bump c s = .found a s') :
    s'.before = s.token.stop := by
  obtain ⟨t, s₁, hcurrent, h⟩ := bind_eq_found h
  obtain ⟨_, s₂, hnote, h⟩ := bind_eq_found h
  obtain rfl := by simpa [advance, moveTo] using h
  obtain ⟨htoken, -⟩ := still_current.out hcurrent
  obtain ⟨htoken', -⟩ := (still_noteIf _).out hnote
  simp [htoken, htoken']

theorem before_expect {text : String} {c : Context} {s s' : State} {a : Unit}
    (h : expect text c s = .found a s') : s'.before = s.token.stop := by
  obtain ⟨yes, s₁, hsees, h⟩ := bind_eq_found h
  obtain ⟨htoken, -⟩ := (still_sees text).out hsees
  split at h
  · rw [before_bump h, htoken]
  · simp [fail] at h

theorem keepsFrom_bump_bind {p : Parser α} {s : State}
    (h : ∀ s₁ : State, s₁.before = s.token.stop → s.token.start ≤ s₁.token.start →
      KeepsFrom source s₁ lo p) : KeepsFrom source s lo (bump >>= fun _ => p) := by
  intro c s' a hs hfound
  obtain ⟨_, s₁, hbump, hrest⟩ := bind_eq_found hfound
  obtain ⟨hs₁, hle, -⟩ := (inferInstance : Keeps source 0 0 bump).keepsFrom s (Nat.zero_le _) c s₁ _
    hs hbump
  obtain ⟨hs', hle', ha⟩ := h s₁ (before_bump hbump) hle c s' a hs₁ hrest
  exact ⟨hs', hle.trans hle', ha⟩

theorem accept_ite (text : String) (p q : Parser δ) (c : Context) (s : State) :
    (do if ← accept text then p else q) c s =
      if s.token.is text = true then (bump >>= fun _ => p) c s else q c s := by
  by_cases htext : s.token.is text = true
  · cases hbump : bump c s <;>
      simp [accept, sees, current, bind, Parser.bind, pure, Parser.pure, htext, hbump]
  · simp [accept, sees, current, bind, Parser.bind, pure, Parser.pure, htext]

theorem keepsFrom_accept_ite {text : String} {p q : Parser α} {s : State}
    (hp : s.token.is text = true → KeepsFrom source s lo (bump >>= fun _ => p))
    (hq : KeepsFrom source s lo q) :
    KeepsFrom source s lo (do if ← accept text then p else q) := by
  intro c s' a hs hfound
  rw [accept_ite] at hfound
  split at hfound
  · rename_i htext
    exact hp htext c s' a hs hfound
  · exact hq c s' a hs hfound

/-! ### Repetitions -/

section

variable [AtMost lo k]

instance keeps_untilWithin (stop : Parser Bool) (item : Parser α) (n : Nat)
    [∀ k, Keeps source k k stop] [∀ k, Keeps source k k item] :
    Keeps source lo k (untilWithin stop item n) := by
  induction n generalizing lo k with
  | zero => exact keeps_fail
  | succ n ih =>
      unfold untilWithin
      infer_instance

instance keeps_untilStop (stop : Parser Bool) (item : Parser α) [∀ k, Keeps source k k stop]
    [∀ k, Keeps source k k item] : Keeps source lo k (untilStop stop item) := by
  unfold untilStop
  infer_instance

instance keeps_commaWithin (close : String) (item : Parser α) (n : Nat)
    [∀ k, Keeps source k k item] : Keeps source lo k (commaWithin close item n) := by
  induction n generalizing lo k with
  | zero => exact keeps_fail
  | succ n ih =>
      unfold commaWithin
      infer_instance

instance keeps_commaList (close : String) (item : Parser α) [∀ k, Keeps source k k item] :
    Keeps source lo k (commaList close item) := by
  unfold commaList
  infer_instance

instance keeps_separatedWithin (separator : String) (item : Parser α) (n : Nat)
    [∀ k, Keeps source k k item] : Keeps source lo k (separatedWithin separator item n) := by
  induction n generalizing lo k with
  | zero => exact keeps_fail
  | succ n ih =>
      unfold separatedWithin
      infer_instance

instance keeps_separated (separator : String) (item : Parser α) [∀ k, Keeps source k k item] :
    Keeps source lo k (separated separator item) := by
  unfold separated
  infer_instance

end

/-! ### Nodes -/

-- decorators may stand before the start of the node they belong to
instance keeps_nodeFrom (start : Nat) (kind : NodeKind) (children : List Tree) {hi : Nat}
    [hstart : AtMost lo start] [hchildren : Fits source lo children hi] [hhi : AtMost hi k] :
    Keeps source lo k (nodeFrom start kind children) where
  keepsFrom := by
    intro s hk c s' a hs h
    obtain ⟨rfl, rfl⟩ := by simpa [nodeFrom, spanFrom, bind, Parser.bind, pure, Parser.pure] using h
    refine ⟨hs, le_rfl, Tree.Lies.node hstart.out hs.behind ?_⟩
    exact Chained.widen_right hchildren.out (hhi.out.trans hk)

instance (priority := high) keeps_nodeFrom_bind (start : Nat) (kind : NodeKind)
    (children : List Tree) {hi : Nat} (f : Tree → Parser α) [Fits source start children hi]
    [AtMost hi k] [hf : ∀ t : Found source start k Tree, Keeps source lo t.mark (f t.val)] :
    Keeps source lo k (nodeFrom start kind children >>= f) :=
  keeps_bind_of (inferInstance : Keeps source start k _) fun t mark hk ht => hf ⟨t, mark, hk, ht⟩

end Parser

/-- Every rule of the grammar keeps to the text. What an element yields begins at the `<` before it. -/
class Grammar.Keeps (source : Text) (g : Grammar) : Prop where
  rule (r : Rule) (k : Nat) : (∀ child, r ≠ .element child) → Script.Keeps source k k (g r)
  element (child : Bool) (s : State) (lo : Nat) : lo < s.before →
    KeepsFrom source s lo (g (.element child))

namespace Grammar

variable {source : Text} {lo k : Nat} [AtMost lo k] (g : Grammar) [h : g.Keeps source]

instance keeps_assignment (returnTypes : Bool) :
    Script.Keeps source lo k (g (.assignment returnTypes)) :=
  Parser.Keeps.lower (h.rule _ k (by simp)) AtMost.out

instance keeps_binary (least : Nat) : Script.Keeps source lo k (g (.binary least)) :=
  Parser.Keeps.lower (h.rule _ k (by simp)) AtMost.out

instance keeps_unary : Script.Keeps source lo k (g .unary) :=
  Parser.Keeps.lower (h.rule _ k (by simp)) AtMost.out

instance keeps_leftHand : Script.Keeps source lo k (g .leftHand) :=
  Parser.Keeps.lower (h.rule _ k (by simp)) AtMost.out

instance keeps_constructed : Script.Keeps source lo k (g .constructed) :=
  Parser.Keeps.lower (h.rule _ k (by simp)) AtMost.out

instance keeps_pattern : Script.Keeps source lo k (g .pattern) :=
  Parser.Keeps.lower (h.rule _ k (by simp)) AtMost.out

instance keeps_type : Script.Keeps source lo k (g .type) :=
  Parser.Keeps.lower (h.rule _ k (by simp)) AtMost.out

instance keeps_typeOperand : Script.Keeps source lo k (g .typeOperand) :=
  Parser.Keeps.lower (h.rule _ k (by simp)) AtMost.out

instance keeps_statement (place : Place) : Script.Keeps source lo k (g (.statement place)) :=
  Parser.Keeps.lower (h.rule _ k (by simp)) AtMost.out

end Grammar

end HandlerGuard.Script
