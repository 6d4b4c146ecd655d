import HandlerGuard.Proofs.Script.Grammar.Type
import HandlerGuard.Script.Grammar.Expression

namespace HandlerGuard.Script.Parser

set_option synthInstance.maxSize 1000000000

variable {source : Text} {lo k : Nat} [AtMost lo k] (g : Grammar) [g.Keeps source]

/-! ### Classes -/

instance still_checkMemberKey (t : Token) (found : List Text) : Still (checkMemberKey t found) := by
  unfold checkMemberKey
  infer_instance

instance still_checkStaticKey (t : Token) (found : List Text) : Still (checkStaticKey t found) := by
  unfold checkStaticKey
  infer_instance

instance keeps_staticBlock : Keeps source lo k (staticBlock g) := by
  unfold staticBlock
  infer_instance

instance still_checkBody (parts : FunctionParts) (marks : List Tree) (found : List Text) :
    Still (checkBody parts marks found) := by
  unfold checkBody
  infer_instance

instance keeps_methodRest (marks : List Tree) (found : List Text) (generator : Bool) :
    Keeps source lo k (methodRest g marks found generator) := by
  unfold methodRest
  infer_instance

instance keeps_memberValue : Keeps source lo k (memberValue g) := by
  unfold memberValue
  infer_instance

instance keeps_fieldRest (found : List Text) : Keeps source lo k (fieldRest g found) := by
  unfold fieldRest
  infer_instance

instance keeps_methodOrField (start : Nat) (marks : List Tree) (found : List Text) {hi : Nat}
    [AtMost lo start] [Fits source lo marks hi] [AtMost hi k] :
    Keeps source lo k (methodOrField g start marks found) := by
  unfold methodOrField
  infer_instance

instance keeps_accessor (start : Nat) (marks : List Tree) (found : List Text)
    (check : FunctionParts → Parser Unit) {hi : Nat} [AtMost lo start] [Fits source lo marks hi]
    [AtMost hi k] [∀ parts, Still (check parts)] :
    Keeps source lo k (accessor g start marks found check) := by
  unfold accessor
  infer_instance

instance keeps_seesConstructor (found : List Text) : Keeps source lo k (seesConstructor found) := by
  unfold seesConstructor
  infer_instance

instance keeps_constructorMember (start : Nat) (marks : List Tree) (found : List Text)
    [AtMost lo start] : Keeps source lo k (constructorMember g start marks found) := by
  unfold constructorMember
  infer_instance

instance keeps_classMember : Keeps source lo k (classMember g) := by
  unfold classMember
  infer_instance

instance keeps_classMembers : Keeps source lo k (classMembers g) := by
  unfold classMembers
  infer_instance

instance keeps_extended : Keeps source lo k (extended g) := by
  unfold extended
  refine keeps_bind_of (inferInstance : Keeps source lo k _) fun base mark hk hbase => ?_
  have := Fits.mk hbase
  split
  · infer_instance
  · infer_instance

instance keeps_heritageWithin (extendsSeen implementsSeen : Bool) (n : Nat) :
    Keeps source lo k (heritageWithin g extendsSeen implementsSeen n) := by
  induction n generalizing extendsSeen implementsSeen lo k with
  | zero => exact keeps_fail
  | succ n ih =>
      unfold heritageWithin
      infer_instance

instance keeps_classFrom (start : Nat) (marks : List Tree) {hi : Nat} [AtMost lo start]
    [Fits source lo marks hi] [AtMost hi k] : Keeps source lo k (classFrom g start marks) := by
  unfold classFrom
  infer_instance

/-! ### Literals -/

instance keeps_spread (start : Nat) (argument : Tree) {hi : Nat} [hstart : AtMost lo start]
    [h : Fits source lo argument hi] [hhi : AtMost hi k] :
    Keeps source lo k (do return Tree.spread (← spanFrom start) argument) :=
  keeps_spanFrom_bind_of fun _ hk hbehind => keepsFrom_pure <|
    Tree.Lies.spread hstart.out hbehind (Yield.widen h.out le_rfl (hhi.out.trans hk))

instance keeps_spreadElement : Keeps source lo k (spreadElement g) := by
  unfold spreadElement
  infer_instance

instance keeps_element : Keeps source lo k (element g) := by
  unfold element
  infer_instance

instance still_noteTrailing (start : Nat) (comma : Bool) : Still (noteTrailing start comma) := by
  unfold noteTrailing
  split
  · exact still_modify fun _ => ⟨rfl, rfl, rfl⟩
  · infer_instance

instance keeps_arrayLiteral : Keeps source lo k (arrayLiteral g) := by
  unfold arrayLiteral
  infer_instance

instance keeps_shorthandRest (start : Nat) (name : Tree) {hi : Nat} [AtMost lo start]
    [Fits source lo name hi] [AtMost hi k] : Keeps source lo k (shorthandRest g start name) := by
  have : Still (modify fun s => { s with initialized := start :: s.initialized }) :=
    still_modify fun _ => ⟨rfl, rfl, rfl⟩
  unfold shorthandRest
  infer_instance

instance keeps_objectMethod (asynchronous generator : Bool) (check : FunctionParts → Parser Unit)
    [∀ parts, Still (check parts)] :
    Keeps source lo k (objectMethod g asynchronous generator check) := by
  unfold objectMethod
  infer_instance

instance keeps_property : Keeps source lo k (property g) := by
  refine keeps_here_bind_of fun start => keeps_bind_placeless_of inferInstance fun found => ?_
  refine keeps_bind_placeless_of inferInstance fun getter => ?_
  split
  · infer_instance
  · refine keeps_bind_placeless_of inferInstance fun setter => ?_
    split
    · infer_instance
    · refine keeps_bind_placeless_of inferInstance fun generator => ?_
      refine keeps_current_bind_of fun s hk => keepsFrom_bind_still inferInstance ?_
      intro _ s₁ answer hrefers htoken
      rw [← htoken] at hk hrefers ⊢
      cases answer with
      | false =>
          simp only [Bool.false_and, Bool.false_eq_true, if_false]
          exact Keeps.keepsFrom s₁ hk
      | true =>
          refine keepsFrom_of_stands fun hs => ?_
          refine keepsFrom_bind_passes inferInstance inferInstance hk fun key hmark => ?_
          have hlo : lo ≤ s₁.token.start := (AtMost.out : lo ≤ start.val).trans hk
          have := fits_identifier hs.token (kind_of_refers hrefers) hlo hmark
          infer_instance

instance keeps_objectLiteral : Keeps source lo k (objectLiteral g) := by
  unfold objectLiteral
  infer_instance

instance keeps_template (tagged : Bool) : Keeps source lo k (template g tagged) := by
  unfold template
  infer_instance

theorem keepsFrom_regexLiteral {s : State} (hlo : lo ≤ s.token.start)
    (hkind : s.token.kind = .punctuator) (hslash : s.token.isOneOf ["/", "/="] = true) :
    KeepsFrom source s lo regexLiteral := by
  have : AtMost lo s.token.start := ⟨hlo⟩
  exact keepsFrom_bind (keepsFrom_startRegex hlo hkind hslash) fun _ => inferInstance

/-! ### Markup -/

instance keeps_markupName : Keeps source lo k markupName := by
  unfold markupName
  infer_instance

instance keeps_markupMembers (n : Nat) : Keeps source lo k (markupMembers n) := by
  induction n generalizing lo k with
  | zero => exact keeps_fail
  | succ n ih =>
      unfold markupMembers
      infer_instance

instance keeps_elementName : Keeps source lo k elementName := by
  unfold elementName
  infer_instance

instance keeps_embedded (child : Bool) : Keeps source lo k (embedded g child) := by
  unfold embedded
  infer_instance

theorem keepsFrom_bump_angle {α : Type} [Yield α] {s : State} {p : Parser α}
    (hopen : s.token.is "<" = true)
    (h : ∀ s₁ : State, s.token.start < s₁.before → s.token.start ≤ s₁.token.start →
      KeepsFrom source s₁ lo p) : KeepsFrom source s lo (bump >>= fun _ => p) := by
  refine keepsFrom_of_stands fun hs => keepsFrom_bump_bind fun s₁ hbefore hle => h s₁ ?_ hle
  rw [hbefore]
  exact hs.token.start_lt_stop hopen (by simp)

instance keeps_attributeValue : Keeps source lo k (attributeValue g) := by
  refine keeps_current_bind_of fun s hk => ?_
  have hlo : lo ≤ s.token.start := AtMost.out.trans hk
  refine keepsFrom_ite (fun _ => Keeps.keepsFrom s hk) fun _ => ?_
  refine keepsFrom_accept_ite (fun _ => Keeps.keepsFrom s hk) ?_
  refine keepsFrom_accept_ite (fun hopen => ?_) (Keeps.keepsFrom s hk)
  refine keepsFrom_bump_angle hopen fun s₁ hbefore _ => ?_
  exact keepsFrom_bind (Grammar.Keeps.element false s₁ lo (hlo.trans_lt hbefore)) inferInstance

instance keeps_tagAttribute : Keeps source lo k (tagAttribute g) := by
  unfold tagAttribute
  infer_instance

instance keeps_children (n : Nat) : Keeps source lo k (children g n) := by
  induction n generalizing lo k with
  | zero => exact keeps_fail
  | succ n ih =>
      refine keeps_current_bind_of fun s hk => ?_
      have hlo : lo ≤ s.token.start := AtMost.out.trans hk
      have : AtMost lo s.token.start := ⟨hlo⟩
      refine keepsFrom_ite (fun _ => Keeps.keepsFrom s hk) fun _ => ?_
      refine keepsFrom_ite (fun hopen => ?_) fun _ => Keeps.keepsFrom s hk
      refine keepsFrom_bump_angle hopen fun s₁ hbefore hle => ?_
      refine keepsFrom_accept_ite (fun _ => Keeps.keepsFrom s₁ hle) ?_
      exact keepsFrom_bind (Grammar.Keeps.element true s₁ lo (hlo.trans_lt hbefore)) inferInstance

theorem keepsFrom_markupElement (child : Bool) {s : State} (hlo : lo < s.before) :
    KeepsFrom source s lo (markupElement g child) := by
  refine keepsFrom_of_stands fun hs => ?_
  have : AtMost lo (s.before - 1) := ⟨Nat.le_sub_one_of_lt hlo⟩
  have : AtMost lo s.token.start := ⟨hlo.le.trans hs.behind⟩
  exact keepsFrom_state_bind (Keeps.keepsFrom s le_rfl)

/-! ### Arrow functions -/

instance still_guessAhead (p : Parser Guess) : Still (guessAhead p) where
  out h := by
    unfold guessAhead at h
    split at h
    · obtain ⟨-, rfl⟩ := by simpa using h
      exact ⟨rfl, rfl, rfl⟩
    · obtain ⟨-, rfl⟩ := by simpa using h
      exact ⟨rfl, rfl, rfl⟩

instance still_guessArrow : Still guessArrow := by
  unfold guessArrow
  infer_instance

instance keeps_arrow : Keeps source lo k arrow := by
  unfold arrow
  infer_instance

instance : Yield ArrowHead where
  Lies source lo hi head := lo ≤ head.start ∧ Yield.Lies source lo hi head.parts
  le h := Yield.le h.2
  widen h hlo hhi := ⟨hlo.trans h.1, Yield.widen h.2 hlo hhi⟩

instance (start : Nat) (asynchronous typed : Bool) (parts : List Tree) {hi : Nat}
    [hstart : AtMost lo start] [h : Fits source lo parts hi] :
    Fits source lo (ArrowHead.mk start asynchronous typed parts) hi :=
  ⟨hstart.out, h.out⟩

instance keeps_arrowHead : Keeps source lo k (arrowHead g) := by
  unfold arrowHead
  infer_instance

instance keeps_arrowBody (asynchronous returnTypes : Bool) :
    Keeps source lo k (arrowBody g asynchronous returnTypes) := by
  unfold arrowBody
  infer_instance

instance keeps_arrowFrom (head : ArrowHead) (returnTypes : Bool) {hi : Nat}
    [h : Fits source lo head hi] [AtMost hi k] :
    Keeps source lo k (arrowFrom g head returnTypes) := by
  have : AtMost lo head.start := ⟨h.out.1⟩
  have : Fits source lo head.parts hi := ⟨h.out.2⟩
  unfold arrowFrom
  infer_instance

theorem lies_notAnArrow {start : Nat} {back s s' : State} {c : Context} {a : Option Tree}
    (hback : back.Stands source) (hlo : lo ≤ back.token.start)
    (h : notAnArrow start back c s = .found a s') :
    s'.Stands source ∧ back.token.start ≤ s'.token.start ∧ Yield.Lies source lo s'.token.start a := by
  obtain ⟨rfl, rfl⟩ := by
    simpa [notAnArrow, state, modify, bind, Parser.bind, pure, Parser.pure] using h
  exact ⟨⟨hback.token, hback.behind⟩, le_rfl, hlo, fun _ h => absurd h (by simp)⟩

instance keeps_possibleArrow (returnTypes : Bool) :
    Keeps source lo k (possibleArrow g returnTypes) := by
  refine keeps_state_bind_of fun s hk => ?_
  have : AtMost lo s.token.start := ⟨AtMost.out.trans hk⟩
  refine keepsFrom_ite (fun _ => Keeps.keepsFrom s hk) fun _ => ?_
  intro c s' a hs h
  obtain ⟨head?, s₁, hhead, h⟩ := bind_eq_found h
  obtain ⟨hs₁, hle, hlies⟩ := (inferInstance : Keeps source lo s.token.start
    (attempt (arrowHead g))).keepsFrom s le_rfl c s₁ head? hs hhead
  cases head? with
  | none =>
      -- the reading is given up for the state that it began with
      exact lies_notAnArrow hs AtMost.out h
  | some head =>
      have := Fits.mk (hlies.2 head rfl)
      have : AtMost lo s₁.token.start := ⟨hlies.1⟩
      dsimp only at h
      split at h
      · obtain ⟨f?, s₂, hf, h⟩ := bind_eq_found h
        obtain ⟨hs₂, hle', hlies'⟩ := (inferInstance : Keeps source lo s₁.token.start
          (attempt (arrowFrom g head returnTypes))).keepsFrom s₁ le_rfl c s₂ f? hs₁ hf
        cases f? with
        | none => exact lies_notAnArrow hs AtMost.out h
        | some f =>
            obtain ⟨colon, s₃, hcolon, h⟩ := bind_eq_found h
            split at h
            · obtain ⟨rfl, rfl⟩ : some f = a ∧ s₃ = s' := by simpa [pure, Parser.pure] using h
              obtain ⟨htoken, -⟩ := (still_sees ":").out hcolon
              rw [htoken]
              exact ⟨(still_sees ":").stands hcolon hs₂, hle.trans hle', hlies'⟩
            · exact lies_notAnArrow hs AtMost.out h
      · obtain ⟨hs', hle', ha⟩ := (inferInstance : Keeps source lo s₁.token.start
          (arrowFrom g head returnTypes >>= fun f => pure (some f))).keepsFrom s₁ le_rfl c s' a hs₁ h
        exact ⟨hs', hle.trans hle', ha⟩

instance keeps_parenthesizedArrow (returnTypes : Bool) :
    Keeps source lo k (parenthesizedArrow? g returnTypes) := by
  unfold parenthesizedArrow?
  refine keeps_bind_still_of inferInstance fun guess => ?_
  cases guess with
  | no => infer_instance
  | undecided => infer_instance
  | yes => infer_instance

instance keeps_simpleArrow (start : Nat) (parameter : Tree) (asynchronous returnTypes : Bool)
    {hi : Nat} [AtMost lo start] [Fits source lo parameter hi] [AtMost hi k] :
    Keeps source lo k (simpleArrow g start parameter asynchronous returnTypes) := by
  unfold simpleArrow
  infer_instance

instance keeps_seesAsyncArrow : Keeps source lo k seesAsyncArrow := by
  unfold seesAsyncArrow
  infer_instance

instance keeps_asyncArrow (returnTypes : Bool) :
    Keeps source lo k (asyncArrow? g returnTypes) := by
  unfold asyncArrow?
  infer_instance

/-! ### Expressions -/

instance keeps_classExpression : Keeps source lo k (classExpression g) := by
  unfold classExpression
  infer_instance

instance keeps_parenthesized : Keeps source lo k (parenthesized g) := by
  refine keeps_here_bind_of fun start => keeps_bind_placeless_of inferInstance fun _ => ?_
  refine keeps_here_bind_of fun first => ?_
  refine keeps_bind_of (inferInstance : Keeps source first.val first.val _) ?_
  rintro ⟨items, comma⟩ mark hmark ⟨mid, hitems, hcomma⟩
  have hitems : Fits source first.val items mark := ⟨Yield.widen hitems le_rfl hcomma⟩
  rcases items with _ | ⟨one, _ | ⟨two, rest⟩⟩
  · infer_instance
  · have : Fits source lo [one] mark := ⟨Yield.lower hitems.out AtMost.out⟩
    infer_instance
  · infer_instance

instance keeps_callArguments : Keeps source lo k (callArguments g) := by
  unfold callArguments
  infer_instance

instance keeps_importArguments (start : Nat) [AtMost lo start] :
    Keeps source lo k (importArguments g start) := by
  unfold importArguments
  infer_instance

instance keeps_importExpression : Keeps source lo k (importExpression g) := by
  unfold importExpression
  infer_instance

instance keeps_superExpression : Keeps source lo k superExpression := by
  unfold superExpression
  infer_instance

theorem fits_of_instantiation {t inner : Tree} {types : List Tree} {hi : Nat}
    (h : (match t with
      | .node _ .instantiation (inner :: types) => (inner, types)
      | other => (other, [])) = (inner, types)) (ht : Fits source lo t hi) :
    Fits source lo (inner :: types) hi := by
  split at h
  · obtain ⟨rfl, rfl⟩ := Prod.mk.inj h
    exact ⟨Tree.Lies.children ht.out (by simp)⟩
  · obtain ⟨rfl, rfl⟩ := Prod.mk.inj h
    infer_instance

instance keeps_newExpression : Keeps source lo k (newExpression g) := by
  refine keeps_here_bind_of fun start => keeps_bind_placeless_of inferInstance fun _ => ?_
  refine keeps_bind_placeless_of inferInstance fun point => ?_
  split
  · infer_instance
  · refine keeps_bind_of (inferInstance : Keeps source lo start.val _) ?_
    intro callee mark hmark hcallee
    refine keeps_bind_still_of inferInstance fun _ => keeps_bind_still_of inferInstance fun _ => ?_
    refine keeps_bind_still_of inferInstance fun _ => ?_
    split
    rename_i inner types hparts
    have := fits_of_instantiation hparts ⟨hcallee⟩
    infer_instance

instance keeps_primary : Keeps source lo k (primary g) := by
  refine keeps_current_bind_of fun s hk => ?_
  have hlo : lo ≤ s.token.start := AtMost.out.trans hk
  refine keepsFrom_ite (fun _ => ?_) fun hword => ?_
  · refine keepsFrom_bind_still inferInstance fun {_ s₁ _} _ htoken => ?_
    rw [← htoken] at hk hlo ⊢
    refine keepsFrom_ite (fun _ => Keeps.keepsFrom s₁ hk) fun _ => ?_
    refine keepsFrom_ite (fun _ => ?_) fun _ => Keeps.keepsFrom s₁ hk
    refine keepsFrom_of_stands fun hs => ?_
    refine keepsFrom_bind_passes inferInstance inferInstance hk fun after hmark => ?_
    have hle : lo ≤ after.mark := hlo.trans (hs.token.start_le_stop.trans hmark)
    have : Fits source lo (Tree.node ⟨s₁.token.start, s₁.token.stop⟩ .literal []) after.mark :=
      ⟨Tree.Lies.node hlo hmark (.nil hle)⟩
    infer_instance
  · refine keepsFrom_ite (fun _ => Keeps.keepsFrom s hk) fun _ => ?_
    refine keepsFrom_ite (fun _ => Keeps.keepsFrom s hk) fun _ => ?_
    refine keepsFrom_ite (fun _ => Keeps.keepsFrom s hk) fun _ => ?_
    refine keepsFrom_ite (fun _ => Keeps.keepsFrom s hk) fun _ => ?_
    refine keepsFrom_ite (fun _ => Keeps.keepsFrom s hk) fun _ => ?_
    refine keepsFrom_ite (fun _ => Keeps.keepsFrom s hk) fun _ => ?_
    refine keepsFrom_ite (fun hslash => ?_) fun _ => Keeps.keepsFrom s hk
    obtain ⟨text, -, htext⟩ := List.any_eq_true.mp hslash
    exact keepsFrom_regexLiteral hlo ((Token.kind_of_is htext).resolve_left hword) hslash

instance keeps_seesBinaryOperator : Keeps source lo k seesBinaryOperator := by
  unfold seesBinaryOperator
  infer_instance

instance keeps_startsExpression : Keeps source lo k startsExpression := by
  unfold startsExpression
  infer_instance

instance keeps_endsTypeArguments : Keeps source lo k endsTypeArguments := by
  unfold endsTypeArguments
  infer_instance

instance keeps_expressionTypeArguments : Keeps source lo k (expressionTypeArguments? g) := by
  unfold expressionTypeArguments?
  infer_instance

/-- What a chain has read lies from its start on. -/
instance : Yield Chain where
  Lies source lo hi chain := lo ≤ chain.start ∧ Yield.Lies source chain.start hi chain.tree
  le h := h.1.trans (Yield.le h.2)
  widen h hlo hhi := ⟨hlo.trans h.1, Yield.widen h.2 le_rfl hhi⟩

instance (start : Nat) (tree : Tree) (optional : Bool) {hi : Nat} [hstart : AtMost lo start]
    [h : Fits source start tree hi] : Fits source lo (Chain.mk start tree optional) hi :=
  ⟨hstart.out, h.out⟩

instance (chain : Chain) {hi : Nat} [h : Fits source lo chain hi] : Fits source lo chain.tree hi :=
  ⟨Yield.lower h.out.2 h.out.1⟩

theorem atMost_start {chain : Chain} {hi : Nat} (h : Fits source lo chain hi) :
    AtMost lo chain.start :=
  ⟨h.out.1⟩

theorem fits_tree {chain : Chain} {hi : Nat} (h : Fits source lo chain hi) :
    Fits source chain.start chain.tree hi :=
  ⟨h.out.2⟩

instance keeps_chainMember (chain : Chain) (parts : List Tree) (optional : Bool) {mid hi : Nat}
    [hchain : Fits source lo chain mid] [Fits source mid parts hi] [AtMost hi k] :
    Keeps source lo k (Chain.member chain parts optional) := by
  have := atMost_start hchain
  have := fits_tree hchain
  unfold Chain.member
  infer_instance

instance keeps_namedMember (chain : Chain) (optional : Bool) {hi : Nat} [Fits source lo chain hi]
    [AtMost hi k] : Keeps source lo k (namedMember chain optional) := by
  unfold namedMember
  infer_instance

instance keeps_computedMember (chain : Chain) (optional : Bool) {hi : Nat} [Fits source lo chain hi]
    [AtMost hi k] : Keeps source lo k (computedMember g chain optional) := by
  unfold computedMember
  infer_instance

instance keeps_taggedTemplate (chain : Chain) {hi : Nat} [hchain : Fits source lo chain hi]
    [AtMost hi k] : Keeps source lo k (taggedTemplate g chain) := by
  refine keeps_bind_still_of inferInstance fun _ => ?_
  split
  rename_i tag types hparts
  have := atMost_start hchain
  have := fits_of_instantiation hparts (fits_tree hchain)
  infer_instance

instance keeps_takesOptionalMember : Keeps source lo k takesOptionalMember := by
  unfold takesOptionalMember
  infer_instance

instance keeps_memberRest (chain : Chain) (n : Nat) {hi : Nat} [hchain : Fits source lo chain hi]
    [AtMost hi k] : Keeps source lo k (memberRest g chain n) := by
  induction n generalizing chain hi k with
  | zero => exact keeps_fail
  | succ n ih =>
      have := atMost_start hchain
      have := fits_tree hchain
      unfold memberRest
      infer_instance

theorem lies_callArguments {s s' : State} {c : Context} {arguments : List Tree}
    (hs : s.Stands source) (h : callArguments g c s = .found arguments s') :
    Yield.Lies source s.token.start s'.before arguments := by
  obtain ⟨_, s₁, hopen, h⟩ := bind_eq_found h
  obtain ⟨⟨list, comma⟩, s₂, hlist, h⟩ := bind_eq_found h
  obtain ⟨_, s₃, hclose, h⟩ := bind_eq_found h
  obtain ⟨rfl, rfl⟩ : list = arguments ∧ s₃ = s' := by simpa [pure, Parser.pure] using h
  obtain ⟨hs₁, hle, -⟩ := (inferInstance : Keeps source 0 0 (expect "(")).keepsFrom s (Nat.zero_le _)
    c s₁ _ hs hopen
  obtain ⟨hs₂, -, mid, hlies, hcomma⟩ := (inferInstance : Keeps source s₁.token.start s₁.token.start
    (within _ (commaList ")" (element g)))).keepsFrom s₁ le_rfl c s₂ _ hs₁ hlist
  rw [before_expect hclose]
  exact Yield.widen hlies hle (hcomma.trans hs₂.token.start_le_stop)

instance keeps_callFrom (chain : Chain) (types : List Tree) (optional : Bool) {mid hi : Nat}
    [hchain : Fits source lo chain mid] [htypes : Fits source mid types hi] [hhi : AtMost hi k] :
    Keeps source lo k (callFrom g chain types optional) := by
  unfold callFrom
  split
  rename_i callee types' hparts
  have htree := fits_tree hchain
  have hcallee : Fits source chain.start (callee :: types') hi := by
    split at hparts
    · rename_i hinstantiation
      split at hparts
      · obtain ⟨rfl, rfl⟩ := Prod.mk.inj hparts
        infer_instance
      · obtain ⟨rfl, rfl⟩ := Prod.mk.inj hparts
        rw [hinstantiation] at htree
        exact ⟨(Tree.Lies.children htree.out (by simp)).widen_right (Yield.le htypes.out)⟩
    · obtain ⟨rfl, rfl⟩ := Prod.mk.inj hparts
      infer_instance
  refine ⟨fun s hk c s' a hs h => ?_⟩
  obtain ⟨arguments, s₁, harguments, h⟩ := bind_eq_found h
  obtain ⟨rfl, rfl⟩ := by simpa [spanFrom, bind, Parser.bind, pure, Parser.pure] using h
  obtain ⟨hs₁, hle, -⟩ := (inferInstance : Keeps source k k (callArguments g)).keepsFrom s hk c s₁
    arguments hs harguments
  have hlies := Yield.lower (lies_callArguments g hs harguments) (hhi.out.trans hk)
  refine ⟨hs₁, hle, hchain.out.1, Tree.Lies.call le_rfl hs₁.behind ?_⟩
  exact Chained.append hcallee.out hlies fun h hle => h.widen hle le_rfl

instance keeps_callRest (chain : Chain) (n : Nat) {hi : Nat} [hchain : Fits source lo chain hi]
    [AtMost hi k] : Keeps source lo k (callRest g chain n) := by
  induction n generalizing chain hi k with
  | zero => exact keeps_fail
  | succ n ih =>
      unfold callRest
      infer_instance

instance keeps_leftHandSide : Keeps source lo k (leftHandSide g) := by
  unfold leftHandSide
  infer_instance

instance keeps_constructed : Keeps source lo k (constructed g) := by
  unfold constructed
  infer_instance

instance keeps_update : Keeps source lo k (update g) := by
  refine keeps_here_bind_of fun start => ⟨fun s hk => ?_⟩
  refine keepsFrom_bind_still inferInstance fun {_ s₁ _} _ htoken => ?_
  rw [← htoken] at hk
  refine keepsFrom_ite (fun _ => Keeps.keepsFrom s₁ hk) fun _ => ?_
  refine keepsFrom_bind_still inferInstance fun {_ s₂ _} _ htoken => keepsFrom_sees_bind ?_
  rw [← htoken] at hk
  refine keepsFrom_ite (fun hopen => ?_) fun _ => Keeps.keepsFrom s₂ hk
  obtain ⟨-, hopen⟩ := Bool.and_eq_true_iff.mp hopen
  refine keepsFrom_bump_angle hopen fun s₃ hbefore _ => ?_
  have hlo : lo ≤ s₂.token.start := (AtMost.out : lo ≤ start.val).trans hk
  exact Grammar.Keeps.element false s₃ lo (hlo.trans_lt hbefore)

/-- The type is read before the expression of which it is asserted. -/
instance keeps_typeAssertion : Keeps source lo k (typeAssertion g) := by
  refine keeps_here_bind_of fun start => keeps_bind_placeless_of inferInstance fun _ => ?_
  refine keeps_bind_of (inferInstance : Keeps source start.val start.val _) ?_
  intro type mark hk htype
  refine keeps_bind_placeless_of inferInstance fun _ => ?_
  refine keeps_bind_of (inferInstance : Keeps source mark mark _) fun value mark' hk' hvalue => ?_
  refine keeps_spanFrom_bind_of fun s hend hbehind => keepsFrom_pure ?_
  have hlo : lo ≤ start.val := AtMost.out
  refine Tree.Lies.assertion hlo hbehind (.cons (hlo.trans hk) (Yield.lower htype hlo) ?_)
  exact .cons hk' hvalue (.nil hend)

instance keeps_hasOperand : Keeps source lo k hasOperand := by
  unfold hasOperand
  infer_instance

instance keeps_unary : Keeps source lo k (unary g) := by
  unfold unary
  infer_instance

instance keeps_binaryRest (start : Nat) (enclosed : Bool) (left : Tree) (least n : Nat) {hi : Nat}
    [AtMost lo start] [Fits source lo left hi] [AtMost hi k] :
    Keeps source lo k (binaryRest g start enclosed left least n) := by
  induction n generalizing left hi k with
  | zero => exact keeps_fail
  | succ n ih =>
      refine keeps_bind_placeless_of inferInstance fun _ => ?_
      refine keeps_bind_still_of inferInstance fun t => keeps_bind_still_of inferInstance fun c => ?_
      split
      · infer_instance
      · infer_instance

instance keeps_binary (least : Nat) : Keeps source lo k (binary g least) := by
  unfold binary
  infer_instance

instance keeps_yieldExpression : Keeps source lo k (yieldExpression g) := by
  unfold yieldExpression
  infer_instance

instance keeps_assignmentRest (start : Nat) (target : Tree) (returnTypes : Bool) {hi : Nat}
    [AtMost lo start] [Fits source lo target hi] [AtMost hi k] :
    Keeps source lo k (assignmentRest g start target returnTypes) := by
  unfold assignmentRest
  infer_instance

instance keeps_conditional (start : Nat) (test consequent alternate : Tree) {hi : Nat}
    [hstart : AtMost lo start] [h : Fits source lo [test, consequent, alternate] hi]
    [hhi : AtMost hi k] :
    Keeps source lo k
      (do return Tree.conditional (← spanFrom start) test consequent alternate) :=
  keeps_spanFrom_bind_of fun _ hk hbehind => keepsFrom_pure <|
    Tree.Lies.conditional hstart.out hbehind (Yield.widen h.out le_rfl (hhi.out.trans hk))

instance keeps_conditionalRest (start : Nat) (test : Tree) (returnTypes : Bool) {hi : Nat}
    [AtMost lo start] [Fits source lo test hi] [AtMost hi k] :
    Keeps source lo k (conditionalRest g start test returnTypes) := by
  unfold conditionalRest
  infer_instance

instance keeps_assignmentExpression (returnTypes : Bool) :
    Keeps source lo k (assignmentExpression g returnTypes) := by
  unfold assignmentExpression
  infer_instance

end HandlerGuard.Script.Parser
