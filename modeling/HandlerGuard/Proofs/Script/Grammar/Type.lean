import HandlerGuard.Proofs.Script.Relexing
import HandlerGuard.Script.Grammar.Type

namespace HandlerGuard.Script.Parser

set_option synthInstance.maxSize 1000000000

variable {source : Text} {lo k : Nat} [AtMost lo k] (g : Grammar) [g.Keeps source]

instance keeps_assignment : Keeps source lo k (assignment g) := by
  unfold assignment
  infer_instance

instance keeps_expression : Keeps source lo k (expression g) := by
  unfold expression
  infer_instance

instance keeps_typeAnnotation : Keeps source lo k <| typeAnnotation g := by
  unfold typeAnnotation
  infer_instance

/-! ### Names -/

instance keeps_anyName : Keeps source lo k anyName := by
  unfold anyName
  infer_instance

instance passes_anyName : Passes source anyName := by
  unfold anyName
  infer_instance

instance keeps_privateName : Keeps source lo k privateName := by
  unfold privateName
  infer_instance

instance still_refers (t : Token) : Still (refers t) := by
  unfold refers
  infer_instance

theorem kind_of_refers {t : Token} {c : Context} {s s' : State} (h : refers t c s = .found true s') :
    t.kind = .word ∨ t.kind = .punctuator := by
  obtain ⟨h, -⟩ : (t.isName || (t.is "yield" && !c.yieldAllowed) ||
      (t.is "await" && !c.awaitAllowed)) = true ∧ s = s' := by
    simpa [refers, context, bind, Parser.bind, pure, Parser.pure] using h
  simp only [Bool.or_eq_true, Bool.and_eq_true] at h
  rcases h with (h | h) | h
  · exact Token.kind_of_isName h
  · exact Token.kind_of_is h.1
  · exact Token.kind_of_is h.1

theorem fits_identifier {t : Token} {rest : Text} {hi : Nat} (ht : t.Stands source rest)
    (hkind : t.kind = .word ∨ t.kind = .punctuator) (hlo : lo ≤ t.start) (hhi : t.stop ≤ hi) :
    Fits source lo (Tree.identifier ⟨t.start, t.stop⟩ t.text) hi :=
  ⟨Tree.Lies.identifier (hlo.trans (ht.start_le_stop.trans hhi)) hlo hhi (ht.spelled hkind)⟩

theorem keepsFrom_name {s : State} (hlo : lo ≤ s.token.start)
    (hkind : s.token.kind = .word ∨ s.token.kind = .punctuator) :
    KeepsFrom source s lo (do
      advance
      return Tree.identifier ⟨s.token.start, s.token.stop⟩ s.token.text) := by
  refine keepsFrom_of_stands fun hs => ?_
  refine keepsFrom_bind_passes inferInstance inferInstance le_rfl fun _ hmark => ?_
  have := fits_identifier hs.token hkind hlo hmark
  infer_instance

instance keeps_reference : Keeps source lo k reference := by
  refine keeps_current_bind_of fun s hk => ?_
  refine keepsFrom_bind_still inferInstance fun {_ _ answer} hrefers htoken => ?_
  rw [← htoken] at hk hrefers ⊢
  refine keepsFrom_ite (fun hyes => ?_) fun _ => Keeps.keepsFrom _ hk
  rw [hyes] at hrefers
  exact keepsFrom_name (AtMost.out.trans hk) (kind_of_refers hrefers)

instance still_checkBinding (t : Token) : Still (checkBinding t) := by
  unfold checkBinding
  infer_instance

instance keeps_bindingName : Keeps source lo k bindingName := by
  refine keeps_current_bind_of fun s hk => ?_
  refine keepsFrom_ite (fun hname => ?_) fun _ => Keeps.keepsFrom _ hk
  refine keepsFrom_bind_still inferInstance fun _ htoken => ?_
  rw [← htoken] at hk hname ⊢
  exact keepsFrom_name (AtMost.out.trans hk) (Token.kind_of_isBindingName hname)

instance keeps_stringLiteral : Keeps source lo k stringLiteral := by
  unfold stringLiteral
  infer_instance

instance passes_stringLiteral : Passes source stringLiteral := by
  unfold stringLiteral
  infer_instance

instance keeps_literal : Keeps source lo k literal := by
  unfold literal
  infer_instance

instance passes_literal : Passes source literal := by
  unfold literal
  infer_instance

instance keeps_computedKey : Keeps source lo k (computedKey g) := by
  unfold computedKey
  infer_instance

instance passes_computedKey : Passes source (computedKey g) := by
  unfold computedKey
  infer_instance

instance keeps_propertyKey : Keeps source lo k (propertyKey g) := by
  unfold propertyKey
  infer_instance

instance passes_propertyKey : Passes source (propertyKey g) := by
  unfold propertyKey
  infer_instance

instance keeps_memberKey : Keeps source lo k (memberKey g) := by
  unfold memberKey
  infer_instance

instance keeps_decorators : Keeps source lo k (decorators g) := by
  unfold decorators
  infer_instance

instance keeps_modifies : Keeps source lo k modifies := by
  unfold modifies
  infer_instance

instance keeps_modifier (permitConst inClass seenStatic : Bool) :
    Keeps source lo k (modifier? permitConst inClass seenStatic) := by
  unfold modifier?
  infer_instance

instance keeps_modifiersWithin (permitConst inClass : Bool) (seen : List Text) (n : Nat) :
    Keeps source lo k (modifiersWithin permitConst inClass seen n) := by
  induction n generalizing seen lo k with
  | zero => exact keeps_fail
  | succ n ih =>
      unfold modifiersWithin
      infer_instance

instance keeps_modifiers (permitConst inClass : Bool) :
    Keeps source lo k (modifiers permitConst inClass) := by
  unfold modifiers
  infer_instance

instance keeps_allowModifiers (found : List Text) (allowed : List String) :
    Keeps source lo k (allowModifiers found allowed) := by
  unfold allowModifiers
  infer_instance

instance keeps_forbidModifiers (found : List Text) (forbidden : List String) :
    Keeps source lo k (forbidModifiers found forbidden) := by
  unfold forbidModifiers
  infer_instance

instance keeps_accessorWord (word : String) : Keeps source lo k (accessorWord word) := by
  unfold accessorWord
  infer_instance

instance keeps_accessorOf (words : List String) : Keeps source lo k (accessorOf words) := by
  induction words with
  | nil =>
      unfold accessorOf
      infer_instance
  | cons word others ih =>
      unfold accessorOf
      infer_instance

/-! ### Patterns -/

instance keeps_initializer : Keeps source lo k (initializer g) := by
  unfold initializer
  infer_instance

instance keeps_annotatedPattern (optional : Bool) :
    Keeps source lo k (annotatedPattern g optional) := by
  unfold annotatedPattern
  infer_instance

instance keeps_patternWithDefault : Keeps source lo k (patternWithDefault g) := by
  unfold patternWithDefault
  infer_instance

instance keeps_restFrom (start : Nat) (parts : List Tree) {hi : Nat} [AtMost lo start]
    [Fits source lo parts hi] [AtMost hi k] : Keeps source lo k (restFrom g start parts) := by
  unfold restFrom
  infer_instance

instance keeps_restPattern : Keeps source lo k (restPattern g) := by
  unfold restPattern
  infer_instance

instance keeps_patternsWithin (close : String) (item rest : Parser Tree) (n : Nat)
    [∀ k, Keeps source k k item] [∀ k, Keeps source k k rest] :
    Keeps source lo k (patternsWithin close item rest n) := by
  induction n generalizing lo k with
  | zero => exact keeps_fail
  | succ n ih =>
      unfold patternsWithin
      infer_instance

instance keeps_patterns (close : String) (item rest : Parser Tree) [∀ k, Keeps source k k item]
    [∀ k, Keeps source k k rest] : Keeps source lo k (patterns close item rest) := by
  unfold patterns
  infer_instance

instance keeps_patternProperty : Keeps source lo k (patternProperty g) := by
  refine keeps_here_bind_of fun start => keeps_current_bind_of fun s hk => ?_
  refine keepsFrom_ite (fun hname => ?_) fun _ => Keeps.keepsFrom _ hk
  refine keepsFrom_of_stands fun hs => ?_
  refine keepsFrom_bind_passes inferInstance inferInstance hk fun key hmark => ?_
  have hlo : lo ≤ s.token.start := (AtMost.out : lo ≤ start.val).trans hk
  have := fits_identifier hs.token (Token.kind_of_isBindingName hname) hlo hmark
  infer_instance

instance keeps_namedRest : Keeps source lo k (namedRest g) := by
  unfold namedRest
  refine keeps_bind_of (inferInstance : Keeps source lo k _) fun p mark hk hp => ?_
  have := Fits.mk hp
  split
  · infer_instance
  · infer_instance

instance keeps_pattern : Keeps source lo k (pattern g) := by
  unfold pattern
  infer_instance

instance still_takeSimpleTarget (t : Tree) : Still (takeSimpleTarget t) := by
  unfold takeSimpleTarget
  infer_instance

theorem still_targets : (∀ t, Still (takeTarget t)) ∧ (∀ ts, Still (takeElements ts)) ∧
    ∀ t, Still (takeElement t) := by
  apply takeTarget.mutual_induct (fun t => Still (takeTarget t))
    (fun ts => Still (takeElements ts)) (fun t => Still (takeElement t))
  case case1 =>
    intro span elements ih
    unfold takeTarget
    infer_instance
  case case2 =>
    intro span properties ih
    unfold takeTarget
    infer_instance
  case case3 =>
    intro t harray hobject
    rw [takeTarget.eq_3 t harray hobject]
    infer_instance
  case case4 =>
    unfold takeElements
    infer_instance
  case case5 =>
    intro span target others ih
    unfold takeElements
    infer_instance
  case case6 =>
    intro element others hspread ihelement ihothers
    rw [takeElements.eq_3 element others hspread]
    infer_instance
  case case7 =>
    intro span children
    unfold takeElement
    infer_instance
  case case8 =>
    intro span children
    unfold takeElement
    infer_instance
  case case9 =>
    intro span children
    unfold takeElement
    infer_instance
  case case10 =>
    intro span children
    unfold takeElement
    exact still_modify fun _ => ⟨rfl, rfl, rfl⟩
  case case11 =>
    intro span key value ih
    unfold takeElement
    infer_instance
  case case12 =>
    intro t helision hassignment hcompound hshorthand hproperty ih
    rw [takeElement.eq_6 t helision hassignment hcompound hshorthand hproperty]
    infer_instance

instance still_takeTarget (t : Tree) : Still (takeTarget t) := still_targets.1 t

/-! ### Functions -/

instance keeps_parameter (owner : Owner) : Keeps source lo k (parameter g owner) := by
  unfold parameter
  infer_instance

instance keeps_restParameter : Keeps source lo k (restParameter g) := by
  unfold restParameter
  infer_instance

instance keeps_thisParameter : Keeps source lo k (thisParameter g) := by
  unfold thisParameter
  infer_instance

instance keeps_parameters (owner : Owner) : Keeps source lo k (parameters g owner) := by
  unfold parameters
  infer_instance

instance keeps_returnType : Keeps source lo k (returnType g) := by
  unfold returnType
  infer_instance

instance keeps_returnAnnotation : Keeps source lo k <| returnAnnotation g := by
  unfold returnAnnotation
  infer_instance

instance keeps_typeParameter : Keeps source lo k (typeParameter g) := by
  unfold typeParameter
  infer_instance

instance keeps_typeParameters : Keeps source lo k (typeParameters g) := by
  unfold typeParameters
  infer_instance

instance keeps_statementsInBraces : Keeps source lo k (statementsInBraces g) := by
  unfold statementsInBraces
  infer_instance

instance keeps_functionBody : Keeps source lo k (functionBody g) := by
  unfold functionBody
  infer_instance

instance : Yield FunctionParts where
  Lies source lo hi parts := Yield.Lies source lo hi parts.trees
  le h := Yield.le h
  widen h hlo hhi := Yield.widen h hlo hhi

instance (params : List Tree) (hasBody : Bool) (trees : List Tree) {hi : Nat}
    [h : Fits source lo trees hi] : Fits source lo (FunctionParts.mk params hasBody trees) hi :=
  ⟨h.out⟩

instance (parts : FunctionParts) {hi : Nat} [h : Fits source lo parts hi] :
    Fits source lo parts.trees hi :=
  ⟨h.out⟩

instance keeps_functionRest (owner : Owner) (asynchronous generator needsBody : Bool) :
    Keeps source lo k (functionRest g owner asynchronous generator needsBody) := by
  unfold functionRest
  infer_instance

instance still_checkGetter (parts : FunctionParts) : Still (checkGetter parts) := by
  unfold checkGetter
  infer_instance

instance still_checkSetter (parts : FunctionParts) : Still (checkSetter parts) := by
  unfold checkSetter
  obtain ⟨params, hasBody, trees⟩ := parts
  rcases params with _ | ⟨p, _ | ⟨q, rest⟩⟩ <;> infer_instance

instance keeps_methodFrom (start : Nat) (parts : FunctionParts) {hi : Nat} [AtMost lo start]
    [Fits source lo parts hi] [AtMost hi k] : Keeps source lo k (methodFrom start parts) := by
  unfold methodFrom
  infer_instance

instance (priority := high) keeps_methodFrom_bind {α : Type} [Yield α] (start : Nat)
    (parts : FunctionParts) {hi : Nat} (f : Tree → Parser α) [Fits source start parts hi]
    [AtMost hi k] [∀ t : Found source start k Tree, Keeps source lo t.mark (f t.val)] :
    Keeps source lo k (methodFrom start parts >>= f) :=
  keeps_nodeFrom_bind start .function parts.trees f

instance still_seesFunction : Still seesFunction := by
  unfold seesFunction
  infer_instance

instance keeps_functionName (naming : Naming) (asynchronous generator : Bool) :
    Keeps source lo k (functionName naming asynchronous generator) := by
  unfold functionName
  infer_instance

instance keeps_functionFrom (naming : Naming) : Keeps source lo k (functionFrom g naming) := by
  unfold functionFrom
  infer_instance

/-! ### Types -/

instance keeps_typeFrom (start : Nat) (children : List Tree) {hi : Nat} [AtMost lo start]
    [Fits source lo children hi] [AtMost hi k] : Keeps source lo k (typeFrom start children) := by
  unfold typeFrom
  infer_instance

instance keeps_typeArguments : Keeps source lo k (typeArguments g) := by
  unfold typeArguments
  infer_instance

instance keeps_optionalTypeArguments : Keeps source lo k (optionalTypeArguments g) := by
  unfold optionalTypeArguments
  infer_instance

instance keeps_referenceArguments : Keeps source lo k (referenceArguments g) := by
  unfold referenceArguments
  infer_instance

instance keeps_dottedName : Keeps source lo k dottedName := by
  unfold dottedName
  infer_instance

instance keeps_typeReference : Keeps source lo k (typeReference g) := by
  unfold typeReference
  infer_instance

instance keeps_startsType : Keeps source lo k startsType := by
  unfold startsType
  infer_instance

instance keeps_opensFunctionType : Keeps source lo k (opensFunctionType g) := by
  unfold opensFunctionType
  infer_instance

instance keeps_startsFunctionType : Keeps source lo k (startsFunctionType g) := by
  unfold startsFunctionType
  infer_instance

instance keeps_functionType : Keeps source lo k (functionType g) := by
  unfold functionType
  infer_instance

instance keeps_memberEnd : Keeps source lo k memberEnd := by
  unfold memberEnd
  infer_instance

instance keeps_opensIndexSignature : Keeps source lo k opensIndexSignature := by
  unfold opensIndexSignature
  infer_instance

instance keeps_indexSignature : Keeps source lo k (indexSignature g) := by
  unfold indexSignature
  infer_instance

instance keeps_signature : Keeps source lo k (signature g) := by
  unfold signature
  infer_instance

instance keeps_constructSignature : Keeps source lo k (constructSignature g) := by
  unfold constructSignature
  infer_instance

instance keeps_accessorSignature (writes : Bool) :
    Keeps source lo k (accessorSignature g writes) := by
  unfold accessorSignature
  infer_instance

instance keeps_typeMember : Keeps source lo k (typeMember g) := by
  unfold typeMember
  infer_instance

instance keeps_typeMembers : Keeps source lo k (typeMembers g) := by
  unfold typeMembers
  infer_instance

instance keeps_opensMappedType : Keeps source lo k opensMappedType := by
  unfold opensMappedType
  infer_instance

instance keeps_mappedType : Keeps source lo k (mappedType g) := by
  unfold mappedType
  infer_instance

instance keeps_namesTupleElement : Keeps source lo k namesTupleElement := by
  unfold namesTupleElement
  infer_instance

instance keeps_tupleElement : Keeps source lo k (tupleElement g) := by
  unfold tupleElement
  infer_instance

instance keeps_templateWithin (item : Parser Tree) (tagged : Bool) (n : Nat)
    [∀ k, Keeps source k k item] : Keeps source lo k (templateWithin item tagged n) := by
  induction n generalizing lo k with
  | zero => exact keeps_fail
  | succ n ih =>
      unfold templateWithin
      infer_instance

instance keeps_templateParts (item : Parser Tree) (tagged : Bool) [∀ k, Keeps source k k item] :
    Keeps source lo k (templateParts item tagged) := by
  unfold templateParts
  infer_instance

instance keeps_importType : Keeps source lo k (importType g) := by
  unfold importType
  infer_instance

instance keeps_typeQuery : Keeps source lo k (typeQuery g) := by
  unfold typeQuery
  infer_instance

instance keeps_assertsSomething : Keeps source lo k assertsSomething := by
  unfold assertsSomething
  infer_instance

instance keeps_assertionType : Keeps source lo k (assertionType g) := by
  unfold assertionType
  infer_instance

instance keeps_plainType : Keeps source lo k (plainType g) := by
  unfold plainType
  infer_instance

instance keeps_typeSuffixes (start : Nat) (type : Tree) (n : Nat) {hi : Nat} [AtMost lo start]
    [Fits source lo type hi] [AtMost hi k] : Keeps source lo k (typeSuffixes g start type n) := by
  induction n generalizing type hi lo k with
  | zero => exact keeps_fail
  | succ n ih =>
      unfold typeSuffixes
      infer_instance

instance keeps_inferredType : Keeps source lo k (inferredType g) := by
  unfold inferredType
  infer_instance

instance keeps_typeOperand : Keeps source lo k (typeOperand g) := by
  unfold typeOperand
  infer_instance

instance keeps_joinedTypes (operator : String) (item : Parser Tree) [∀ k, Keeps source k k item] :
    Keeps source lo k (joinedTypes operator item) := by
  unfold joinedTypes
  infer_instance

instance keeps_type : Keeps source lo k (type g) := by
  unfold type
  infer_instance

end HandlerGuard.Script.Parser
