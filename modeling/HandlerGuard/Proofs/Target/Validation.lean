import HandlerGuard.Proofs.Patch.Recording
import HandlerGuard.Proofs.Text.Identifier
import HandlerGuard.Target.Validation

namespace HandlerGuard

namespace Target

theorem require_eq_ok_iff {condition : Bool} {error : TargetError} {u : Unit} :
    require condition error = .ok u ↔ condition = true := by
  cases condition <;> simp [require]

/-- What validation asks for. -/
structure Valid (target : Target) : Prop where
  functionName_isIdentifier : target.functionName.isIdentifier = true
  symbol_isIdentifier : target.fallback.symbol.isIdentifier = true
  render_omits : ¬target.functionName <:+: target.fallback.render []
  guard_ne_nil : target.guard.trim ≠ []
  marker_ne_nil : target.directive.marker ≠ []
  statement_marked : target.directive.marker <:+: target.directive.statement
  symbol_bound : target.directive.statement.includesIdentifier target.fallback.symbol = true
  included_read : ∃ set, patternSet target.included = .ok set
  excluded_read : ∃ set, patternSet target.excluded = .ok set

theorem validate_eq_ok_iff {target : Target} {u : Unit} :
    target.validate = .ok u ↔ target.Valid := by
  simp only [validate, bind_eq_ok_iff, require_eq_ok_iff, Bool.not_eq_true', List.isEmpty_eq_false_iff,
    Text.includes_iff, Text.includes_eq_false_iff]
  constructor
  · rintro ⟨-, hname, -, hsymbol, -, hrender, -, hguard, -, hmarker, -, hstatement, -, hbound,
      included, hincluded, excluded, hexcluded, -⟩
    exact ⟨hname, hsymbol, hrender, hguard, hmarker, hstatement, hbound, ⟨included, hincluded⟩,
      excluded, hexcluded⟩
  · rintro ⟨hname, hsymbol, hrender, hguard, hmarker, hstatement, hbound, ⟨included, hincluded⟩,
      excluded, hexcluded⟩
    exact ⟨(), hname, (), hsymbol, (), hrender, (), hguard, (), hmarker, (), hstatement, (), hbound,
      included, hincluded, excluded, hexcluded, trivial⟩

theorem Valid.symbol_omits {target : Target} (h : target.Valid) :
    ¬target.functionName <:+: target.fallback.symbol := by
  intro hin
  apply h.render_omits
  have hfront : target.fallback.symbol <+: target.fallback.render [] := by
    unfold Fallback.render
    split
    · exact List.prefix_rfl
    · exact List.prefix_append _ _
    · simp
  exact hin.trans hfront.isInfix

theorem renderFallback_keyed {target : Target} (h : target.fallback.shape = .keyedCall)
    (key : Text) :
    target.renderFallback (some key) =
      target.fallback.symbol ++
        '(' :: ((if key.includes target.functionName then [] else key) ++ [')']) := by
  simp only [renderFallback, h]
  split
  · simp
  · simp [Fallback.render, h]

/-- The fallback is the symbol alone or a call of it, with no argument or with one that does not hold
the name. -/
theorem renderFallback_cases (target : Target) (key : Option Text) :
    target.renderFallback key = target.fallback.symbol ∨
      ∃ argument, target.renderFallback key =
          target.fallback.symbol ++ '(' :: (argument ++ [')']) ∧
        (argument = [] ∨ ¬target.functionName <:+: argument) := by
  cases hshape : target.fallback.shape with
  | identifier => exact Or.inl (by simp [renderFallback, hshape, Fallback.render])
  | call => exact Or.inr ⟨[], by simp [renderFallback, hshape, Fallback.render], Or.inl rfl⟩
  | keyedCall =>
      cases key with
      | none => exact Or.inr ⟨[], by simp [renderFallback, hshape], Or.inl rfl⟩
      | some key =>
          refine Or.inr ⟨_, renderFallback_keyed hshape key, ?_⟩
          split
          · exact Or.inl rfl
          · rename_i hkey
            exact Or.inr fun hin => hkey (Text.includes_iff.mpr hin)

theorem Valid.renderFallback_omits {target : Target} (h : target.Valid) (key : Option Text) :
    ¬target.functionName <:+: target.renderFallback key := by
  rcases renderFallback_cases target key with hrender | ⟨argument, hrender, hargument⟩
  · rw [hrender]
    exact h.symbol_omits
  · rw [hrender]
    refine Text.not_infix_call h.functionName_isIdentifier h.symbol_omits ?_
    rcases hargument with rfl | hargument
    · exact Text.not_infix_nil_of_isIdentifier h.functionName_isIdentifier
    · exact hargument

theorem Valid.key_infix_renderFallback_iff {target : Target} (h : target.Valid)
    (hshape : target.fallback.shape = .keyedCall) (key : Text) :
    key <:+: target.renderFallback (some key) ↔ ¬target.functionName <:+: key := by
  constructor
  · intro hkey hname
    exact h.renderFallback_omits (some key) (hname.trans hkey)
  · intro hname
    rw [renderFallback_keyed hshape, if_neg (by rwa [Text.includes_iff])]
    exact ⟨target.fallback.symbol ++ ['('], [')'], by simp⟩

/-- Whatever the shape, the symbol and the key, the fallback of an accepted target does not hold the
name of the function. It begins with the symbol, and with a key it repeats exactly the keys that do not
hold the name. -/
theorem renderFallback_never_names (target : Target) (hvalid : target.validate = .ok ())
    (key : Option Text) :
    ¬target.functionName <:+: target.renderFallback key ∧
      target.fallback.symbol <+: target.renderFallback key ∧
      ∀ text, target.fallback.shape = .keyedCall → key = some text →
        (text <:+: target.renderFallback key ↔ ¬target.functionName <:+: text) := by
  have h := validate_eq_ok_iff.mp hvalid
  refine ⟨h.renderFallback_omits key, ?_, ?_⟩
  · rcases renderFallback_cases target key with hrender | ⟨argument, hrender, -⟩
    · exact ⟨[], by rw [hrender, List.append_nil]⟩
    · rw [hrender]
      exact List.prefix_append _ _
  · rintro text hshape rfl
    exact h.key_infix_renderFallback_iff hshape text

/-- A target whose symbol is the front of the name of the function. -/
def frontTarget : Target :=
  { Target.standard with
    functionName := "useData".toList
    fallback := ⟨"use".toList, .keyedCall⟩
    directive := ImportDirective.ofModule "use".toList "#rt".toList }

theorem frontTarget_never_named :
    frontTarget.validate = .ok () ∧
      frontTarget.renderFallback (some "Data".toList) = "use(Data)".toList ∧
      ¬frontTarget.functionName <:+: frontTarget.renderFallback (some "Data".toList) ∧
      frontTarget.renderFallback (some "[useData]".toList) = "use()".toList ∧
      ¬"[useData]".toList <:+: frontTarget.renderFallback (some "[useData]".toList) := by
  obtain ⟨hvalid, hkept, hdropped⟩ : frontTarget.validate = .ok () ∧
      frontTarget.renderFallback (some "Data".toList) = "use(Data)".toList ∧
      frontTarget.renderFallback (some "[useData]".toList) = "use()".toList := by
    decide +kernel
  obtain ⟨homits, -, -⟩ := renderFallback_never_names frontTarget hvalid (some "Data".toList)
  obtain ⟨-, -, hkey⟩ := renderFallback_never_names frontTarget hvalid (some "[useData]".toList)
  refine ⟨hvalid, hkept, homits, hdropped, ?_⟩
  intro hin
  exact (hkey _ rfl rfl).mp hin ⟨['['], [']'], rfl⟩

theorem valid_standard : standard.Valid := by
  have haccepted : standard.validate = .ok () := by decide +kernel
  exact validate_eq_ok_iff.mp haccepted

/-- The standard target for another function, with a fallback that is imported under a name from a
module. -/
def importing (functionName symbol source : Text) (shape : FallbackShape) : Target :=
  { standard with
    functionName := functionName
    fallback := ⟨symbol, shape⟩
    directive := ImportDirective.ofModule symbol source }

theorem render_nil_omits {functionName symbol : Text} (hname : functionName.isIdentifier = true)
    (homits : ¬functionName <:+: symbol) (shape : FallbackShape) :
    ¬functionName <:+: Fallback.render ⟨symbol, shape⟩ [] := by
  have hcall : ¬functionName <:+: symbol ++ '(' :: ([] ++ [')']) :=
    Text.not_infix_call hname homits (Text.not_infix_nil_of_isIdentifier hname)
  cases shape with
  | identifier => exact homits
  | call => exact hcall
  | keyedCall =>
      rw [Fallback.render, List.append_assoc, List.append_assoc]
      exact hcall

theorem exists_statement_ofModule (symbol source : Text) :
    ∃ opening middle closing,
      (ImportDirective.ofModule symbol source).statement =
        (opening ++ [' ']) ++ (symbol ++ (' ' :: middle ++
          ((ImportDirective.ofModule symbol source).marker ++ closing))) := by
  have hopening : "import \x7b __neverReachable as ".toList =
      "import \x7b __neverReachable as".toList ++ [' '] := by decide
  have hmiddle : " \x7d from '".toList = ' ' :: "\x7d ".toList ++ "from '".toList := by decide
  have hclosing : "';\n".toList = ['\''] ++ ";\n".toList := by decide
  refine ⟨"import \x7b __neverReachable as".toList, "\x7d ".toList, ";\n".toList, ?_⟩
  unfold ImportDirective.ofModule
  rw [hopening, hmiddle, hclosing]
  simp only [List.append_assoc]

theorem ofModule_suits {symbol : Text} (hsymbol : symbol.isIdentifier = true) (source : Text) :
    (ImportDirective.ofModule symbol source).marker <:+:
        (ImportDirective.ofModule symbol source).statement ∧
      (ImportDirective.ofModule symbol source).statement.includesIdentifier symbol = true := by
  have hblank : ¬Text.NamePart ' ' := by
    rw [← Text.isIdentifierPart_iff]
    decide
  obtain ⟨opening, middle, closing, hstatement⟩ := exists_statement_ofModule symbol source
  rw [hstatement]
  constructor
  · exact ⟨opening ++ [' '] ++ symbol ++ ' ' :: middle, closing, by simp⟩
  · apply Text.includesIdentifier_of_isolates hsymbol
    constructor
    · intro c hc
      obtain rfl : ' ' = c := by simpa using hc
      exact hblank
    · intro c hc
      obtain rfl : ' ' = c := by simpa using hc
      exact hblank

theorem valid_importing {functionName symbol : Text} (hname : functionName.isIdentifier = true)
    (hsymbol : symbol.isIdentifier = true) (homits : ¬functionName <:+: symbol) (source : Text)
    (shape : FallbackShape) : (importing functionName symbol source shape).Valid where
  functionName_isIdentifier := hname
  symbol_isIdentifier := hsymbol
  render_omits := render_nil_omits hname homits shape
  guard_ne_nil := valid_standard.guard_ne_nil
  marker_ne_nil := List.append_ne_nil_of_right_ne_nil _ (List.cons_ne_nil _ _)
  statement_marked := (ofModule_suits hsymbol source).1
  symbol_bound := (ofModule_suits hsymbol source).2
  included_read := valid_standard.included_read
  excluded_read := valid_standard.excluded_read

/-- The import made for a symbol and a module suits every fallback with that symbol: whatever the module
and the shape, the target is accepted as soon as function and symbol have plain names of which the
first does not stand in the second, and only then. -/
theorem importing_accepted_iff (functionName symbol source : Text) (shape : FallbackShape) :
    (importing functionName symbol source shape).validate = .ok () ↔
      functionName.isIdentifier = true ∧ symbol.isIdentifier = true ∧
        ¬functionName <:+: symbol := by
  rw [validate_eq_ok_iff]
  constructor
  · intro h
    exact ⟨h.functionName_isIdentifier, h.symbol_isIdentifier, h.symbol_omits⟩
  · rintro ⟨hname, hsymbol, homits⟩
    exact valid_importing hname hsymbol homits source shape

/-- The symbol and the module repeat words of the import. -/
example : (importing "useData".toList "as".toList "as' from 'as".toList .keyedCall).validate =
    .ok () := by
  decide +kernel

end Target

end HandlerGuard
