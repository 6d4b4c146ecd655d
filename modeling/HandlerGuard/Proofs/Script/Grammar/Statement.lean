import HandlerGuard.Proofs.Script.Grammar.Expression
import HandlerGuard.Script.Program

namespace HandlerGuard.Script

namespace Parser

set_option synthInstance.maxSize 1000000000

variable {source : Text} {lo k : Nat} [AtMost lo k] (g : Grammar) [g.Keeps source]

/-! ### Statements -/

instance keeps_condition : Keeps source lo k (condition g) := by
  unfold condition
  infer_instance

instance keeps_body : Keeps source lo k (body g) := by
  unfold body
  infer_instance

instance keeps_block : Keeps source lo k (block g) := by
  unfold block
  infer_instance

instance keeps_declarator : Keeps source lo k (declarator g) := by
  unfold declarator
  infer_instance

instance keeps_declarators (constant : Bool) (place : VariablePlace) :
    Keeps source lo k (declarators g constant place) := by
  unfold declarators
  infer_instance

instance keeps_variableStatement (place : Place) : Keeps source lo k (variableStatement g place) := by
  unfold variableStatement
  infer_instance

instance keeps_seesUsing : Keeps source lo k seesUsing := by
  unfold seesUsing
  infer_instance

instance keeps_seesAwaitUsing : Keeps source lo k seesAwaitUsing := by
  unfold seesAwaitUsing
  infer_instance

instance keeps_usingDeclarators (place : VariablePlace) :
    Keeps source lo k (usingDeclarators g place) := by
  unfold usingDeclarators
  infer_instance

instance keeps_usingStatement (place : Place) : Keeps source lo k (usingStatement g place) := by
  unfold usingStatement
  infer_instance

instance keeps_expressionStatementOf (start : Nat) (e : Tree) {hi : Nat}
    [AtMost lo start] [Fits source lo e hi] [AtMost hi k] :
    Keeps source lo k (expressionStatementOf start e) := by
  unfold expressionStatementOf
  infer_instance

instance keeps_expressionOrLabelled : Keeps source lo k (expressionOrLabelled g) := by
  unfold expressionOrLabelled
  infer_instance

instance keeps_letStatement (place : Place) : Keeps source lo k (letStatement g place) := by
  unfold letStatement
  infer_instance

instance keeps_ifStatement : Keeps source lo k (ifStatement g) := by
  unfold ifStatement
  infer_instance

instance keeps_doStatement : Keeps source lo k (doStatement g) := by
  unfold doStatement
  infer_instance

instance keeps_whileStatement : Keeps source lo k (whileStatement g) := by
  unfold whileStatement
  infer_instance

instance keeps_countingLoop (start : Nat) (initial : List Tree) (waits : Bool) {hi : Nat}
    [AtMost lo start] [Fits source lo initial hi] [AtMost hi k] :
    Keeps source lo k (countingLoop g start initial waits) := by
  unfold countingLoop
  infer_instance

instance keeps_iteratingLoop (start : Nat) (target : Tree) (waits : Bool) {hi : Nat}
    [AtMost lo start] [Fits source lo target hi] [AtMost hi k] :
    Keeps source lo k (iteratingLoop g start target waits) := by
  unfold iteratingLoop
  infer_instance

instance keeps_declaredLoop (start : Nat) (waits constant disposed : Bool)
    (read : Parser (List Tree)) [AtMost lo start] [∀ k, Keeps source k k read] :
    Keeps source lo k (declaredLoop g start waits constant disposed read) := by
  unfold declaredLoop
  infer_instance

instance keeps_expressionLoop (start : Nat) (waits : Bool) [AtMost lo start] :
    Keeps source lo k (expressionLoop g start waits) := by
  unfold expressionLoop
  infer_instance

instance keeps_seesLoopUsing : Keeps source lo k seesLoopUsing := by
  unfold seesLoopUsing
  infer_instance

instance keeps_forStatement : Keeps source lo k (forStatement g) := by
  unfold forStatement
  infer_instance

instance keeps_jump : Keeps source lo k jump := by
  unfold jump
  infer_instance

instance keeps_returnStatement : Keeps source lo k (returnStatement g) := by
  unfold returnStatement
  infer_instance

instance keeps_withStatement : Keeps source lo k (withStatement g) := by
  unfold withStatement
  infer_instance

instance keeps_switchCase : Keeps source lo k (switchCase g) := by
  unfold switchCase
  infer_instance

instance keeps_switchStatement : Keeps source lo k (switchStatement g) := by
  unfold switchStatement
  infer_instance

instance keeps_throwStatement : Keeps source lo k (throwStatement g) := by
  unfold throwStatement
  infer_instance

instance keeps_catchClause : Keeps source lo k (catchClause g) := by
  unfold catchClause
  infer_instance

instance keeps_tryStatement : Keeps source lo k (tryStatement g) := by
  unfold tryStatement
  infer_instance

instance keeps_functionStatement (place : Place) : Keeps source lo k (functionStatement g place) := by
  unfold functionStatement
  infer_instance

instance keeps_classStatement (place : Place) (start : Nat) (marks : List Tree) {hi : Nat}
    [AtMost lo start] [Fits source lo marks hi] [AtMost hi k] :
    Keeps source lo k (classStatement g place start marks) := by
  unfold classStatement
  infer_instance

/-! ### Declarations -/

instance keeps_typeAlias (start : Nat) [AtMost lo start] :
    Keeps source lo k (typeAlias g start) := by
  unfold typeAlias
  infer_instance

instance keeps_interfaceBases (seen : Bool) (n : Nat) :
    Keeps source lo k (interfaceBases g seen n) := by
  induction n generalizing seen lo k with
  | zero => exact keeps_fail
  | succ n ih =>
      unfold interfaceBases
      infer_instance

instance keeps_interface (start : Nat) [AtMost lo start] :
    Keeps source lo k (interface g start) := by
  unfold interface
  infer_instance

instance keeps_enumName : Keeps source lo k enumName := by
  unfold enumName
  infer_instance

instance keeps_enumMember : Keeps source lo k (enumMember g) := by
  unfold enumMember
  infer_instance

instance keeps_enumeration (start : Nat) [AtMost lo start] :
    Keeps source lo k (enumeration g start) := by
  unfold enumeration
  infer_instance

instance keeps_namespaceBody : Keeps source lo k (namespaceBody g) := by
  unfold namespaceBody
  infer_instance

instance keeps_namespaceFrom (start : Nat) [AtMost lo start] :
    Keeps source lo k (namespaceFrom g start) := by
  unfold namespaceFrom
  infer_instance

instance keeps_startsDeclaration : Keeps source lo k startsDeclaration := by
  unfold startsDeclaration
  infer_instance

instance keeps_importEquals (start : Nat) (name : Tree) {hi : Nat}
    [AtMost lo start] [Fits source lo name hi] [AtMost hi k] :
    Keeps source lo k (importEquals start name) := by
  unfold importEquals
  infer_instance

instance keeps_namingImport (start : Nat) [AtMost lo start] :
    Keeps source lo k (namingImport start) := by
  unfold namingImport
  infer_instance

instance keeps_declarationRest (start : Nat) (marks : List Tree) (found : List Text) {hi : Nat}
    [AtMost lo start] [Fits source lo marks hi] [AtMost hi k] :
    Keeps source lo k (declarationRest g start marks found) := by
  unfold declarationRest
  infer_instance

instance keeps_declarationModifiers : Keeps source lo k declarationModifiers := by
  unfold declarationModifiers
  infer_instance

instance keeps_declaration (start : Nat) (marks : List Tree) {hi : Nat}
    [AtMost lo start] [Fits source lo marks hi] [AtMost hi k] :
    Keeps source lo k (declaration g start marks) := by
  unfold declaration
  infer_instance

instance keeps_declarationStatement (start : Nat) [AtMost lo start] :
    Keeps source lo k (declarationStatement g start) := by
  unfold declarationStatement
  infer_instance

/-! ### Imports and exports -/

instance keeps_wordOrString : Keeps source lo k wordOrString := by
  refine keeps_current_bind_of fun s hk => ?_
  have htaken : KeepsFrom source s lo (advance >>= fun _ => pure s.token) := by
    refine keepsFrom_of_stands fun hs => ?_
    refine keepsFrom_bind_passes inferInstance inferInstance hk fun after hmark => ?_
    have hlo : lo ≤ s.token.start := AtMost.out.trans hk
    have hle : lo ≤ after.mark := hlo.trans (hs.token.start_le_stop.trans hmark)
    have : Fits source lo s.token after.mark := ⟨hlo, hmark, hle, hs.token.spelled⟩
    infer_instance
  exact keepsFrom_ite (fun _ => htaken) fun _ =>
    keepsFrom_ite (fun _ => htaken) fun _ => Keeps.keepsFrom s hk

instance keeps_exportedName : Keeps source lo k exportedName := by
  unfold exportedName
  infer_instance

instance keeps_importAttribute : Keeps source lo k importAttribute := by
  unfold importAttribute
  infer_instance

instance keeps_importAttributes : Keeps source lo k importAttributes := by
  unfold importAttributes
  infer_instance

instance keeps_moduleSource : Keeps source lo k moduleSource := by
  unfold moduleSource
  infer_instance

instance keeps_seesExportedName : Keeps source lo k seesExportedName := by
  unfold seesExportedName
  infer_instance

/-- The two names of a specifier may be the same. -/
instance (priority := high) : Yield (Token × Token) where
  Lies source lo hi names := Yield.Lies source lo hi names.1 ∧ Yield.Lies source lo hi names.2
  le h := Yield.le h.1
  widen h hlo hhi := ⟨Yield.widen h.1 hlo hhi, Yield.widen h.2 hlo hhi⟩

instance (first last : Token) {mid hi : Nat} [hfirst : Fits source lo first mid]
    [hlast : Fits source lo last hi] [hle : AtMost mid hi] : Fits source lo (first, last) hi :=
  ⟨Yield.widen hfirst.out le_rfl hle.out, hlast.out⟩

instance keeps_renamed (t : Token) {hi : Nat} [Fits source lo t hi] [AtMost hi k] :
    Keeps source lo k (renamed t) := by
  unfold renamed
  infer_instance

instance keeps_specifierNames (typeOnly : Bool) : Keeps source lo k (specifierNames typeOnly) := by
  unfold specifierNames
  infer_instance

instance keeps_importSpecifier (typeOnly : Bool) : Keeps source lo k (importSpecifier typeOnly) := by
  refine keeps_here_bind_of fun start => ?_
  refine keeps_bind_of (inferInstance : Keeps source lo start.val _) ?_
  rintro ⟨first, t⟩ mark hmark ⟨-, hlo, hstop, hle, hspelled⟩
  dsimp only
  split
  · rename_i hname
    have hword : t.kind = .word := by simpa using (Bool.and_eq_true_iff.mp hname).1
    have : Fits source lo (Tree.identifier ⟨t.start, t.stop⟩ t.text) mark :=
      ⟨Tree.Lies.identifier hle hlo hstop (hspelled (Or.inl hword))⟩
    infer_instance
  · infer_instance

instance keeps_importedNames (typeOnly : Bool) : Keeps source lo k (importedNames typeOnly) := by
  unfold importedNames
  infer_instance

instance keeps_importRest (start : Nat) (typeOnly : Bool) (first : List Tree) {hi : Nat}
    [AtMost lo start] [Fits source lo first hi] [AtMost hi k] :
    Keeps source lo k (importRest start typeOnly first) := by
  unfold importRest
  infer_instance

instance keeps_importsType : Keeps source lo k importsType := by
  unfold importsType
  infer_instance

instance keeps_importsPhase : Keeps source lo k importsPhase := by
  unfold importsPhase
  infer_instance

instance keeps_importDeclaration (start : Nat) [AtMost lo start] :
    Keeps source lo k (importDeclaration start) := by
  unfold importDeclaration
  infer_instance

instance still_recordExports (names : List Text) : Still (recordExports names) := by
  have : Still (modify fun s => { s with exports := names ++ s.exports }) :=
    still_modify fun _ => ⟨rfl, rfl, rfl⟩
  unfold recordExports
  infer_instance

instance keeps_exportNames (start : Nat) (typeOnly : Bool) [AtMost lo start] :
    Keeps source lo k (exportNames start typeOnly) := by
  unfold exportNames
  infer_instance

instance keeps_exportAll (start : Nat) [AtMost lo start] :
    Keeps source lo k (exportAll start) := by
  unfold exportAll
  infer_instance

instance keeps_moreDecorators (marks : List Tree) {hi : Nat}
    [Fits source lo marks hi] [AtMost hi k] :
    Keeps source lo k (moreDecorators g marks) := by
  unfold moreDecorators
  infer_instance

instance keeps_exportDefault (start : Nat) (marks : List Tree) {hi : Nat}
    [AtMost lo start] [Fits source lo marks hi] [AtMost hi k] :
    Keeps source lo k (exportDefault g start marks) := by
  unfold exportDefault
  infer_instance

instance keeps_exportDeclaration (start : Nat) (marks : List Tree) {hi : Nat}
    [AtMost lo start] [Fits source lo marks hi] [AtMost hi k] :
    Keeps source lo k (exportDeclaration g start marks) := by
  unfold exportDeclaration
  infer_instance

instance keeps_plainExport (start : Nat) [AtMost lo start] :
    Keeps source lo k (plainExport? g start) := by
  unfold plainExport?
  infer_instance

instance keeps_exportStatement (start : Nat) (marks : List Tree) {hi : Nat}
    [AtMost lo start] [Fits source lo marks hi] [AtMost hi k] :
    Keeps source lo k (exportStatement g start marks) := by
  unfold exportStatement
  infer_instance

/-! ### The whole grammar -/

instance keeps_decorated (place : Place) : Keeps source lo k (decorated g place) := by
  unfold decorated
  infer_instance

instance keeps_statement (place : Place) : Keeps source lo k (statement g place) := by
  unfold statement
  infer_instance

end Parser

namespace Grammar

variable {source : Text}

instance keeps_step (g : Grammar) [g.Keeps source] : (step g).Keeps source where
  rule := by
    intro r k hr
    cases r with
    | assignment returnTypes => exact Parser.keeps_assignmentExpression g returnTypes
    | binary least => exact Parser.keeps_binary g least
    | unary => exact Parser.keeps_unary g
    | leftHand => exact Parser.keeps_leftHandSide g
    | constructed => exact Parser.keeps_constructed g
    | pattern => exact Parser.keeps_pattern g
    | type => exact Parser.keeps_type g
    | typeOperand => exact Parser.keeps_typeOperand g
    | element child => exact absurd rfl (hr child)
    | statement place => exact Parser.keeps_statement g place
  element child _ _ hlo := Parser.keepsFrom_markupElement g child hlo

instance keeps_within (depth : Nat) : (within depth).Keeps source := by
  induction depth with
  | zero =>
      refine ⟨fun _ _ _ => Parser.keeps_fail, fun _ s lo _ => ?_⟩
      exact (Parser.keeps_fail : Script.Keeps source lo 0 _).keepsFrom s (Nat.zero_le _)
  | succ depth ih => exact keeps_step (within depth)

end Grammar

instance Parser.keeps_statements {source : Text} {k : Nat} (g : Grammar) [g.Keeps source] :
    Keeps source k k (Parser.statements g) := by
  unfold Parser.statements
  infer_instance

theorem State.stands_start (source : Text) :
    (State.start (skipHashbang source).1 (skipHashbang source).2).Stands source := by
  have hline : Reaches source 0 (skipHashbang source).2 (skipHashbang source).1 := by
    unfold skipHashbang
    split
    · dsimp only
      rw [← Nat.zero_add (Text.byteLength _)]
      exact Reaches.of_front (List.takeWhile_prefix _) 0
    · exact Reaches.refl _ _
  obtain ⟨line, hsource, hoffset⟩ := hline
  rw [Nat.zero_add] at hoffset
  have hfirst := stands_readToken hsource
  rw [← hoffset] at hfirst
  exact ⟨hfirst, Nat.zero_le _⟩

namespace Program

def first (source : Text) : Nat :=
  (readToken (skipHashbang source).1 (skipHashbang source).2).token.start

theorem chained_of_parse? {language : ScriptLanguage} {source : Text} {program : Program}
    (h : parse? language source = some program) :
    ∃ hi, Chained (Tree.Lies source) (first source) hi program.statements := by
  unfold parse? at h
  dsimp only at h
  split at h
  · rename_i list s hfound
    split at h
    · simp at h
    · obtain rfl := Option.some.inj h
      obtain ⟨-, -, hlist⟩ := (inferInstance : Keeps source (first source) (first source)
        (Parser.statements (Grammar.within (depthFor source.length)))).keepsFrom _ le_rfl _ _ _
        (State.stands_start source) hfound
      rw [← List.takeWhile_append_dropWhile (p := Parser.isDirective) (l := list)] at hlist
      obtain ⟨mid, hfront, hrest⟩ := Chained.of_append hlist
      exact ⟨_, hrest.widen_left hfront.le fun h hle => h.widen hle le_rfl⟩
  · simp at h

theorem lies_of_parse? {language : ScriptLanguage} {source : Text} {program : Program}
    (h : parse? language source = some program) : ∃ hi, program.tree.Lies source 0 hi := by
  obtain ⟨hi, hlies⟩ := chained_of_parse? h
  refine ⟨hi, Tree.Lies.node (Nat.zero_le _) (Nat.zero_le _) ?_⟩
  exact hlies.widen_left (Nat.zero_le _) fun h hle => h.widen hle le_rfl

theorem exists_lies_of_at? {language : ScriptLanguage} {source : Text} {program : Program}
    (h : parse? language source = some program) {path : Path} {part : Tree} (hpath : path ≠ [])
    (hpart : program.tree.at? path = some part) :
    ∃ m n, first source ≤ m ∧ part.Lies source m n := by
  obtain ⟨hi, hchain⟩ := chained_of_parse? h
  obtain ⟨step, rest, rfl⟩ := List.exists_cons_of_ne_nil hpath
  rw [Tree.at?_cons] at hpart
  obtain ⟨statement, hstatement, hpart⟩ := Option.bind_eq_some_iff.mp hpart
  have hmem : statement ∈ program.statements := by
    cases step <;> simp [tree, Tree.part?] at hstatement
    exact List.mem_of_getElem? hstatement
  obtain ⟨m, n, hm, -, hlies⟩ := hchain.exists_of_mem hmem
  obtain ⟨m', n', hm', -, hpartLies⟩ := hlies.exists_of_at? hpart
  exact ⟨m', n', hm.trans hm', hpartLies⟩

theorem namesSpelled_of_parse? {language : ScriptLanguage} {source : Text} {program : Program}
    (h : parse? language source = some program) : program.tree.NamesSpelled source := by
  obtain ⟨hi, hlies⟩ := lies_of_parse? h
  exact hlies.namesSpelled

end Program

end HandlerGuard.Script
