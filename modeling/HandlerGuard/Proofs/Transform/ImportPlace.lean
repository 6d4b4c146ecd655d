import HandlerGuard.Proofs.CallSite.Placement
import HandlerGuard.Proofs.SourceMap.Mapping
import HandlerGuard.Proofs.Transform.Agreement

/-!
The place of the import, and the one case in which it is taken.

If the text begins with `#!`, the import goes behind the first line feed. To the language the first
line ends also at a carriage return or a line separator, so a handler may stand before that line feed.
Then there is no room for the import.
-/
namespace HandlerGuard

namespace Text

def firstLineStop (source : Text) : Nat :=
  if '\n' ∈ source then byteLength (source.takeWhile (· ≠ '\n')) + 1 else source.byteLength

theorem exists_dropWhile_ne {source : Text} {c : Char} (h : c ∈ source) :
    ∃ rest, source.dropWhile (· ≠ c) = c :: rest := by
  cases hrest : source.dropWhile (· ≠ c) with
  | nil => simpa using List.dropWhile_eq_nil_iff.mp hrest c h
  | cons d rest =>
      have hhead := List.head?_dropWhile_not (fun d => decide (d ≠ c)) source
      rw [hrest] at hhead
      obtain rfl : d = c := by simpa using hhead
      exact ⟨rest, rfl⟩

theorem covers_firstLine {source : Text} (hbang : "#!".toList.isPrefixOf source = true) :
    source.covers ⟨0, source.firstLineStop⟩ = true := by
  apply covers_iff.mpr
  by_cases hfeed : '\n' ∈ source
  · obtain ⟨rest, hrest⟩ := exists_dropWhile_ne hfeed
    refine ⟨[], source.takeWhile (· ≠ '\n') ++ ['\n'], rest, ?_, by simp, rfl, ?_⟩
    · rw [List.nil_append, List.append_assoc, List.singleton_append, ← hrest,
        List.takeWhile_append_dropWhile]
    · rw [firstLineStop, if_pos hfeed]
      simp
      rfl
  · refine ⟨[], source, [], by simp, ?_, rfl, ?_⟩
    · rintro rfl
      simp at hbang
    · rw [firstLineStop, if_neg hfeed]
      simp

/-- What stands on the first line behind the comment that `#!` begins, which ends at any line break. -/
def behindHashbang (source : Text) : Text :=
  (source.takeWhile (· ≠ '\n')).dropWhile (!Script.isLineBreak ·)

end Text

namespace Script

/-- A character that is passed over between tokens. -/
def isBlank (c : Char) : Bool := isLineBreak c || isSpace c

theorem skipGap_append_of_blank {blank : Text} (h : ∀ c ∈ blank, isBlank c = true) (newline : Bool)
    (offset : Nat) (rest : Text) :
    ∃ newline', skipGap .between newline offset (blank ++ rest) =
      skipGap .between newline' (offset + blank.byteLength) rest := by
  induction blank generalizing newline offset with
  | nil => exact ⟨newline, rfl⟩
  | cons c blank ih =>
      have hc : isBlank c = true := h c (by simp)
      have hslash : c ≠ '/' := by
        rintro rfl
        simp [isBlank, isLineBreak, isSpace] at hc
      have hrest : ∀ d ∈ blank, isBlank d = true := fun d hd => h d (List.mem_cons_of_mem c hd)
      rw [List.cons_append, Text.byteLength_cons, ← Nat.add_assoc, skipGap]
      · split
        · exact ih hrest true _
        · rename_i hbreak
          have hspace : isSpace c = true := by simpa [isBlank, hbreak] using hc
          rw [if_pos hspace]
          exact ih hrest newline _
      · exact fun _ hc _ => hslash hc
      · exact fun _ hc _ => hslash hc

theorem skipHashbang_eq {source : Text} (hbang : "#!".toList.isPrefixOf source = true) :
    ∃ line : Text, source.takeWhile (· ≠ '\n') = line ++ source.behindHashbang ∧
      skipHashbang source =
        (line.byteLength, source.behindHashbang ++ source.dropWhile (· ≠ '\n')) := by
  obtain ⟨rest, hsource⟩ := List.isPrefixOf_iff_prefix.mp hbang
  have hfront : source.takeWhile (!isLineBreak ·) =
      (source.takeWhile (· ≠ '\n')).takeWhile (!isLineBreak ·) := by
    rw [List.takeWhile_takeWhile]
    congr 1
    funext c
    by_cases hc : c = '\n'
    · simp [hc, isLineBreak]
    · simp [hc]
  have hline : source.takeWhile (· ≠ '\n') =
      source.takeWhile (!isLineBreak ·) ++ source.behindHashbang := by
    rw [hfront, Text.behindHashbang, List.takeWhile_append_dropWhile]
  refine ⟨_, hline, ?_⟩
  have hskip : skipHashbang source = (Text.byteLength (source.takeWhile (!isLineBreak ·)),
      source.drop (source.takeWhile (!isLineBreak ·)).length) := by
    rw [← hsource]
    rfl
  have hrest : (source.takeWhile (!isLineBreak ·) ++
      (source.behindHashbang ++ source.dropWhile (· ≠ '\n'))).drop
        (source.takeWhile (!isLineBreak ·)).length =
      source.behindHashbang ++ source.dropWhile (· ≠ '\n') := List.drop_left
  rw [← List.append_assoc, ← hline, List.takeWhile_append_dropWhile] at hrest
  rw [hskip, hrest]

theorem firstLineStop_le_first {source : Text} (hbang : "#!".toList.isPrefixOf source = true)
    (hblank : ∀ c ∈ source.behindHashbang, isBlank c = true) :
    source.firstLineStop ≤ Program.first source := by
  have hbody : ∃ blank rest, (∀ c ∈ blank, isBlank c = true) ∧
      (skipHashbang source).2 = blank ++ rest ∧
      source.firstLineStop = (skipHashbang source).1 + blank.byteLength := by
    obtain ⟨line, hline, hskip⟩ := skipHashbang_eq hbang
    rw [hskip, Text.firstLineStop]
    by_cases hfeed : '\n' ∈ source
    · obtain ⟨rest, hrest⟩ := Text.exists_dropWhile_ne hfeed
      refine ⟨source.behindHashbang ++ ['\n'], rest, ?_, ?_, ?_⟩
      · intro c hc
        rcases List.mem_append.mp hc with hc | hc
        · exact hblank c hc
        · obtain rfl : c = '\n' := by simpa using hc
          rfl
      · rw [hrest, List.append_assoc, List.singleton_append]
      · rw [if_pos hfeed, hline, Text.byteLength_append, Text.byteLength_append, Nat.add_assoc]
        rfl
    · have hwhole : source.takeWhile (· ≠ '\n') = source :=
        List.takeWhile_eq_self_iff.mpr fun c hc => by
          simpa using fun h : c = '\n' => hfeed (h ▸ hc)
      have hnone : source.dropWhile (· ≠ '\n') = [] :=
        List.dropWhile_eq_nil_iff.mpr fun c hc => by
          simpa using fun h : c = '\n' => hfeed (h ▸ hc)
      refine ⟨source.behindHashbang, [], hblank, by rw [hnone], ?_⟩
      rw [if_neg hfeed]
      nth_rewrite 1 [← hwhole]
      rw [hline, Text.byteLength_append]
  obtain ⟨blank, rest, hall, hrest, hstop⟩ := hbody
  obtain ⟨newline, hgap⟩ := skipGap_append_of_blank hall false (skipHashbang source).1 rest
  obtain ⟨gap, -, hoffset⟩ := reaches_skipGap .between newline
    ((skipHashbang source).1 + blank.byteLength) rest
  rw [Program.first, readToken, hrest, hgap, hoffset, hstop]
  exact Nat.le_add_right _ _

end Script

namespace Patch

theorem exists_injectImport_eq {p : Patch} (statement : Text)
    (hbang : "#!".toList.isPrefixOf p.source = true) :
    ∃ text, p.injectImport statement =
      p.overwriteWith ⟨0, p.source.firstLineStop⟩
        [.copied ⟨0, p.source.firstLineStop⟩, .inserted text] := by
  rw [injectImport_of_hashbang statement hbang, Text.importOffset, if_pos hbang,
    Text.firstLineStop]
  split
  · exact ⟨statement, rfl⟩
  · exact ⟨'\n' :: statement, rfl⟩

theorem piecesFit_front {source : Text} {stop : Nat} (hcovers : source.covers ⟨0, stop⟩ = true)
    (text : Text) : PiecesFit source ⟨0, stop⟩ [.copied ⟨0, stop⟩, .inserted text] := by
  intro inner hinner
  obtain rfl : inner = ⟨0, stop⟩ := by simpa using hinner
  exact ⟨hcovers, Span.within_refl _⟩

namespace WellFormed

theorem overwriteWith_front_cases {p : Patch} (h : p.WellFormed) {stop : Nat}
    (hcovers : p.source.covers ⟨0, stop⟩ = true) (text : Text) :
    (∃ e edits, p.edits = e :: edits ∧ e.span.start < stop ∧
        p.overwriteWith ⟨0, stop⟩ [.copied ⟨0, stop⟩, .inserted text] =
          .error (.overlap e.span ⟨0, stop⟩)) ∨
      (∀ e ∈ p.edits, stop ≤ e.span.start) ∧
        p.overwriteWith ⟨0, stop⟩ [.copied ⟨0, stop⟩, .inserted text] =
          .ok { p with edits := ⟨⟨0, stop⟩, [.copied ⟨0, stop⟩, .inserted text]⟩ :: p.edits } := by
  have hspan : p.checkSpan ⟨0, stop⟩ = .ok () := checkSpan_eq_ok_iff.mpr hcovers
  have hpieces : p.checkPieces ⟨0, stop⟩ [.copied ⟨0, stop⟩, .inserted text] = .ok () :=
    checkPieces_eq_ok_iff.mpr (piecesFit_front hcovers text)
  cases hcheck : checkRight ⟨0, stop⟩ p.edits with
  | error error =>
      obtain ⟨e, hhead, hlt, rfl⟩ := checkRight_eq_error hcheck
      obtain ⟨edits, hedits⟩ := List.head?_eq_some_iff.mp hhead
      refine Or.inl ⟨e, edits, hedits, hlt, ?_⟩
      simp only [Patch.overwriteWith, hspan, hpieces, splitEdits_zero, hcheck]
      rfl
  | ok u =>
      have hall := h.stop_le_of_head (s := ⟨0, stop⟩)
      rw [splitEdits_zero] at hall
      refine Or.inr ⟨hall (checkRight_eq_ok_iff.mp hcheck), ?_⟩
      simp only [Patch.overwriteWith, hspan, hpieces, splitEdits_zero, hcheck]
      rfl

theorem injectImport_cases {p : Patch} (h : p.WellFormed) (statement : Text) :
    (∃ q, p.injectImport statement = .ok q ∧ q.WellFormed ∧
        ("#!".toList.isPrefixOf p.source = true →
          ∀ e ∈ p.edits, p.source.firstLineStop ≤ e.span.start)) ∨
      ∃ e ∈ p.edits, "#!".toList.isPrefixOf p.source = true ∧
        e.span.start < p.source.firstLineStop ∧
        p.injectImport statement = .error (.overlap e.span ⟨0, p.source.firstLineStop⟩) := by
  by_cases hbang : "#!".toList.isPrefixOf p.source = true
  · obtain ⟨text, heq⟩ := exists_injectImport_eq (p := p) statement hbang
    rcases h.overwriteWith_front_cases (Text.covers_firstLine hbang) text with
      ⟨e, edits, hedits, hlt, herror⟩ | ⟨hfrom, hgoes⟩
    · exact Or.inr ⟨e, by simp [hedits], hbang, hlt, heq.trans herror⟩
    · exact Or.inl ⟨_, heq.trans hgoes, h.overwriteWith hgoes, fun _ => hfrom⟩
  · refine Or.inl ⟨p.prepend statement, ?_, wellFormed_prepend h statement,
      fun hyes => absurd hyes hbang⟩
    rw [Patch.injectImport, if_neg hbang]

theorem result_of_withImport {p q : Patch} {guarded : Nat} {target : Target} (h : q.WellFormed)
    (hpositive : guarded ≠ 0) (hq : p.withImport target = .ok q) (id : Text) :
    ∃ output, p.result guarded target id = .ok (.transformed output) ∧
      q.render = .ok output.code := by
  obtain ⟨maps, hmaps, -⟩ := h.exists_mappings target.hires
  rw [result_of_ne_zero hpositive, hq]
  simp only [Except.bind, h.render_eq, hmaps]
  exact ⟨_, rfl, rfl⟩

theorem result_cases {p : Patch} (h : p.WellFormed) {guarded : Nat}
    (hpositive : guarded ≠ 0) (target : Target) (id : Text) :
    ((∃ output, p.result guarded target id = .ok (.transformed output)) ∧
        (p.source.includes target.directive.marker = false →
          "#!".toList.isPrefixOf p.source = true →
          ∀ e ∈ p.edits, p.source.firstLineStop ≤ e.span.start)) ∨
      ∃ e ∈ p.edits, p.source.includes target.directive.marker = false ∧
        "#!".toList.isPrefixOf p.source = true ∧ e.span.start < p.source.firstLineStop ∧
        p.result guarded target id = .error (.overlap e.span ⟨0, p.source.firstLineStop⟩) := by
  cases hmarker : p.source.includes target.directive.marker with
  | true =>
      have hsame : p.withImport target = .ok p := by rw [Patch.withImport, hmarker, if_pos rfl]
      obtain ⟨output, houtput, -⟩ := h.result_of_withImport hpositive hsame id
      exact Or.inl ⟨⟨output, houtput⟩, by simp⟩
  | false =>
      have himport : p.withImport target = p.injectImport target.directive.statement := by
        rw [Patch.withImport, hmarker]
        rfl
      rcases h.injectImport_cases target.directive.statement with
        ⟨q, hq, hwf, hafter⟩ | ⟨e, he, hbang, hlt, herror⟩
      · obtain ⟨output, houtput, -⟩ := hwf.result_of_withImport hpositive (himport.trans hq) id
        exact Or.inl ⟨⟨output, houtput⟩, fun _ => hafter⟩
      · refine Or.inr ⟨e, he, rfl, hbang, hlt, ?_⟩
        rw [result_of_ne_zero hpositive, himport, herror]
        rfl

end WellFormed

end Patch

namespace CallSite

/-- There is no room for the import: it is missing, it would go behind the first line feed, and the
handler of a guardable call begins before that. -/
def LeaveNoRoom (target : Target) (source : Text) (sites : List CallSite) : Prop :=
  source.includes target.directive.marker = false ∧ "#!".toList.isPrefixOf source = true ∧
    ∃ site ∈ sites, site.isGuardable = true ∧
      ∃ handler, site.handler = some handler ∧ handler.start < source.firstLineStop

end CallSite

namespace Transformer

theorem result_cases_of_guardHandlers {target : Target} {code : Text} {sites : List CallSite}
    {edited : Patch} {n : Nat}
    (hguard : (Patch.ofText code).guardHandlers target sites = (edited, .ok n)) (id : Text) :
    ((∃ result, edited.result n target id = .ok result) ∧
        ¬CallSite.LeaveNoRoom target code sites) ∨
      CallSite.LeaveNoRoom target code sites ∧
        ∃ site ∈ sites, site.isGuardable = true ∧ ∃ handler, site.handler = some handler ∧
          handler.start < code.firstLineStop ∧
          edited.result n target id = .error (.overlap handler ⟨0, code.firstLineStop⟩) := by
  obtain ⟨hwf, hsource, -, hperm, hcount, -⟩ := Patch.guardHandlers_ofText hguard
  have hedit : ∀ site ∈ sites, ∀ handler, site.isGuardable = true → site.handler = some handler →
      Patch.guardEdit target edited.source site handler ∈ edited.edits := by
    intro site hsite handler hguardable hhandler
    exact hperm.mem_iff.mpr
      (Patch.mem_guardEdits_iff.mpr ⟨site, hsite, hguardable, handler, hhandler, rfl⟩)
  by_cases hzero : n = 0
  · subst hzero
    refine Or.inl ⟨⟨_, rfl⟩, ?_⟩
    rintro ⟨-, -, site, hsite, hguardable, handler, hhandler, -⟩
    have hmem := hedit site hsite handler hguardable hhandler
    rw [List.length_eq_zero_iff.mp hcount.symm] at hmem
    simp at hmem
  · rcases hwf.result_cases hzero target id with
      ⟨⟨output, houtput⟩, hroom⟩ | ⟨e, he, hmissing, hbang, hlt, herror⟩
    · refine Or.inl ⟨⟨_, houtput⟩, ?_⟩
      rintro ⟨hmissing, hbang, site, hsite, hguardable, handler, hhandler, hlt⟩
      rw [← hsource] at hmissing hbang hlt
      have hle := hroom hmissing hbang _ (hedit site hsite handler hguardable hhandler)
      exact absurd hlt (Nat.not_lt.mpr hle)
    · obtain ⟨site, hsite, hguardable, handler, hhandler, rfl⟩ :=
        Patch.mem_guardEdits_iff.mp (hperm.mem_iff.mp he)
      rw [hsource] at hmissing hbang hlt herror
      exact Or.inr ⟨⟨hmissing, hbang, site, hsite, hguardable, handler, hhandler, hlt⟩,
        site, hsite, hguardable, handler, hhandler, hlt, herror⟩

theorem transform_eq_error {t : Transformer} {id code : Text} {sites : List CallSite} {e : EditError}
    (hscan : t.scan id code = .ok sites) (h : t.transform id code = .error e) :
    ((Patch.ofText code).guardHandlers t.target sites).2 = .error e ∨
      ∃ edited n, (Patch.ofText code).guardHandlers t.target sites = (edited, .ok n) ∧
        edited.result n t.target id = .error e := by
  unfold transform at h
  split at h
  · simp at h
  split at h
  · simp at h
  simp only [hscan] at h
  rcases bind_eq_error_iff.mp h with h | ⟨n, hn, h⟩
  · exact Or.inl h
  · exact Or.inr ⟨_, n, Prod.ext rfl hn, h⟩

/-- A handler stands before the line feed only if there is something else than blanks between the
comment that `#!` begins and that line feed. -/
theorem exists_behindHashbang {target : Target} {language : ScriptLanguage} {code : Text}
    {program : Script.Program} (hparse : Script.Program.parse? language code = some program)
    (hnoRoom : CallSite.LeaveNoRoom target code (CallSite.find target code program)) :
    ∃ c ∈ code.behindHashbang, Script.isBlank c = false := by
  obtain ⟨-, hbang, site, hsite, -, handler, hhandler, hlt⟩ := hnoRoom
  by_contra hnone
  have hblank : ∀ c ∈ code.behindHashbang, Script.isBlank c = true := by simpa using hnone
  have hline := Script.firstLineStop_le_first hbang hblank
  have hfirst := CallSite.first_le_handler hparse hsite hhandler
  omega

/-- Of a module that can be parsed, no edit of a handler is refused for an overlap. The import is then
refused exactly if a handler begins before the line feed behind which it goes. No overlap is reported
otherwise, and none at all if that line feed ends the comment that `#!` begins. -/
theorem import_refused_iff (target : Target) (language : ScriptLanguage) (id code : Text)
    (program : Script.Program) (hparse : Script.Program.parse? language code = some program) :
    (∀ recorded requested,
        ((Patch.ofText code).guardHandlers target (CallSite.find target code program)).2 ≠
          .error (.overlap recorded requested)) ∧
      (∀ edited n, (Patch.ofText code).guardHandlers target (CallSite.find target code program) =
          (edited, .ok n) →
        ((∃ result, edited.result n target id = .ok result) ↔
          ¬CallSite.LeaveNoRoom target code (CallSite.find target code program)) ∧
        (CallSite.LeaveNoRoom target code (CallSite.find target code program) →
          ∃ site ∈ CallSite.find target code program, site.isGuardable = true ∧
            ∃ handler, site.handler = some handler ∧ handler.start < code.firstLineStop ∧
              edited.result n target id = .error (.overlap handler ⟨0, code.firstLineStop⟩))) ∧
      (∀ (t : Transformer) (recorded requested : Span), t.target = target →
        t.scan id code = .ok (CallSite.find target code program) →
        t.transform id code = .error (.overlap recorded requested) →
          CallSite.LeaveNoRoom target code (CallSite.find target code program)) ∧
      (CallSite.LeaveNoRoom target code (CallSite.find target code program) →
        ∃ c ∈ code.behindHashbang, Script.isBlank c = false) := by
  have hhandlers : ∀ recorded requested,
      ((Patch.ofText code).guardHandlers target (CallSite.find target code program)).2 ≠
        .error (.overlap recorded requested) :=
    fun _ _ => CallSite.guardHandlers_ne_overlap_of_parse? hparse
  refine ⟨hhandlers, ?_, ?_, exists_behindHashbang hparse⟩
  · intro edited n hguard
    rcases result_cases_of_guardHandlers hguard id with
      ⟨hresult, hroom⟩ | ⟨hnoRoom, site, hsite, hguardable, handler, hhandler, hlt, herror⟩
    · exact ⟨iff_of_true hresult hroom, fun hnoRoom => absurd hnoRoom hroom⟩
    · refine ⟨iff_of_false ?_ (not_not_intro hnoRoom), fun _ =>
        ⟨site, hsite, hguardable, handler, hhandler, hlt, herror⟩⟩
      rintro ⟨result, hresult⟩
      simp [herror] at hresult
  · rintro t recorded requested rfl hscan herror
    rcases transform_eq_error hscan herror with hrefused | ⟨edited, n, hguard, hresult⟩
    · exact absurd hrefused (hhandlers recorded requested)
    · rcases result_cases_of_guardHandlers hguard id with ⟨⟨result, hok⟩, -⟩ | ⟨hnoRoom, -⟩
      · simp [hok] at hresult
      · exact hnoRoom

/-- A script whose first line ends with a carriage return. -/
def returnText : Text := "#!/usr/bin/env node\rusePrerenderData('k', f)".toList

set_option maxRecDepth 10000 in
theorem returnText_noRoom : ∃ (program : Script.Program) (edited : Patch) (handler : Span),
    Script.Program.parse? .ts returnText = some program ∧
      edited.result 1 Target.standard scriptId =
        .error (.overlap handler ⟨0, returnText.firstLineStop⟩) := by
  obtain ⟨hread, hroom⟩ : (Script.Program.parse? .ts returnText).isSome = true ∧
      ((Script.Program.parse? .ts returnText).any fun program =>
        decide (((Patch.ofText returnText).guardHandlers Target.standard
          (CallSite.find Target.standard returnText program)).2 = .ok 1) &&
        decide (returnText.includes Target.standard.directive.marker = false) &&
        decide ("#!".toList.isPrefixOf returnText = true) &&
        (CallSite.find Target.standard returnText program).any fun site =>
          site.isGuardable && site.handler.any fun handler =>
            decide (handler.start < returnText.firstLineStop)) = true := by
    decide +kernel
  obtain ⟨program, hparse, h⟩ := (Option.any_eq_true _ _).mp hroom
  simp only [Bool.and_eq_true, decide_eq_true_eq, List.any_eq_true, Option.any_eq_true] at h
  obtain ⟨⟨⟨hcount, hmissing⟩, hbang⟩, site, hsite, hguardable, handler, hhandler, hlt⟩ := h
  obtain ⟨-, himport, -, -⟩ :=
    import_refused_iff Target.standard .ts scriptId returnText program hparse
  obtain ⟨-, hrefused⟩ := himport ((Patch.ofText returnText).guardHandlers Target.standard
    (CallSite.find Target.standard returnText program)).1 1 (by rw [← hcount])
  obtain ⟨-, -, -, handler', -, -, herror⟩ :=
    hrefused ⟨hmissing, hbang, site, hsite, hguardable, handler, hhandler, hlt⟩
  exact ⟨program, _, handler', hparse, herror⟩

set_option maxRecDepth 10000 in
theorem returnText_overlap : ∃ t,
    ofTarget Target.standard .production = .ok t ∧
      (Script.Program.parse? .ts returnText).isSome = true ∧
      t.transform scriptId returnText = .error (.overlap ⟨42, 43⟩ ⟨0, 44⟩) := by
  have hrun : ((ofTarget Target.standard .production).toOption.any fun t =>
      (Script.Program.parse? .ts returnText).isSome &&
        decide (t.transform scriptId returnText = .error (.overlap ⟨42, 43⟩ ⟨0, 44⟩))) = true := by
    decide +kernel
  obtain ⟨t, ht, hrun⟩ := exists_of_toOption_any hrun
  obtain ⟨hparse, herror⟩ := Bool.and_eq_true_iff.mp hrun
  exact ⟨t, ht, hparse, of_decide_eq_true herror⟩

end Transformer

end HandlerGuard
