import HandlerGuard.Proofs.Target.Validation
import HandlerGuard.Proofs.Transform.Candidate

namespace HandlerGuard

open Script

namespace CallSite

section

variable {target : Target} {language : ScriptLanguage} {source : Text} {program : Program}
  {path : Path} {site : CallSite}

theorem spelled_within (hparse : Program.parse? language source = some program)
    (hreport : (path, site) ∈ reports target source program) :
    ∃ span written,
      program.tree.at? (path ++ [.callee]) = some (.identifier span target.functionName) ∧
      span.within site.span = true ∧ source.slice? span = some written ∧
      Spells written target.functionName := by
  obtain ⟨span, hcallee, written, hslice, hspells⟩ := spelled_callee hparse hreport
  obtain ⟨_, callee, types, arguments, optional, hcall, -, rfl⟩ :=
    (siteAt_eq_some_iff _ _ _).mp (mem_reports_iff.mp hreport)
  obtain ⟨hi, hlies⟩ := Program.lies_of_parse? hparse
  obtain ⟨m, n, -, -, hlies⟩ := hlies.exists_of_at? hcall
  refine ⟨span, written, hcallee, ?_, hslice, hspells⟩
  rw [Tree.at?_concat hcall] at hcallee
  exact hlies.within_of_part? rfl hcallee

theorem spelled_in_range (hparse : Program.parse? language source = some program)
    (hreport : (path, site) ∈ reports target source program) {range : Span} {text : Text}
    (htext : source.slice? range = some text) (hwithin : site.span.within range = true) :
    ∃ span written,
      program.tree.at? (path ++ [.callee]) = some (.identifier span target.functionName) ∧
      source.slice? span = some written ∧ written <:+: text ∧
      Spells written target.functionName := by
  obtain ⟨span, written, hcallee, hinside, hslice, hspells⟩ := spelled_within hparse hreport
  refine ⟨span, written, hcallee, hslice, ?_, hspells⟩
  rw [Span.within_iff] at hinside hwithin
  exact Text.infix_of_slice?_within hslice htext (by omega) (by omega)

theorem escaped_in_range (hparse : Program.parse? language source = some program)
    (hreport : (path, site) ∈ reports target source program) {range : Span} {text : Text}
    (htext : source.slice? range = some text) (hwithin : site.span.within range = true)
    (hmissing : ¬target.functionName <:+: text) :
    ∃ span written,
      program.tree.at? (path ++ [.callee]) = some (.identifier span target.functionName) ∧
      source.slice? span = some written ∧ written <:+: text ∧
      Spells written target.functionName ∧ escapeMark <:+: written := by
  obtain ⟨span, written, hcallee, hslice, hin, hspells⟩ :=
    spelled_in_range hparse hreport htext hwithin
  exact ⟨span, written, hcallee, hslice, hin, hspells, hspells.escaped_of_infix hin hmissing⟩

end

/-- The key of a call is repeated in its fallback exactly if the name of the function does not stand in
its text. Then every call of the function in the range of the key has its name spelled in the text of
the key with an escape, so a key without escapes repeats no call. If one of the calls in the range has
its name written as it is, the fallback has no argument. -/
theorem repeated_calls_escaped (target : Target) (language : ScriptLanguage) (source : Text)
    (program : Program) (hvalid : target.validate = .ok ())
    (hshape : target.fallback.shape = .keyedCall)
    (hparse : Program.parse? language source = some program) :
    ∀ site ∈ find target source program, ∀ key text, site.key = some key →
      source.slice? key = some text →
        site.keyText source = some (some text) ∧
        (text <:+: target.renderFallback (some text) ↔ ¬target.functionName <:+: text) ∧
        (text <:+: target.renderFallback (some text) →
          ∀ (path : Path) (other : CallSite), (path, other) ∈ reports target source program →
            other.span.within key = true →
              ∃ span written,
                program.tree.at? (path ++ [.callee]) =
                  some (.identifier span target.functionName) ∧
                source.slice? span = some written ∧ written <:+: text ∧
                Spells written target.functionName ∧ escapeMark <:+: written) ∧
        (text <:+: target.renderFallback (some text) → ¬escapeMark <:+: text →
          ∀ other ∈ find target source program, other.span.within key = false) ∧
        ∀ (path : Path) (other : CallSite) (span : Span),
          (path, other) ∈ reports target source program → other.span.within key = true →
            program.tree.at? (path ++ [.callee]) =
              some (.identifier span target.functionName) →
            source.slice? span = some target.functionName →
              target.renderFallback (some text) = target.fallback.symbol ++ "()".toList := by
  intro site _ key text hkey htext
  have hrepeats : text <:+: target.renderFallback (some text) ↔ ¬target.functionName <:+: text :=
    (Target.validate_eq_ok_iff.mp hvalid).key_infix_renderFallback_iff hshape text
  refine ⟨?_, hrepeats, ?_, ?_, ?_⟩
  · rw [keyText, hkey]
    simp [htext]
  · intro hrepeated path other hreport hwithin
    exact escaped_in_range hparse hreport htext hwithin (hrepeats.mp hrepeated)
  · intro hrepeated hplain other hother
    rw [Bool.eq_false_iff]
    intro hwithin
    obtain ⟨path, hreport⟩ := exists_report_of_mem_find hother
    obtain ⟨-, written, -, -, hin, -, hmark⟩ :=
      escaped_in_range hparse hreport htext hwithin (hrepeats.mp hrepeated)
    exact hplain (hmark.trans hin)
  · intro path other span hreport hwithin hcallee hslice
    obtain ⟨span', written, hcallee', hslice', hin, -⟩ :=
      spelled_in_range hparse hreport htext hwithin
    have hname : target.functionName <:+: text := by
      rw [hcallee] at hcallee'
      obtain ⟨rfl, -⟩ := Tree.identifier.inj (Option.some.inj hcallee')
      rwa [Option.some.inj (hslice.symm.trans hslice')]
    rw [Target.renderFallback_keyed hshape, if_pos (Text.includes_iff.mpr hname)]
    rfl

def keyedTarget : Target :=
  { Target.standard with fallback := ⟨Target.defaultSymbol, .keyedCall⟩ }

/-- A module with a call whose key is a call, the name of which is written with an escape. -/
def escapedKeyText : Text := "usePrerenderData(\\u0075sePrerenderData('a', f), g)".toList

set_option maxRecDepth 10000 in
theorem exists_escaped_key :
    ∃ (program : Program) (site other : CallSite) (path : Path) (key handler : Span) (text : Text),
      keyedTarget.validate = .ok () ∧
      Program.parse? .ts escapedKeyText = some program ∧
      site ∈ find keyedTarget escapedKeyText program ∧ site.isGuardable = true ∧
      site.key = some key ∧ escapedKeyText.slice? key = some text ∧
      text <:+: keyedTarget.renderFallback (some text) ∧
      (path, other) ∈ reports keyedTarget escapedKeyText program ∧
      other.span.within key = true ∧ other.isGuardable = true ∧
      other.handler = some handler ∧ handler.within key = true := by
  obtain ⟨hvalid, hrun⟩ : keyedTarget.validate = .ok () ∧
      ((Program.parse? .ts escapedKeyText).any fun program =>
        (find keyedTarget escapedKeyText program)[0]?.any fun site =>
          (reports keyedTarget escapedKeyText program)[1]?.any fun report =>
            site.key.any fun key => (escapedKeyText.slice? key).any fun text =>
              report.2.handler.any fun handler =>
                site.isGuardable && decide (text <:+: keyedTarget.renderFallback (some text)) &&
                  report.2.span.within key && report.2.isGuardable && handler.within key) = true := by
    decide +kernel
  obtain ⟨program, hparse, hrun⟩ := (Option.any_eq_true _ _).mp hrun
  obtain ⟨site, hsite, hrun⟩ := (Option.any_eq_true _ _).mp hrun
  obtain ⟨⟨path, other⟩, hreport, hrun⟩ := (Option.any_eq_true _ _).mp hrun
  obtain ⟨key, hkey, hrun⟩ := (Option.any_eq_true _ _).mp hrun
  obtain ⟨text, htext, hrun⟩ := (Option.any_eq_true _ _).mp hrun
  obtain ⟨handler, hhandler, hrun⟩ := (Option.any_eq_true _ _).mp hrun
  simp only [Bool.and_eq_true, decide_eq_true_eq] at hrun
  obtain ⟨⟨⟨⟨hguardable, hrepeated⟩, hwithin⟩, hguardable'⟩, hinside⟩ := hrun
  exact ⟨program, site, other, path, key, handler, text, hvalid, hparse, List.mem_of_getElem? hsite,
    hguardable, hkey, htext, hrepeated, List.mem_of_getElem? hreport, hwithin, hguardable', hhandler,
    hinside⟩

theorem escapedKeyText_spelling :
    ∃ (program : Program) (path : Path) (other : CallSite) (key span : Span) (text written : Text),
      Program.parse? .ts escapedKeyText = some program ∧
      (path, other) ∈ reports keyedTarget escapedKeyText program ∧
      other.span.within key = true ∧ escapedKeyText.slice? key = some text ∧
      program.tree.at? (path ++ [.callee]) = some (.identifier span keyedTarget.functionName) ∧
      escapedKeyText.slice? span = some written ∧ written <:+: text ∧ escapeMark <:+: written := by
  obtain ⟨program, site, other, path, key, handler, text, hvalid, hparse, hsite, -, hkey, htext,
    hrepeated, hreport, hwithin, -⟩ := exists_escaped_key
  obtain ⟨-, -, hescaped, -⟩ := repeated_calls_escaped keyedTarget .ts escapedKeyText program hvalid rfl
    hparse site hsite key text hkey htext
  obtain ⟨span, written, hcallee, hslice, hin, -, hmark⟩ :=
    hescaped hrepeated path other hreport hwithin
  exact ⟨program, path, other, key, span, text, written, hparse, hreport, hwithin, htext, hcallee,
    hslice, hin, hmark⟩

/-- The fallback repeats a call that is itself going to be guarded, and with it the handler without its
guard. -/
theorem escapedKeyText_repeated :
    ∃ (program : Program) (site other : CallSite) (key handler : Span) (text : Text),
      keyedTarget.validate = .ok () ∧ keyedTarget.fallback.shape = .keyedCall ∧
      Program.parse? .ts escapedKeyText = some program ∧
      site ∈ find keyedTarget escapedKeyText program ∧ site.isGuardable = true ∧
      site.key = some key ∧ escapedKeyText.slice? key = some text ∧
      text <:+: keyedTarget.renderFallback (some text) ∧
      other ∈ find keyedTarget escapedKeyText program ∧ other.span.within key = true ∧
      other.isGuardable = true ∧ other.handler = some handler ∧ handler.within key = true := by
  obtain ⟨program, site, other, path, key, handler, text, hvalid, hparse, hsite, hguardable, hkey,
    htext, hrepeated, hreport, hwithin, hguardable', hhandler, hinside⟩ := exists_escaped_key
  have hfound : other ∈ find keyedTarget escapedKeyText program :=
    mem_find_iff.mpr ⟨path, mem_reports_iff.mp hreport⟩
  exact ⟨program, site, other, key, handler, text, hvalid, rfl, hparse, hsite, hguardable, hkey, htext,
    hrepeated, hfound, hwithin, hguardable', hhandler, hinside⟩

end CallSite

end HandlerGuard
