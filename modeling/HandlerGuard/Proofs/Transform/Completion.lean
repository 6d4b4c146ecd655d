import HandlerGuard.Proofs.Patch.History
import HandlerGuard.Proofs.Text.Infix
import HandlerGuard.Proofs.Transform.ImportPlace

namespace HandlerGuard

/-- The first line of a text with its line feed, what follows it, and the line feed that is missing if it
is the only line. -/
def Text.FirstLine (source line rest separator : Text) : Prop :=
  source = line ++ rest ∧
    ((∃ front, line = front ++ ['\n'] ∧ '\n' ∉ front ∧ separator = []) ∨
      ('\n' ∉ source ∧ rest = [] ∧ separator = ['\n']))

theorem Text.exists_firstLine (source : Text) :
    ∃ line rest separator, source.FirstLine line rest separator := by
  by_cases hfeed : '\n' ∈ source
  · obtain ⟨rest, hrest⟩ := Text.exists_dropWhile_ne hfeed
    refine ⟨source.takeWhile (· ≠ '\n') ++ ['\n'], rest, [], ?_, Or.inl ⟨_, rfl, ?_, rfl⟩⟩
    · rw [List.append_assoc, List.singleton_append, ← hrest, List.takeWhile_append_dropWhile]
    · intro hmem
      simpa using List.mem_takeWhile_imp hmem
  · exact ⟨source, [], ['\n'], by simp, Or.inr ⟨hfeed, rfl, rfl⟩⟩

namespace Patch

variable {p : Patch} {line rest separator : Text}

theorem injectImport_of_firstLine (statement : Text)
    (hbang : "#!".toList.isPrefixOf p.source = true)
    (hline : p.source.FirstLine line rest separator) :
    p.injectImport statement =
      p.overwriteWith ⟨0, line.byteLength⟩
        [.copied ⟨0, line.byteLength⟩, .inserted (separator ++ statement)] := by
  rw [injectImport_of_hashbang statement hbang]
  obtain ⟨hsource, ⟨front, rfl, hfront, rfl⟩ | ⟨hfeed, rfl, rfl⟩⟩ := hline
  · have hfeed : '\n' ∈ p.source := by simp [hsource]
    have htake : p.source.takeWhile (· ≠ '\n') = front := by
      have hall : ∀ c ∈ front, decide (c ≠ '\n') = true := by
        intro c hc
        simpa using fun h : c = '\n' => hfront (h ▸ hc)
      rw [hsource, List.append_assoc, List.takeWhile_append_of_pos hall]
      simp
    have hoffset : p.source.importOffset = (front ++ ['\n']).byteLength := by
      rw [Text.importOffset, if_pos hbang, htake, Text.byteLength_append]
      rfl
    rw [if_pos hfeed, hoffset, List.nil_append]
  · rw [if_neg hfeed, hsource, List.append_nil]
    rfl

theorem covers_front {source : Text} (hsource : source = line ++ rest) (hne : line ≠ []) :
    source.covers ⟨0, line.byteLength⟩ = true :=
  Text.covers_iff.mpr ⟨[], line, rest, hsource, hne, rfl, by simp⟩

theorem flatMap_text_layoutFrom_front {source : Text} {edits : List Edit}
    (hsource : source = line ++ rest) (hcovered : ∀ e ∈ edits, source.covers e.span = true)
    (hfrom : ∀ e ∈ edits, line.byteLength ≤ e.span.start) :
    (layoutFrom source 0 edits).flatMap (·.text) =
      line ++ (layoutFrom source line.byteLength edits).flatMap (·.text) := by
  cases edits with
  | nil =>
      rw [layoutFrom, layoutFrom, flatMap_text_segmentOf, flatMap_text_segmentOf, textAt_tail hsource]
      exact (textAt_tail (List.nil_append source).symm).trans hsource
  | cons e edits =>
      obtain ⟨gap, middle, right, rfl, hgap, -⟩ :=
        exists_gap_of_covers hsource (hcovered e (by simp)) (hfrom e (by simp))
      have hfront : textAt source ⟨0, e.span.start⟩ = line ++ gap := by
        have hsplit : source = [] ++ ((line ++ gap) ++ (middle ++ right)) := by simp [hsource]
        exact textAt_gap hsplit (by simpa using hgap)
      simp only [layoutFrom, List.flatMap_append, flatMap_text_segmentOf, hfront,
        textAt_gap hsource hgap, List.append_assoc]

namespace WellFormed

theorem render_eq_lead_append (h : p.WellFormed) :
    p.render = .ok (p.lead ++ (layoutFrom p.source 0 p.edits).flatMap (·.text)) := by
  rw [h.render_eq, layout, List.flatMap_append, flatMap_text_segmentOf]

theorem render_prepend (h : p.WellFormed) {t text : Text} (htext : p.render = .ok text) :
    (p.prepend t).render = .ok (t ++ text) := by
  rw [h.render_eq_lead_append] at htext
  rw [(wellFormed_prepend h t).render_eq_lead_append, ← Except.ok.inj htext, prepend,
    List.append_assoc]

theorem render_behind_front (h : p.WellFormed) {text : Text} {q : Patch}
    (hsource : p.source = line ++ rest) (hfrom : ∀ e ∈ p.edits, line.byteLength ≤ e.span.start)
    (hq : q.WellFormed) (hqsource : q.source = p.source) (hqlead : q.lead = p.lead)
    (hqedits : q.edits = ⟨⟨0, line.byteLength⟩,
      [.copied ⟨0, line.byteLength⟩, .inserted text]⟩ :: p.edits) :
    ∃ tail, p.render = .ok (p.lead ++ line ++ tail) ∧
      q.render = .ok (p.lead ++ line ++ text ++ tail) := by
  refine ⟨(layoutFrom p.source line.byteLength p.edits).flatMap (·.text), ?_, ?_⟩
  · rw [h.render_eq_lead_append, flatMap_text_layoutFrom_front hsource h.covered hfrom,
      List.append_assoc]
  · have hcopied : textAt p.source ⟨0, line.byteLength⟩ = line := by
      have hsplit : p.source = [] ++ (line ++ rest) := hsource
      exact textAt_gap hsplit (by simp)
    have hempty : textAt p.source ⟨0, 0⟩ = [] := by
      have hsplit : p.source = [] ++ ([] ++ p.source) := rfl
      exact textAt_gap hsplit rfl
    rw [hq.render_eq_lead_append, hqsource, hqlead, hqedits]
    simp [layoutFrom, pieceLayout, hcopied, hempty]

theorem result_of_firstLine {guarded : Nat} {target : Target} (h : p.WellFormed)
    (hpositive : guarded ≠ 0) (hmissing : p.source.includes target.directive.marker = false)
    (hbang : "#!".toList.isPrefixOf p.source = true)
    (hline : p.source.FirstLine line rest separator) (id : Text) :
    (∃ e edits, p.edits = e :: edits ∧ e.span.start < line.byteLength ∧
        p.result guarded target id = .error (.overlap e.span ⟨0, line.byteLength⟩)) ∨
      (∀ e ∈ p.edits, line.byteLength ≤ e.span.start) ∧
        ∃ output tail, p.result guarded target id = .ok (.transformed output) ∧
          p.render = .ok (p.lead ++ line ++ tail) ∧
          output.code = p.lead ++ line ++ separator ++ target.directive.statement ++ tail := by
  have himport : p.withImport target =
      p.overwriteWith ⟨0, line.byteLength⟩
        [.copied ⟨0, line.byteLength⟩, .inserted (separator ++ target.directive.statement)] := by
    rw [Patch.withImport, hmissing, ← injectImport_of_firstLine _ hbang hline]
    rfl
  have hne : line ≠ [] := by
    rintro rfl
    obtain ⟨hsource, ⟨front, hfront, -⟩ | ⟨-, rfl, -⟩⟩ := hline
    · simp at hfront
    · simp [hsource] at hbang
  have hcovers := covers_front hline.1 hne
  rcases h.overwriteWith_front_cases hcovers (separator ++ target.directive.statement) with
    ⟨e, edits, hedits, hlt, herror⟩ | ⟨hfrom, hgoes⟩
  · refine Or.inl ⟨e, edits, hedits, hlt, ?_⟩
    rw [result_of_ne_zero hpositive, himport, herror]
    rfl
  · have hwf := h.overwriteWith hgoes
    obtain ⟨tail, hrender, hrendered⟩ := h.render_behind_front hline.1 hfrom hwf rfl rfl rfl
    obtain ⟨output, houtput, hcode⟩ := hwf.result_of_withImport hpositive (himport.trans hgoes) id
    refine Or.inr ⟨hfrom, output, tail, houtput, hrender, ?_⟩
    rw [← Except.ok.inj (hrendered.symm.trans hcode)]
    simp

end WellFormed

/-- The result of a patch with some handler under the guard. If the marker stands in the source, it is the
patched text. If not, the import stands in front of it, or, in a script, behind the first line and a line
feed. In a script there is no result exactly if a recorded edit begins in the first line, and then the first
of them is named. -/
theorem reached_result_text (source : Text) (requests : List Request) (guarded : Nat) (target : Target)
    (id : Text) (hpositive : guarded ≠ 0) :
    (∀ output, (reached source requests).result guarded target id = .ok (.transformed output) →
        output.guarded = guarded ∧
          (output.importInjected = true ↔ ¬target.directive.marker <:+: source)) ∧
      (target.directive.marker <:+: source →
        ∃ output, (reached source requests).result guarded target id = .ok (.transformed output) ∧
          (reached source requests).render = .ok output.code) ∧
      (¬target.directive.marker <:+: source → ¬"#!".toList <+: source →
        ∃ output text,
          (reached source requests).result guarded target id = .ok (.transformed output) ∧
          (reached source requests).render = .ok text ∧
          output.code = target.directive.statement ++ text) ∧
      (¬target.directive.marker <:+: source → "#!".toList <+: source →
        ∃ line rest separator, source.FirstLine line rest separator ∧
          ((∃ recorded requested, (reached source requests).result guarded target id =
              .error (.overlap recorded requested)) ↔
            ∃ e ∈ (reached source requests).edits, e.span.start < line.byteLength) ∧
          (∀ error, (reached source requests).result guarded target id = .error error →
            ∃ e edits, (reached source requests).edits = e :: edits ∧
              error = .overlap e.span ⟨0, line.byteLength⟩) ∧
          ((∀ e ∈ (reached source requests).edits, line.byteLength ≤ e.span.start) →
            ∃ output tail,
              (reached source requests).result guarded target id = .ok (.transformed output) ∧
              (reached source requests).render =
                .ok ((reached source requests).lead ++ line ++ tail) ∧
              output.code = (reached source requests).lead ++ line ++ separator ++
                target.directive.statement ++ tail)) := by
  have hwf := wellFormed_reached source requests
  have hsource := source_reached source requests
  refine ⟨?_, ?_, ?_, ?_⟩
  · intro output houtput
    obtain ⟨-, -, -, -, hguarded, hinjected⟩ := result_eq_transformed houtput
    rw [hinjected, hsource, Bool.not_eq_true', Text.includes_eq_false_iff]
    exact ⟨hguarded, Iff.rfl⟩
  · intro hmarker
    apply hwf.result_of_withImport hpositive
    rw [withImport, hsource, if_pos (Text.includes_iff.mpr hmarker)]
  · intro hmissing hplain
    have himport : (reached source requests).withImport target =
        .ok ((reached source requests).prepend target.directive.statement) := by
      rw [withImport, hsource, if_neg (fun h => hmissing (Text.includes_iff.mp h)), injectImport,
        hsource, if_neg (fun h => hplain (List.isPrefixOf_iff_prefix.mp h))]
    obtain ⟨output, houtput, hcode⟩ :=
      (wellFormed_prepend hwf _).result_of_withImport hpositive himport id
    have hrender := hwf.render_prepend hwf.render_eq (t := target.directive.statement)
    exact ⟨output, _, houtput, hwf.render_eq, Except.ok.inj (hcode.symm.trans hrender)⟩
  · intro hmissing hbang
    obtain ⟨line, rest, separator, hline⟩ := source.exists_firstLine
    refine ⟨line, rest, separator, hline, ?_⟩
    rw [← Text.includes_eq_false_iff, ← hsource] at hmissing
    rw [← List.isPrefixOf_iff_prefix, ← hsource] at hbang
    rw [← hsource] at hline
    rcases hwf.result_of_firstLine hpositive hmissing hbang hline id with
      ⟨e, edits, hedits, hlt, herror⟩ | ⟨hfrom, output, tail, houtput, hrender, hcode⟩
    · have hmem : e ∈ (reached source requests).edits := by simp [hedits]
      refine ⟨iff_of_true ⟨_, _, herror⟩ ⟨e, hmem, hlt⟩, ?_, ?_⟩
      · intro error hresult
        exact ⟨e, edits, hedits, Except.error.inj (hresult.symm.trans herror)⟩
      · intro hfrom
        exact absurd hlt (Nat.not_lt.mpr (hfrom e hmem))
    · refine ⟨iff_of_false ?_ ?_, ?_, fun _ => ⟨output, tail, houtput, hrender, hcode⟩⟩
      · simp [houtput]
      · rintro ⟨e, he, hlt⟩
        exact absurd hlt (Nat.not_lt.mpr (hfrom e he))
      · simp [houtput]

/-- Requests that leave the first line alone. -/
def bodyRequests : List Request := [.overwrite ⟨4, 9⟩ "x".toList, .prepend "//\n".toList]

theorem mixedText_completed : ∃ line rest separator output tail,
    mixedText.FirstLine line rest separator ∧
      (reached mixedText bodyRequests).result 1 Target.standard "a.ts".toList =
        .ok (.transformed output) ∧
      output.importInjected = true ∧
      output.code =
        "//\n".toList ++ line ++ separator ++ Target.standard.directive.statement ++ tail := by
  obtain ⟨hmissing, hbang, hresult⟩ : ¬Target.standard.directive.marker <:+: mixedText ∧
      "#!".toList <+: mixedText ∧
      ((reached mixedText bodyRequests).result 1 Target.standard "a.ts".toList).toOption.isSome =
        true := by
    decide +kernel
  obtain ⟨hinjected, -, -, hscript⟩ :=
    reached_result_text mixedText bodyRequests 1 Target.standard "a.ts".toList (by decide)
  obtain ⟨line, rest, separator, hline, hoverlap, -, htext⟩ := hscript hmissing hbang
  have hfrom : ∀ e ∈ (reached mixedText bodyRequests).edits, line.byteLength ≤ e.span.start := by
    intro e he
    by_contra hlt
    obtain ⟨recorded, requested, herror⟩ := hoverlap.mpr ⟨e, he, Nat.not_le.mp hlt⟩
    rw [herror] at hresult
    simp [Except.toOption] at hresult
  obtain ⟨output, tail, houtput, -, hcode⟩ := htext hfrom
  exact ⟨line, rest, separator, output, tail, hline, houtput,
    (hinjected output houtput).2.mpr hmissing, hcode⟩

end Patch

end HandlerGuard
