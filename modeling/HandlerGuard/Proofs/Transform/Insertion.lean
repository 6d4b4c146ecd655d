import HandlerGuard.Proofs.CallSite.Disjointness
import HandlerGuard.Transform

namespace HandlerGuard

namespace Text

/-- Where the import belongs: in front, or after the first line if that begins with `#!`. -/
def importOffset (source : Text) : Nat :=
  if "#!".toList.isPrefixOf source then byteLength (source.takeWhile (· ≠ '\n')) + 1 else 0

theorem takeWhile_ne_eq_self {source : Text} {c : Char} (h : c ∉ source) :
    source.takeWhile (· ≠ c) = source := by
  apply List.takeWhile_eq_self_iff.mpr
  intro d hd
  have hne : d ≠ c := by
    rintro rfl
    exact h hd
  simpa using hne

theorem length_takeWhile_ne_lt {source : Text} {c : Char} (h : c ∈ source) :
    (source.takeWhile (· ≠ c)).length < source.length := by
  induction source with
  | nil => simp at h
  | cons d source ih =>
      by_cases hd : d = c
      · simp [hd]
      · have hmem : c ∈ source := (List.mem_cons.mp h).resolve_left (Ne.symm hd)
        simpa [hd] using ih hmem

end Text

namespace CallSite

/-- What is put in for a call at an offset where its handler begins. -/
def guardAt (target : Target) (site : CallSite) (offset : Nat) : Text :=
  match site.handler with
  | some handler =>
      if site.isGuardable ∧ offset = handler.start then target.guard ++ " ? ".toList else []
  | none => []

/-- What is put in for a call at an offset where its handler ends. -/
def fallbackAt (target : Target) (source : Text) (site : CallSite) (offset : Nat) : Text :=
  match site.handler with
  | some handler =>
      if site.isGuardable ∧ offset = handler.stop then
        " : ".toList ++ target.renderFallback (site.keyText source).join
      else []
  | none => []

/-- What is put in at an offset of a module with the given calls. -/
def insertionAt (target : Target) (source : Text) (sites : List CallSite) (offset : Nat) : Text :=
  (if source.includes target.directive.marker = false ∧ offset = source.importOffset then
      target.directive.statement
    else []) ++
    (sites.flatMap (fallbackAt target source · offset) ++ sites.flatMap (guardAt target · offset))

end CallSite

namespace Patch

/-- The patch with the import in it, unless the marker stands in the text. -/
def withImport (p : Patch) (target : Target) : Except EditError Patch :=
  if p.source.includes target.directive.marker then .ok p
  else p.injectImport target.directive.statement

theorem mem_guardEdits_iff {target : Target} {source : Text} {sites : List CallSite} {e : Edit} :
    e ∈ guardEdits target source sites ↔
      ∃ site ∈ sites, site.isGuardable = true ∧ ∃ handler, site.handler = some handler ∧
        guardEdit target source site handler = e := by
  simp only [guardEdits, List.mem_filterMap, List.mem_filter, Option.map_eq_some_iff, and_assoc]

theorem onlyInserts_of_guardEdits {p : Patch} {target : Target} {source : Text}
    {sites : List CallSite} (hperm : p.edits.Perm (guardEdits target source sites)) :
    p.OnlyInserts := by
  intro e he
  obtain ⟨site, -, -, handler, -, rfl⟩ := mem_guardEdits_iff.mp (hperm.mem_iff.mp he)
  exact tiles_guardEdit target source site handler

theorem length_guardEdits {target : Target} {source : Text} {sites : List CallSite}
    (h : ∀ site ∈ sites, site.isGuardable = true → ∃ handler, site.handler = some handler) :
    (guardEdits target source sites).length = (sites.filter CallSite.isGuardable).length := by
  rw [guardEdits, List.filterMap_length_eq_length]
  intro site hsite
  obtain ⟨hmem, hguardable⟩ := List.mem_filter.mp hsite
  obtain ⟨handler, hhandler⟩ := h site hmem hguardable
  rw [hhandler]
  rfl

theorem flatMap_guardEdits {target : Target} {source : Text} (sites : List CallSite)
    {f : Edit → Text} {g : CallSite → Text}
    (hguarded : ∀ site ∈ sites, ∀ handler, site.isGuardable = true → site.handler = some handler →
      g site = f (guardEdit target source site handler))
    (hskipped : ∀ site ∈ sites, site.isGuardable = false ∨ site.handler = none → g site = []) :
    (guardEdits target source sites).flatMap f = sites.flatMap g := by
  induction sites with
  | nil => rfl
  | cons site sites ih =>
      have ih := ih (fun s hs => hguarded s (List.mem_cons_of_mem _ hs))
        (fun s hs => hskipped s (List.mem_cons_of_mem _ hs))
      cases hguardable : site.isGuardable with
      | false =>
          rw [guardEdits_cons_of_skipped (Or.inl hguardable), ih, List.flatMap_cons,
            hskipped site (by simp) (Or.inl hguardable), List.nil_append]
      | true =>
          cases hhandler : site.handler with
          | none =>
              rw [guardEdits_cons_of_skipped (Or.inr hhandler), ih, List.flatMap_cons,
                hskipped site (by simp) (Or.inr hhandler), List.nil_append]
          | some handler =>
              rw [guardEdits_cons_of_guardable hguardable hhandler, List.flatMap_cons, ih,
                List.flatMap_cons, hguarded site (by simp) handler hguardable hhandler]

theorem insertedBy_guardEdit (target : Target) (source : Text) (site : CallSite) (handler : Span)
    (offset : Nat) :
    insertedBy handler.start (guardEdit target source site handler).pieces offset =
      (if offset = handler.start then target.guard ++ " ? ".toList else []) ++
        if offset = handler.stop then
          " : ".toList ++ target.renderFallback (site.keyText source).join
        else [] := by
  simp only [guardEdit, guardedPieces, insertedBy, List.append_nil]

theorem opening_guardEdit {target : Target} {source : Text} {site : CallSite} {handler : Span}
    (hpos : handler.start < handler.stop) (offset : Nat) :
    opening (guardEdit target source site handler) offset =
      if offset = handler.start then target.guard ++ " ? ".toList else [] := by
  have hspan : (guardEdit target source site handler).span = handler := rfl
  rw [opening, hspan, insertedBy_guardEdit]
  by_cases hle : offset ≤ handler.start
  · rw [if_pos hle, if_neg (by omega : offset ≠ handler.stop), List.append_nil]
  · rw [if_neg hle, if_neg (by omega : offset ≠ handler.start)]

theorem closing_guardEdit {target : Target} {source : Text} {site : CallSite} {handler : Span}
    (hpos : handler.start < handler.stop) (offset : Nat) :
    closing (guardEdit target source site handler) offset =
      if offset = handler.stop then
        " : ".toList ++ target.renderFallback (site.keyText source).join
      else [] := by
  have hspan : (guardEdit target source site handler).span = handler := rfl
  rw [closing, hspan, insertedBy_guardEdit]
  by_cases hle : offset ≤ handler.start
  · rw [if_pos hle, if_neg (by omega : offset ≠ handler.stop)]
  · rw [if_neg hle, if_neg (by omega : offset ≠ handler.start), List.nil_append]

theorem WellFormed.insertions_of_guardEdits {p : Patch} {target : Target} {sites : List CallSite}
    (h : p.WellFormed) (hperm : p.edits.Perm (guardEdits target p.source sites)) (offset : Nat) :
    insertions p.edits offset =
      sites.flatMap (CallSite.fallbackAt target p.source · offset) ++
        sites.flatMap (CallSite.guardAt target · offset) := by
  have honly := onlyInserts_of_guardEdits hperm
  have hpos : ∀ site ∈ sites, ∀ handler, site.isGuardable = true → site.handler = some handler →
      handler.start < handler.stop := by
    intro site hsite handler hguardable hhandler
    exact h.start_lt_stop (hperm.mem_iff.mpr
      (mem_guardEdits_iff.mpr ⟨site, hsite, hguardable, handler, hhandler, rfl⟩))
  rw [h.insertions_eq honly hperm]
  congr 1
  · apply flatMap_guardEdits
    · intro site hsite handler hguardable hhandler
      rw [closing_guardEdit (hpos site hsite handler hguardable hhandler)]
      simp [CallSite.fallbackAt, hhandler, hguardable]
    · rintro site - (hskipped | hskipped)
      · cases hhandler : site.handler <;> simp [CallSite.fallbackAt, hhandler, hskipped]
      · simp [CallSite.fallbackAt, hskipped]
  · apply flatMap_guardEdits
    · intro site hsite handler hguardable hhandler
      rw [opening_guardEdit (hpos site hsite handler hguardable hhandler)]
      simp [CallSite.guardAt, hhandler, hguardable]
    · rintro site - (hskipped | hskipped)
      · cases hhandler : site.handler <;> simp [CallSite.guardAt, hhandler, hskipped]
      · simp [CallSite.guardAt, hskipped]

theorem guardHandlers_ofText {code : Text} {edited : Patch} {target : Target}
    {sites : List CallSite} {n : Nat}
    (h : (ofText code).guardHandlers target sites = (edited, .ok n)) :
    edited.WellFormed ∧ edited.source = code ∧ edited.lead = [] ∧
      edited.edits.Perm (guardEdits target edited.source sites) ∧ n = edited.edits.length ∧
      ∀ site ∈ sites, ∀ handler, site.isGuardable = true → site.handler = some handler →
        code.covers handler = true ∧ ∃ key, site.keyText code = some key := by
  obtain ⟨hwf, hsource, hlead, hperm, hcount, hkeys⟩ :=
    guardHandlers_eq_ok (wellFormed_ofText code) h
  have hperm : edited.edits.Perm (guardEdits target code sites) := by
    simpa [ofText] using hperm
  obtain rfl : edited.source = code := hsource
  refine ⟨hwf, rfl, hlead, hperm, hcount.trans hperm.length_eq.symm, ?_⟩
  intro site hsite handler hguardable hhandler
  have hmem : guardEdit target edited.source site handler ∈ edited.edits :=
    hperm.mem_iff.mpr
      (mem_guardEdits_iff.mpr ⟨site, hsite, hguardable, handler, hhandler, rfl⟩)
  exact ⟨hwf.covered _ hmem, hkeys site hsite hguardable (by simp [hhandler])⟩

theorem append_weave (first : Text) (f : Nat → Text) (t : Text) :
    first ++ t.weave f = t.weave fun offset => (if offset = 0 then first else []) ++ f offset := by
  have hothers : ∀ n, 0 < n → n ≤ 0 + t.byteLength →
      (if n = 0 then first else []) ++ f n = f n := by
    intro n hn _
    rw [if_neg (Nat.ne_of_gt hn), List.nil_append]
  have hstart : (fun n => (if n = 0 then first else []) ++ f n) 0 = first ++ f 0 := rfl
  have hweave := Text.weaveFrom_start hstart hothers
  rw [Nat.zero_add] at hweave
  exact hweave.symm

theorem injectImport_of_hashbang {p : Patch} (statement : Text)
    (hbang : "#!".toList.isPrefixOf p.source = true) :
    p.injectImport statement =
      if '\n' ∈ p.source then
        p.overwriteWith ⟨0, p.source.importOffset⟩
          [.copied ⟨0, p.source.importOffset⟩, .inserted statement]
      else
        p.overwriteWith ⟨0, p.source.byteLength⟩
          [.copied ⟨0, p.source.byteLength⟩, .inserted ('\n' :: statement)] := by
  rw [injectImport, if_pos hbang]
  by_cases hfeed : '\n' ∈ p.source
  · have hoffset : p.source.importOffset =
        Text.byteLength (p.source.takeWhile (· ≠ '\n')) + 1 := if_pos hbang
    rw [if_pos hfeed, hoffset]
    simp only [if_pos (Text.length_takeWhile_ne_lt hfeed), List.nil_append]
  · rw [if_neg hfeed]
    simp only [Text.takeWhile_ne_eq_self hfeed, Nat.lt_irrefl, if_false, List.cons_append,
      List.nil_append]

theorem WellFormed.edits_eq_nil_of_apart {p : Patch} (h : p.WellFormed)
    (hapart : ∀ e ∈ p.edits, e.span.Apart ⟨0, p.source.byteLength⟩) : p.edits = [] := by
  apply List.eq_nil_iff_forall_not_mem.mpr
  intro e he
  have hpos := h.start_lt_stop he
  have hstop := Text.stop_le_of_covers (h.covered e he)
  have hcases : e.span.stop ≤ 0 ∨ p.source.byteLength ≤ e.span.start := hapart e he
  omega

theorem splitEdits_zero (p : Patch) (stop : Nat) : p.splitEdits ⟨0, stop⟩ = ([], p.edits) := by
  cases hedits : p.edits with
  | nil => simp [splitEdits, hedits]
  | cons e edits => simp [splitEdits, hedits]

theorem WellFormed.injectImport {p q : Patch} {statement : Text} (h : p.WellFormed)
    (honly : p.OnlyInserts) (hlead : p.lead = []) (hedits : p.edits ≠ [])
    (hq : p.injectImport statement = .ok q) :
    q.WellFormed ∧ q.OnlyInserts ∧ q.source = p.source ∧
      p.source.isBoundary p.source.importOffset = true ∧
      ("#!".toList.isPrefixOf p.source = true → '\n' ∈ p.source) ∧
      q.lead ++ q.source.weave (insertions q.edits) =
        p.source.weave fun offset =>
          (if offset = p.source.importOffset then statement else []) ++
            insertions p.edits offset := by
  by_cases hbang : "#!".toList.isPrefixOf p.source = true
  · rw [injectImport_of_hashbang statement hbang] at hq
    by_cases hfeed : '\n' ∈ p.source
    · rw [if_pos hfeed] at hq
      have hwf := h.overwriteWith hq
      obtain ⟨hcovers, -, -, rfl⟩ := h.overwriteWith_eq_ok_iff.mp hq
      rw [splitEdits_zero] at hwf ⊢
      refine ⟨hwf, ?_, rfl, Text.isBoundary_stop_of_covers hcovers, fun _ => hfeed, ?_⟩
      · intro e he
        rcases List.mem_cons.mp he with rfl | he
        · exact ⟨rfl, rfl⟩
        · exact honly e he
      · have hinsertions : insertions
            (⟨⟨0, p.source.importOffset⟩,
              [.copied ⟨0, p.source.importOffset⟩, .inserted statement]⟩ :: p.edits) =
            fun offset => (if offset = p.source.importOffset then statement else []) ++
              insertions p.edits offset := by
          funext offset
          simp [insertions_cons, insertedBy]
        rw [hlead, List.nil_append, List.nil_append, hinsertions]
    · rw [if_neg hfeed] at hq
      obtain ⟨-, -, hapart, -⟩ := h.overwriteWith_eq_ok_iff.mp hq
      exact absurd (h.edits_eq_nil_of_apart hapart) hedits
  · rw [Patch.injectImport, if_neg hbang] at hq
    obtain rfl := Except.ok.inj hq
    have hoffset : p.source.importOffset = 0 := if_neg hbang
    rw [hoffset]
    refine ⟨wellFormed_prepend h statement, honly, rfl, Text.isBoundary_zero _,
      fun h => absurd h hbang, ?_⟩
    rw [← append_weave, prepend, hlead, List.append_nil]

theorem WellFormed.withImport {p q : Patch} {target : Target} (h : p.WellFormed)
    (honly : p.OnlyInserts) (hlead : p.lead = []) (hedits : p.edits ≠ [])
    (hq : p.withImport target = .ok q) :
    q.WellFormed ∧ q.OnlyInserts ∧ q.source = p.source ∧
      (p.source.includes target.directive.marker = false →
        p.source.isBoundary p.source.importOffset = true ∧
          ("#!".toList.isPrefixOf p.source = true → '\n' ∈ p.source)) ∧
      q.lead ++ q.source.weave (insertions q.edits) =
        p.source.weave fun offset =>
          (if p.source.includes target.directive.marker = false ∧
              offset = p.source.importOffset then
            target.directive.statement
          else []) ++ insertions p.edits offset := by
  unfold Patch.withImport at hq
  cases hmarker : p.source.includes target.directive.marker with
  | true =>
      rw [hmarker] at hq
      obtain rfl := Except.ok.inj hq
      refine ⟨h, honly, rfl, by simp, ?_⟩
      simp [hlead]
  | false =>
      rw [hmarker] at hq
      obtain ⟨hwf, honly', hsource, hboundary, hfeed, htext⟩ :=
        h.injectImport honly hlead hedits hq
      refine ⟨hwf, honly', hsource, fun _ => ⟨hboundary, hfeed⟩, ?_⟩
      simpa using htext

theorem result_eq_transformed {p : Patch} {guarded : Nat} {target : Target} {id : Text}
    {output : Output} (h : p.result guarded target id = .ok (.transformed output)) :
    guarded ≠ 0 ∧ ∃ final, p.withImport target = .ok final ∧ final.render = .ok output.code ∧
      output.guarded = guarded ∧
      output.importInjected = !p.source.includes target.directive.marker := by
  unfold result at h
  split at h
  · simp at h
  rename_i hpositive
  refine ⟨hpositive, ?_⟩
  unfold withImport
  cases hmarker : p.source.includes target.directive.marker with
  | false =>
      simp only [hmarker, Bool.not_false, if_true, bind_eq_ok_iff] at h
      obtain ⟨final, hfinal, code, hcode, mappings, -, houtput⟩ := h
      obtain rfl := TransformResult.transformed.inj (Except.ok.inj houtput)
      exact ⟨final, hfinal, hcode, rfl, rfl⟩
  | true =>
      simp only [hmarker, Bool.not_true, Bool.false_eq_true, if_false, bind_eq_ok_iff] at h
      obtain ⟨final, hfinal, code, hcode, mappings, -, houtput⟩ := h
      obtain rfl := TransformResult.transformed.inj (Except.ok.inj houtput)
      exact ⟨final, hfinal, hcode, rfl, rfl⟩

end Patch

namespace Transformer

theorem target_of_ofTarget {target : Target} {mode : BuildMode} {t : Transformer}
    (h : ofTarget target mode = .ok t) : t.target = target := by
  simp only [ofTarget, bind_eq_ok_iff] at h
  obtain ⟨-, -, filter, -, ht⟩ := h
  rw [← Except.ok.inj ht]

theorem scan_eq_ok {t : Transformer} {id code : Text} {sites : List CallSite}
    (h : t.scan id code = .ok sites) :
    ∃ language program, t.filter.admission id code = .ok (some language) ∧
      Script.Program.parse? language code = some program ∧
      sites = CallSite.find t.target code program := by
  unfold scan at h
  split at h
  · simp at h
  · simp at h
  · rename_i language hadmission
    split at h
    · simp at h
    · rename_i program hparse
      exact ⟨language, program, hadmission, hparse, (Except.ok.inj h).symm⟩

theorem transform_eq_transformed {t : Transformer} {id code : Text} {output : Output}
    (h : t.transform id code = .ok (.transformed output)) :
    ∃ sites edited, t.scan id code = .ok sites ∧ output.guarded ≠ 0 ∧
      (Patch.ofText code).guardHandlers t.target sites = (edited, .ok output.guarded) ∧
      output.importInjected = !edited.source.includes t.target.directive.marker ∧
      ∃ final, edited.withImport t.target = .ok final ∧ final.render = .ok output.code := by
  unfold transform at h
  split at h
  · simp at h
  split at h
  · simp at h
  split at h
  · simp at h
  rename_i sites hscan
  rcases hguard : (Patch.ofText code).guardHandlers t.target sites with ⟨edited, count⟩
  simp only [hguard, bind_eq_ok_iff] at h
  obtain ⟨guarded, rfl, hresult⟩ := h
  obtain ⟨hpositive, final, hfinal, hrender, rfl, hinjected⟩ :=
    Patch.result_eq_transformed hresult
  exact ⟨sites, edited, hscan, hpositive, hguard, hinjected, final, hfinal, hrender⟩

/-- A transformed module is the module with insertions only. What is copied from it is the whole of
it, in order, and each of the offsets at which something is put in is one between two characters. -/
theorem transform_only_inserts (target : Target) (mode : BuildMode) (t : Transformer)
    (id code : Text) (output : Output) (ht : ofTarget target mode = .ok t)
    (houtput : t.transform id code = .ok (.transformed output)) :
    ∃ language program sites edited final parts,
      Script.Program.parse? language code = some program ∧
      sites = CallSite.find target code program ∧
      t.scan id code = .ok sites ∧
      (Patch.ofText code).guardHandlers target sites = (edited, .ok output.guarded) ∧
      edited.withImport target = .ok final ∧
      final.segments = .ok parts ∧
      output.code = parts.flatMap (·.text) ∧
      parts.flatMap Segment.copiedText = code ∧
      output.code = code.weave (CallSite.insertionAt target code sites) ∧
      (∀ site ∈ sites, site.isGuardable = true → ∃ handler key,
        site.handler = some handler ∧ code.covers handler = true ∧
          site.keyText code = some key) ∧
      output.guarded = (sites.filter CallSite.isGuardable).length ∧
      output.importInjected = !code.includes target.directive.marker ∧
      (output.importInjected = true → code.isBoundary code.importOffset = true ∧
        ("#!".toList.isPrefixOf code = true → '\n' ∈ code)) := by
  obtain rfl := target_of_ofTarget ht
  obtain ⟨sites, edited, hscan, hpositive, hguard, hinjected, final, hfinal, hrender⟩ :=
    transform_eq_transformed houtput
  obtain ⟨language, program, -, hparse, hsites⟩ := scan_eq_ok hscan
  obtain ⟨hwf, rfl, hlead, hperm, hcount, hsound⟩ := Patch.guardHandlers_ofText hguard
  have hhandlers : ∀ site ∈ sites, site.isGuardable = true →
      ∃ handler, site.handler = some handler := by
    intro site hsite hguardable
    rw [hsites] at hsite
    exact CallSite.exists_handler_of_mem_find hsite hguardable
  have hedits : edited.edits ≠ [] := by
    intro hempty
    rw [hcount, hempty] at hpositive
    exact hpositive rfl
  obtain ⟨hfinalWf, honly, hfinalSource, himport, htext⟩ :=
    hwf.withImport (Patch.onlyInserts_of_guardEdits hperm) hlead hedits hfinal
  have hcode : output.code = final.layout.flatMap (·.text) :=
    Except.ok.inj (hrender.symm.trans hfinalWf.render_eq)
  have hcopied : final.layout.flatMap Segment.copiedText = edited.source :=
    (hfinalWf.flatMap_copiedText_layout honly).trans hfinalSource
  have hwoven : output.code =
      edited.source.weave (CallSite.insertionAt t.target edited.source sites) := by
    rw [hcode, hfinalWf.flatMap_text_layout honly, htext]
    congr 1
    funext offset
    rw [hwf.insertions_of_guardEdits hperm]
    rfl
  have hlength : output.guarded = (sites.filter CallSite.isGuardable).length := by
    rw [hcount, hperm.length_eq, Patch.length_guardEdits hhandlers]
  refine ⟨language, program, sites, edited, final, final.layout, hparse, hsites, hscan, hguard,
    hfinal, hfinalWf.segments_eq, hcode, hcopied, hwoven, ?_, hlength, hinjected, ?_⟩
  · intro site hsite hguardable
    obtain ⟨handler, hhandler⟩ := hhandlers site hsite hguardable
    obtain ⟨hcovers, key, hkey⟩ := hsound site hsite handler hguardable hhandler
    exact ⟨handler, key, hhandler, hcovers, hkey⟩
  · intro hmissing
    exact himport (by simpa [hinjected] using hmissing)

def scriptId : Text := "a.ts".toList

/-- A script with two calls, one of them with a spread key. -/
def scriptText : Text :=
  "#!node\nusePrerenderData('é', f, usePrerenderData(...a, g))".toList

/-- The script with the import and both handlers under the guard. -/
def guardedScriptText : Text :=
  ("#!node\nimport \x7b __neverReachable as __neverReachable_prerender \x7d from " ++
    "'#nuxt-prerender-kit/runtime';\nusePrerenderData('é', import.meta.prerender ? f : " ++
    "__neverReachable_prerender(), usePrerenderData(...a, import.meta.prerender ? g : " ++
    "__neverReachable_prerender()))").toList

set_option maxRecDepth 10000 in
theorem transform_scriptText : ∃ t output sites,
    ofTarget Target.standard .production = .ok t ∧
      t.transform scriptId scriptText = .ok (.transformed output) ∧
      t.scan scriptId scriptText = .ok sites ∧
      scriptText.weave (CallSite.insertionAt Target.standard scriptText sites) =
        guardedScriptText ∧
      (sites.filter CallSite.isGuardable).length = 2 := by
  have hrun : ((ofTarget Target.standard .production).toOption.bind fun t =>
      (t.transform scriptId scriptText).toOption.bind fun
        | .transformed output => some (output.code, output.guarded)
        | .unchanged _ => none) = some (guardedScriptText, 2) := by
    decide +kernel
  cases ht : ofTarget Target.standard .production with
  | error e => simp [ht, Except.toOption] at hrun
  | ok t =>
      cases hresult : t.transform scriptId scriptText with
      | error e => simp [ht, hresult, Except.toOption] at hrun
      | ok result =>
          cases result with
          | unchanged reason => simp [ht, hresult, Except.toOption] at hrun
          | transformed output =>
              obtain ⟨hcode, hguarded⟩ : output.code = guardedScriptText ∧ output.guarded = 2 := by
                simpa [ht, hresult, Except.toOption] using hrun
              obtain ⟨language, program, sites, edited, final, parts, -, -, hscan, -, -, -, -, -,
                hwoven, -, hcount, -⟩ :=
                transform_only_inserts Target.standard .production t _ _ output ht hresult
              exact ⟨t, output, sites, rfl, hresult, hscan, hwoven.symm.trans hcode,
                hcount.symm.trans hguarded⟩

end Transformer

end HandlerGuard
