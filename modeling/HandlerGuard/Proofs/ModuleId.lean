import HandlerGuard.ModuleId
import HandlerGuard.Proofs.Text.Splitting

namespace HandlerGuard

namespace Param

def written (p : Param) : Text :=
  match p.value with
  | none => p.key
  | some value => p.key ++ '=' :: value

/-- A parameter that is read as it is written: a separator stands nowhere but in front of the value,
and something is written at all. -/
structure Writable (p : Param) : Prop where
  key_plain : '&' ∉ p.key ∧ '=' ∉ p.key
  value_plain : ∀ value, p.value = some value → '&' ∉ value
  key_ne_nil : p.value = none → p.key ≠ []

variable {p : Param}

theorem Writable.written_plain (h : p.Writable) : '&' ∉ p.written := by
  unfold written
  split
  · exact h.key_plain.1
  · rename_i value hvalue
    simp [h.key_plain.1, h.value_plain value hvalue]

theorem Writable.written_ne_nil (h : p.Writable) : p.written ≠ [] := by
  unfold written
  split
  · exact h.key_ne_nil ‹_›
  · simp

theorem Writable.ofText_written (h : p.Writable) : ofText p.written = p := by
  obtain ⟨key, value⟩ := p
  have hkey : '=' ∉ key := h.key_plain.2
  cases value with
  | none => simp only [ofText, written, Text.splitFirst_of_not_mem hkey]
  | some value => simp only [ofText, written, Text.splitFirst_append hkey]

theorem writable_ofText {t : Text} (hplain : '&' ∉ t) (hne : t ≠ []) : (ofText t).Writable := by
  rcases Text.splitFirst_cases '=' t with ⟨hkey, hsplit⟩ | ⟨key, value, rfl, hkey, hsplit⟩
  · rw [ofText, hsplit]
    exact ⟨⟨hplain, hkey⟩, by simp, fun _ => hne⟩
  · rw [List.mem_append, List.mem_cons, not_or, not_or] at hplain
    rw [ofText, hsplit]
    refine ⟨⟨hplain.1, hkey⟩, ?_, by simp⟩
    rintro _ ⟨⟩
    exact hplain.2.2

end Param

namespace ModuleId

def written (path : Text) (params : List Param) : Text :=
  path ++ '?' :: Text.join ['&'] (params.map Param.written)

variable {path : Text} {params : List Param}

theorem parse_written (h : '?' ∉ path) :
    parse (written path params) =
      ⟨path.map fun c => if c = '\\' then '/' else c,
        some (Text.join ['&'] (params.map Param.written))⟩ := by
  simp only [parse, written, Text.splitFirst_append h]

theorem params_parse_written (hpath : '?' ∉ path) (hparams : ∀ p ∈ params, p.Writable) :
    (parse (written path params)).params = params := by
  rw [parse_written hpath, ModuleId.params]
  by_cases hempty : params = []
  · subst hempty
    rfl
  · have hplain : ∀ part ∈ params.map Param.written, '&' ∉ part := by
      simpa using fun p hp => (hparams p hp).written_plain
    have hne : ∀ part ∈ params.map Param.written, (!part.isEmpty) = true := by
      simpa using fun p hp => (hparams p hp).written_ne_nil
    simp only [Text.splitAll_join (by simpa using hempty) hplain, List.filter_eq_self.mpr hne,
      List.map_map]
    calc params.map (Param.ofText ∘ Param.written)
        = params.map id := List.map_congr_left fun p hp => (hparams p hp).ofText_written
      _ = params := List.map_id params

theorem writable_of_mem_params {id : ModuleId} {p : Param} (h : p ∈ id.params) : p.Writable := by
  unfold ModuleId.params at h
  split at h
  · exact absurd h List.not_mem_nil
  · obtain ⟨part, hpart, rfl⟩ := List.mem_map.mp h
    obtain ⟨hpart, hne⟩ := List.mem_filter.mp hpart
    exact Param.writable_ofText (Text.not_mem_of_mem_splitAll hpart) (by simpa using hne)

theorem path_parse_plain (id : Text) : '?' ∉ (parse id).path ∧ '\\' ∉ (parse id).path := by
  have hpath : '?' ∉ (id.splitFirst '?').1 := by
    rcases Text.splitFirst_cases '?' id with ⟨hid, hsplit⟩ | ⟨before, after, -, hbefore, hsplit⟩ <;>
      rw [hsplit] <;> assumption
  simp only [parse, List.mem_map, not_exists, not_and]
  constructor
  · intro c hc
    split
    · decide
    · exact fun h => hpath (h ▸ hc)
  · intro c _
    split
    · decide
    · assumption

theorem parse_rewritten (id : Text) :
    (parse (written (parse id).path (parse id).params)).path = (parse id).path ∧
      (parse (written (parse id).path (parse id).params)).params = (parse id).params := by
  obtain ⟨hquestion, hslash⟩ := path_parse_plain id
  have hself : ∀ c ∈ (parse id).path, (if c = '\\' then '/' else c) = c := by
    intro c hc
    rw [if_neg]
    rintro rfl
    exact hslash hc
  refine ⟨?_, params_parse_written hquestion fun p => writable_of_mem_params⟩
  calc (parse (written (parse id).path (parse id).params)).path
      = (parse id).path.map fun c => if c = '\\' then '/' else c := by
          simp only [parse_written hquestion]
    _ = (parse id).path.map fun c => c := List.map_congr_left hself
    _ = (parse id).path := List.map_id' _

/-- A path without a question mark and parameters that can be written are read back from their id, the
backslashes of the path as slashes. Any id can be written anew from its path and its parameters; then
path, parameters, the choice of a script block and the language are what they were. -/
theorem ids_read_as_written :
    (∀ (path : Text) (params : List Param), '?' ∉ path → (∀ p ∈ params, p.Writable) →
        (parse (written path params)).path = path.map (fun c => if c = '\\' then '/' else c) ∧
          (parse (written path params)).params = params) ∧
      ∀ id : Text,
        let again := parse (written (parse id).path (parse id).params)
        again.path = (parse id).path ∧ again.params = (parse id).params ∧
          again.isScriptBlock = (parse id).isScriptBlock ∧
          again.queryLanguage? = (parse id).queryLanguage? := by
  constructor
  · intro path params hpath hparams
    exact ⟨by rw [parse_written hpath], params_parse_written hpath hparams⟩
  · intro id again
    obtain ⟨hpath, hparams⟩ := parse_rewritten id
    refine ⟨hpath, hparams, ?_, ?_⟩
    · rw [isScriptBlock, hparams]
      rfl
    · rw [queryLanguage?, hparams]
      rfl

/-- Empty keys, empty values and values with separators of other levels. -/
def oddParams : List Param :=
  [⟨"vue".toList, none⟩, ⟨"type".toList, some "script".toList⟩, ⟨[], some "a=b?c".toList⟩,
    ⟨"lang.ts".toList, none⟩, ⟨"k".toList, some []⟩]

theorem oddParams_read :
    ('?' ∉ "C:\\app\\App.vue".toList ∧ ∀ p ∈ oddParams, p.Writable) ∧
      written "C:\\app\\App.vue".toList oddParams =
        "C:\\app\\App.vue?vue&type=script&=a=b?c&lang.ts&k=".toList ∧
      (parse (written "C:\\app\\App.vue".toList oddParams)).path = "C:/app/App.vue".toList ∧
      (parse (written "C:\\app\\App.vue".toList oddParams)).params = oddParams := by
  have hpath : '?' ∉ "C:\\app\\App.vue".toList := by decide
  have hparams : ∀ p ∈ oddParams, p.Writable := by
    simp only [oddParams, List.forall_mem_cons]
    refine ⟨⟨by decide, by simp, by simp⟩, ⟨by decide, ?_, by simp⟩, ⟨by decide, ?_, by simp⟩,
      ⟨by decide, by simp, by simp⟩, ⟨by decide, by simp, by simp⟩, by simp⟩
    · rintro _ ⟨⟩
      decide
    · rintro _ ⟨⟩
      decide
  obtain ⟨hread, hlist⟩ := ids_read_as_written.1 _ oddParams hpath hparams
  exact ⟨⟨hpath, hparams⟩, by decide, hread.trans (by decide), hlist⟩

end ModuleId

end HandlerGuard
