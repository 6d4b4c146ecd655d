import HandlerGuard.Command.Log

namespace HandlerGuard

theorem exists_of_mem_elim {α β : Type} {o : Option α} {f : α → List β} {b : β}
    (h : b ∈ o.elim [] f) : ∃ a, o = some a ∧ b ∈ f a := by
  cases o with
  | none => exact absurd h List.not_mem_nil
  | some a => exact ⟨a, rfl, h⟩

namespace LogFilter

variable {f : LogFilter} {m : LogMessage} {level : LogLevel}

theorem general_uniform (level : LogLevel) :
    (uniform level).general =
      [{ target := some "prerender_transform".toList, level },
        { target := some "prerender_cli".toList, level }] := by
  cases level <;> decide

theorem shows_of_forall_level (hlevel : ∀ rule ∈ f.general, rule.level = level)
    (hconcerned : ∃ rule ∈ f.general, rule.concerns m = true) :
    f.shows m = true ↔ m.level.rank ≤ level.rank := by
  obtain ⟨first, hfirst⟩ := Option.isSome_iff_exists.mp (List.find?_isSome.mpr hconcerned)
  have hmem := List.mem_of_find?_eq_some hfirst
  rw [shows, hfirst, Option.any_some, decide_eq_true_eq, hlevel first hmem]

theorem reaches_of_shows (h : f.shows m = true) (hlevel : level.rank ≤ m.level.rank) :
    f.reaches level = true := by
  obtain ⟨rule, hrule, hallowed⟩ := (Option.any_eq_true _ _).mp h
  refine List.any_eq_true.mpr ⟨rule, List.mem_of_find?_eq_some hrule, ?_⟩
  exact decide_eq_true (Nat.le_trans hlevel (of_decide_eq_true hallowed))

end LogFilter

namespace LogMessage

/-- A message from this program that is shown only where details are asked for. -/
structure IsDetail (m : LogMessage) : Prop where
  component : "prerender_transform".toList.isPrefixOf m.component = true ∨
    "prerender_cli".toList.isPrefixOf m.component = true
  level : m.level = .debug ∨ m.level = .trace

theorem isDetail_ofTransform (text : Text) : (ofTransform text).IsDetail :=
  ⟨Or.inl rfl, Or.inl rfl⟩

theorem isDetail_ofHandler (callee : Text) (handler : Span) : (ofHandler callee handler).IsDetail :=
  ⟨Or.inl rfl, Or.inr rfl⟩

theorem isDetail_ofCommand (text : Text) : (ofCommand text).IsDetail :=
  ⟨Or.inr rfl, Or.inl rfl⟩

variable {m : LogMessage}

theorem IsDetail.shows_uniform_iff (h : m.IsDetail) (level : LogLevel) :
    (LogFilter.uniform level).shows m = true ↔ m.level.rank ≤ level.rank := by
  apply LogFilter.shows_of_forall_level
  · simp [LogFilter.general_uniform]
  · simpa [LogFilter.general_uniform, LogRule.concerns] using h.component

theorem IsDetail.rank_debug_le (h : m.IsDetail) : LogLevel.rank .debug ≤ m.level.rank := by
  have hle : LogLevel.rank .debug ≤ LogLevel.rank .trace := by decide
  rcases h.level with h | h
  · exact Nat.le_of_eq (by rw [h])
  · exact h ▸ hle

theorem IsDetail.shows_debug_iff (h : m.IsDetail) :
    (LogFilter.uniform .debug).shows m = true ↔ m.level = .debug := by
  rw [h.shows_uniform_iff]
  rcases h.level with h | h <;> rw [h]
  · simp
  · decide

theorem IsDetail.not_shows (h : m.IsDetail) {level : LogLevel}
    (hlevel : level.rank < LogLevel.rank .debug) : (LogFilter.uniform level).shows m = false := by
  refine Bool.eq_false_iff.mpr fun hshown => ?_
  have hallowed := (h.shows_uniform_iff level).mp hshown
  have hrank := h.rank_debug_le
  omega

end LogMessage

namespace Transformer

variable {m : LogMessage}

theorem isDetail_of_mem_skipLog {id : Text} {reason : SkipReason} (h : m ∈ skipLog id reason) :
    m.IsDetail := by
  unfold skipLog at h
  split at h
  any_goals exact absurd h List.not_mem_nil
  all_goals
    obtain rfl := List.mem_singleton.mp h
    exact LogMessage.isDetail_ofTransform _

theorem isDetail_of_mem_guardLog {sites : List CallSite} (h : m ∈ guardLog sites) :
    m.IsDetail := by
  obtain ⟨site, -, hsite⟩ := List.mem_filterMap.mp h
  obtain ⟨handler, -, rfl⟩ := Option.map_eq_some_iff.mp hsite
  exact LogMessage.isDetail_ofHandler site.callee handler

theorem isDetail_of_mem_log {t : Transformer} {id code : Text}
    {result : Except EditError TransformResult} (h : m ∈ t.log id code result) : m.IsDetail := by
  unfold log at h
  dsimp only at h
  split at h
  · obtain rfl := List.mem_singleton.mp h
    exact LogMessage.isDetail_ofTransform _
  · exact isDetail_of_mem_skipLog h
  · rcases List.mem_append.mp h with h | h
    · exact isDetail_of_mem_guardLog h
    · obtain rfl := List.mem_singleton.mp h
      exact LogMessage.isDetail_ofTransform _
  · exact isDetail_of_mem_guardLog h

end Transformer

namespace Command

variable {m : LogMessage} {p : Progress} {transformer : Transformer}

theorem isDetail_of_mem_deliveryLog {options : TransformOptions} {result : TransformResult}
    (h : m ∈ deliveryLog options p result) : m.IsDetail := by
  unfold deliveryLog at h
  split at h
  · exact absurd h List.not_mem_nil
  · split at h
    · obtain ⟨path, -, rfl⟩ := List.mem_map.mp h
      exact LogMessage.isDetail_ofCommand _
    · exact absurd h List.not_mem_nil

theorem isDetail_of_mem_transformLog {options : TransformOptions}
    (h : m ∈ transformLog options transformer p) : m.IsDetail := by
  unfold transformLog at h
  split at h
  · exact absurd h List.not_mem_nil
  · rcases List.mem_append.mp h with h | h
    · rcases List.mem_append.mp h with h | h
      · obtain rfl := List.mem_singleton.mp h
        exact LogMessage.isDetail_ofCommand _
      · exact Transformer.isDetail_of_mem_log h
    · obtain ⟨result, -, h⟩ := exists_of_mem_elim h
      exact isDetail_of_mem_deliveryLog h

theorem isDetail_of_mem_scanLog {id : Option Text} {files : List Text}
    (h : m ∈ scanLog transformer id p files) : m.IsDetail := by
  induction files with
  | nil => exact absurd h List.not_mem_nil
  | cons file files ih =>
      rw [scanLog] at h
      split at h
      · exact absurd h List.not_mem_nil
      · split at h
        · rcases List.mem_append.mp h with h | h
          · exact Transformer.isDetail_of_mem_skipLog h
          · exact ih h
        · split at h
          · exact ih h
          · exact absurd h List.not_mem_nil

end Command

namespace Invocation

variable {environment : Environment} {p : Progress} {m : LogMessage}

theorem isDetail_of_mem_log {invocation : Invocation} (h : m ∈ invocation.log environment p) :
    m.IsDetail := by
  unfold log at h
  dsimp only at h
  split at h
  · obtain ⟨transformer, -, h⟩ := exists_of_mem_elim h
    exact Command.isDetail_of_mem_transformLog h
  · split at h
    · exact absurd h List.not_mem_nil
    · obtain ⟨transformer, -, h⟩ := exists_of_mem_elim h
      exact Command.isDetail_of_mem_scanLog h
  · exact absurd h List.not_mem_nil

/-- What is shown of the log of a command. With the flag for more these are the messages of the debug
level. With the flag for less, or without flags and without a filter in the environment, there are none.
A filter that does not reach the debug level shows none either, so the log need not be made for it. -/
theorem shown_log (invocation : Invocation) (environment : Environment) (p : Progress) :
    (∀ quiet : Bool,
        (invocation.log environment p).filter (LogFilter.ofFlags true quiet environment).shows =
          (invocation.log environment p).filter (·.level = .debug)) ∧
      (invocation.log environment p).filter (LogFilter.ofFlags false true environment).shows = [] ∧
      (environment.lookup LogFilter.variableName = none →
        (invocation.log environment p).filter (LogFilter.ofFlags false false environment).shows =
          []) ∧
      ∀ f : LogFilter, f.reaches .debug = false →
        (invocation.log environment p).filter f.shows = [] := by
  have hnone : ∀ f : LogFilter, (∀ m, m.IsDetail → f.shows m = false) →
      (invocation.log environment p).filter f.shows = [] := by
    intro f hf
    refine List.filter_eq_nil_iff.mpr fun m hm => ?_
    simp [hf m (isDetail_of_mem_log hm)]
  refine ⟨?_, ?_, ?_, ?_⟩
  · intro quiet
    refine List.filter_congr fun m hm => Bool.eq_iff_iff.mpr ?_
    rw [decide_eq_true_eq]
    exact (isDetail_of_mem_log hm).shows_debug_iff
  · exact hnone _ fun m hm => hm.not_shows (by decide)
  · intro hunset
    have hflags : LogFilter.ofFlags false false environment = LogFilter.uniform .info := by
      simp [LogFilter.ofFlags, hunset]
    rw [hflags]
    exact hnone _ fun m hm => hm.not_shows (by decide)
  · intro f hf
    refine hnone f fun m hm => Bool.eq_false_iff.mpr fun hshown => ?_
    exact Bool.false_ne_true (hf.symm.trans (LogFilter.reaches_of_shows hshown hm.rank_debug_le))

end Invocation

end HandlerGuard
