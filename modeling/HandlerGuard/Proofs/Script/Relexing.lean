import HandlerGuard.Proofs.Script.Keeping

namespace HandlerGuard.Script

namespace Parser

variable {source : Text} {lo k : Nat}

theorem keepsFrom_replaceToken {s : State} {found : Lexeme} (hlo : lo ≤ s.token.start)
    (h : ∀ written, s.token.kind.Writes written s.token.text →
      s.token.stop = s.token.start + written.byteLength →
        found.ReadFrom (written ++ s.rest) s.token.start) :
    KeepsFrom source s lo (replaceToken found) :=
  keepsFrom_of_start hlo fun hs hfound => by
    obtain ⟨before, written, hsource, hstart, hstop, hwrites⟩ := hs
    obtain ⟨written', hcut, hoffset, hwrites'⟩ := h written hwrites (by rw [← hstart, ← hstop])
    obtain rfl := by simpa [replaceToken, modify] using hfound
    refine ⟨⟨before, written', ?_, hstart, ?_, hwrites'⟩, rfl, rfl⟩
    · rw [hsource, hcut]
    · rw [hstart, ← hoffset]

variable [AtMost lo k]

instance keeps_joinAngle : Keeps source lo k joinAngle := by
  refine keeps_state_bind_of fun s hk => ?_
  split
  · rename_i hangle
    split
    · rename_i tail htail
      have hfront : tail <+: s.rest := by simpa using List.find?_some htail
      obtain ⟨hlen, hplain⟩ := plain_of_mem (by decide) (List.mem_of_find?_eq_some htail)
      refine keepsFrom_replaceToken (AtMost.out.trans hk) fun written hwrites hstop => ?_
      refine ⟨written ++ tail, ?_, ?_, ?_, fun hhead => absurd rfl hhead⟩
      · rw [List.append_assoc, List.prefix_iff_eq_append.mp hfront]
      · rw [hstop, Text.byteLength_append, hlen, Nat.add_assoc]
      · exact (Token.spells_of_is hangle hwrites).append (.of_plain hplain)
    · exact Keeps.keepsFrom s hk
  · exact Keeps.keepsFrom s hk

instance keeps_splitAngle : Keeps source lo k splitAngle := by
  refine keeps_state_bind_of fun s hk => ?_
  split
  · rename_i second tail htext
    split
    · rename_i hkind
      refine keepsFrom_replaceToken (AtMost.out.trans hk) fun written hwrites _ => ?_
      rw [hkind, htext] at hwrites
      obtain rfl := hwrites.2 (by simp)
      exact ⟨['<'], rfl, rfl, .of_plain (by simp), fun _ => rfl⟩
    · exact Keeps.keepsFrom s hk
  · exact Keeps.keepsFrom s hk

theorem readFrom_of_otherFrom {l : Lexeme} {written rest : Text} {start stop : Nat}
    (hstop : stop = start + written.byteLength) (h : l.OtherFrom rest stop) :
    l.ReadFrom (written ++ rest) start :=
  Lexeme.OtherFrom.readFrom (.of_reaches ⟨written, rfl, hstop⟩ h)

instance keeps_continueTemplate : Keeps source lo k continueTemplate := by
  refine keeps_state_bind_of fun s hk => ?_
  split
  · refine keepsFrom_replaceToken (AtMost.out.trans hk) fun written _ hstop => ?_
    exact readFrom_of_otherFrom hstop (otherFrom_readTemplateOn _ _)
  · exact Keeps.keepsFrom s hk

instance keeps_extendMarkupName : Keeps source lo k extendMarkupName := by
  refine keeps_state_bind_of fun s hk => ?_
  split
  · rename_i hword
    have hkind : s.token.kind = .word := by
      simpa [Token.isWord] using (Bool.and_eq_true_iff.mp hword).1
    refine keepsFrom_replaceToken (AtMost.out.trans hk) fun written hwrites hstop => ?_
    rw [hkind] at hwrites
    refine ⟨written ++ s.rest.takeWhile isMarkupNamePart, ?_, ?_, ?_⟩
    · rw [List.append_assoc, List.prefix_iff_eq_append.mp (List.takeWhile_prefix _)]
    · rw [hstop, Text.byteLength_append, Nat.add_assoc]
    · refine Spells.append hwrites (.of_plain fun c hc => ?_)
      rintro rfl
      simpa [isMarkupNamePart, isNamePart] using List.mem_takeWhile_imp hc
  · exact Keeps.keepsFrom s hk

theorem keepsFrom_startRegex {s : State} (hlo : lo ≤ s.token.start)
    (hkind : s.token.kind = .punctuator) (hslash : s.token.isOneOf ["/", "/="] = true) :
    KeepsFrom source s lo startRegex := by
  refine keepsFrom_replaceToken hlo fun written hwrites _ => ?_
  have htext : s.token.text = ['/'] ∨ s.token.text = ['/', '='] := by
    simpa [Token.isOneOf, Token.is, hkind] using hslash
  rw [hkind] at hwrites
  rcases htext with htext | htext
  · rw [htext] at hwrites
    obtain rfl := hwrites.2 (by simp)
    have hno : s.token.is "/=" = false := by simp [Token.is, htext]
    simp only [hno, Bool.false_eq_true, if_false]
    exact (otherFrom_regexChars false false (s.token.start + 1) s.rest).cons.readFrom
  · rw [htext] at hwrites
    obtain rfl := hwrites.2 (by simp)
    have hyes : s.token.is "/=" = true := by simp [Token.is, htext, hkind]
    simp only [hyes, if_true]
    exact (otherFrom_regexChars false false (s.token.start + 1) ('=' :: s.rest)).cons.readFrom

theorem keepsFrom_moveTo {s : State} {next : Lexed} (hlo : lo ≤ s.token.start)
    (hnext : s.token.stop ≤ next.token.start)
    (h : ∀ before, source = before ++ s.rest → before.byteLength = s.token.stop →
      next.token.Stands source next.rest) : KeepsFrom source s lo (moveTo next) :=
  keepsFrom_of_moves hlo fun hs hfound => by
    obtain ⟨before, written, hsource, -, hstop, -⟩ := hs
    obtain rfl := by simpa [moveTo] using hfound
    refine ⟨h (before ++ written) ?_ ?_, rfl, hnext⟩
    · rw [hsource, List.append_assoc]
    · rw [Text.byteLength_append, hstop]

theorem start_readMarkupChild (offset : Nat) (t : Text) :
    (readMarkupChild offset t).token.start = offset := by
  unfold readMarkupChild
  dsimp only
  split
  · rfl
  · split <;> rfl

theorem stands_readMarkupChild {t before : Text} (hsource : source = before ++ t) :
    (readMarkupChild before.byteLength t).token.Stands source
      (readMarkupChild before.byteLength t).rest := by
  unfold readMarkupChild
  dsimp only
  split
  · exact ⟨before, [], hsource, rfl, rfl, trivial⟩
  · rename_i c rest
    split_ifs with hopen
    · have hc : c.utf8Size = 1 ∧ c ≠ '\\' := by
        rcases (by simpa using hopen : c = '<' ∨ c = '\x7b') with rfl | rfl <;> exact ⟨rfl, by simp⟩
      refine ⟨before, [c], hsource, rfl, ?_, .of_plain (by simpa using hc.2), fun _ => rfl⟩
      rw [Text.byteLength_cons, Text.byteLength_nil, hc.1]
    · exact ⟨before, _, by rw [List.prefix_iff_eq_append.mp (List.takeWhile_prefix _), hsource], rfl,
        rfl, trivial⟩

instance keeps_advanceMarkup : Keeps source lo k advanceMarkup :=
  ⟨fun _ hk => keepsFrom_moveTo (AtMost.out.trans hk) (start_readMarkupChild _ _).ge
    fun _ hsource hbefore => hbefore ▸ stands_readMarkupChild hsource⟩

instance keeps_expectBeforeMarkup (text : String) (child : Bool) :
    Keeps source lo k (expectBeforeMarkup text child) := by
  unfold expectBeforeMarkup
  infer_instance

theorem otherFrom_readMarkupString {quote : Char} (hquote : quote.utf8Size = 1) (offset : Nat)
    (t : Text) : (readMarkupString quote offset t).OtherFrom t offset := by
  have hreach := Reaches.of_front (List.takeWhile_prefix (· != quote) : _ <+: t) offset
  unfold readMarkupString
  dsimp only
  split
  · rename_i c rest hrest
    rw [hrest] at hreach
    have hdrop : (t.takeWhile (· != quote) ++ t.dropWhile (· != quote)).drop
        (t.takeWhile (· != quote)).length = t.dropWhile (· != quote) := List.drop_left
    rw [List.takeWhile_append_dropWhile, hrest] at hdrop
    obtain rfl : c = quote := by
      have hhead := List.head?_dropWhile_not (· != quote) t
      rw [← hdrop] at hhead
      simpa using hhead
    exact ⟨hreach.trans (Reaches.cons_one hquote (.refl _ _)), rfl⟩
  · rename_i hrest
    rw [hrest] at hreach
    exact ⟨hreach, rfl⟩

instance keeps_advanceToAttribute : Keeps source lo k advanceToAttribute := by
  refine keeps_state_bind_of fun s hk => ?_
  dsimp only
  split
  · rename_i c rest hrest
    split
    · rename_i hquote
      have hc : c.utf8Size = 1 := utf8Size_of_or rfl rfl hquote
      obtain ⟨gap, hgap, hgapOffset⟩ := reaches_skipGap .between false s.token.stop s.rest
      refine keepsFrom_moveTo (AtMost.out.trans hk) ((Nat.le_add_right _ _).trans hgapOffset.ge)
        fun before hsource hbefore => ?_
      rw [hrest] at hgap
      obtain ⟨⟨written, hwritten, hoffset⟩, hkind⟩ := otherFrom_readMarkupString hc
        ((skipGap .between false s.token.stop s.rest).offset + 1) rest
      refine ⟨before ++ gap, c :: written, ?_, ?_, ?_, TokenKind.writes_of_isOther hkind _ _⟩
      · rw [hsource, List.append_assoc]
        exact congrArg (before ++ ·) (hgap.trans (congrArg (gap ++ c :: ·) hwritten))
      · rw [Text.byteLength_append, hbefore, ← hgapOffset]
      · rw [Text.byteLength_append, hbefore, ← hgapOffset, Text.byteLength_cons, hc, hoffset,
          Nat.add_assoc]
    · exact Keeps.keepsFrom s hk
  · exact Keeps.keepsFrom s hk

end Parser

end HandlerGuard.Script
