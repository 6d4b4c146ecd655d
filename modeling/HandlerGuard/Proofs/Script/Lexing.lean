import Mathlib.Data.List.Infix
import Mathlib.Data.List.TakeWhile
import HandlerGuard.Proofs.Text.Slice
import HandlerGuard.Script.Grammar.Relexing

namespace HandlerGuard.Script

def escapeMark : Text := ['\\', 'u']

/-- How a name can be written: each of its characters stands for itself or is written as an escape. -/
inductive Spells : Text → Text → Prop where
  | nil : Spells [] []
  | plain {c : Char} {written name : Text} (hc : c ≠ '\\') (h : Spells written name) :
      Spells (c :: written) (c :: name)
  | escape {digits written name : Text} {code : Nat} {c : Char}
      (hcode : unicodeEscape? digits = some (code, [])) (hc : charOfCode? code = some c)
      (h : Spells written name) : Spells ('\\' :: 'u' :: (digits ++ written)) (c :: name)

namespace Spells

theorem append {a b m n : Text} (hleft : Spells a m) (hright : Spells b n) :
    Spells (a ++ b) (m ++ n) := by
  induction hleft with
  | nil => exact hright
  | plain hc _ ih => exact plain hc ih
  | escape hcode hc _ ih =>
      simp only [List.cons_append, List.append_assoc]
      exact escape hcode hc ih

theorem of_plain {name : Text} (h : ∀ c ∈ name, c ≠ '\\') : Spells name name := by
  induction name with
  | nil => exact nil
  | cons c name ih =>
      exact plain (h c (by simp)) (ih fun x hx => h x (List.mem_cons_of_mem _ hx))

theorem eq_of_no_escape {written name : Text} (h : Spells written name)
    (hno : ¬escapeMark <:+: written) : written = name := by
  induction h with
  | nil => rfl
  | plain _ _ ih => rw [ih fun hin => hno (hin.trans (List.suffix_cons _ _).isInfix)]
  | escape _ _ _ _ => exact absurd (List.prefix_append escapeMark _).isInfix hno

end Spells

/-- From the front of a text at an offset, reading arrives at what is left of it at another. -/
def Reaches (t : Text) (offset : Nat) (rest : Text) (next : Nat) : Prop :=
  ∃ written, t = written ++ rest ∧ next = offset + written.byteLength

namespace Reaches

variable {t rest others : Text} {c : Char} {offset next last : Nat}

theorem refl (t : Text) (offset : Nat) : Reaches t offset t offset := ⟨[], rfl, rfl⟩

theorem trans (h : Reaches t offset rest next) (h' : Reaches rest next others last) :
    Reaches t offset others last := by
  obtain ⟨a, rfl, rfl⟩ := h
  obtain ⟨b, rfl, rfl⟩ := h'
  exact ⟨a ++ b, by simp, by simp [Nat.add_assoc]⟩

theorem cons (h : Reaches t (offset + c.utf8Size) rest next) :
    Reaches (c :: t) offset rest next := by
  obtain ⟨a, rfl, rfl⟩ := h
  exact ⟨c :: a, rfl, by simp [Nat.add_assoc]⟩

theorem cons_one (hc : c.utf8Size = 1) (h : Reaches t (offset + 1) rest next) :
    Reaches (c :: t) offset rest next :=
  cons (by rwa [hc])

theorem of_front {written : Text} (h : written <+: t) (offset : Nat) :
    Reaches t offset (t.drop written.length) (offset + written.byteLength) :=
  ⟨written, (List.prefix_iff_eq_append.mp h).symm, rfl⟩

end Reaches

/-- A piece of text that a token of the given kind with the given text can be read from. A punctuator is
that piece itself, except that an operator that begins with `>` may be joined from a `>` that is a
malformed word. -/
def TokenKind.Writes : TokenKind → Text → Text → Prop
  | .word, written, text => Spells written text
  | .punctuator, written, text => Spells written text ∧ (text.head? ≠ some '>' → written = text)
  | _, _, _ => True

def TokenKind.isOther (kind : TokenKind) : Bool := kind != .word && kind != .punctuator

theorem TokenKind.writes_of_isOther {kind : TokenKind} (h : kind.isOther = true)
    (written text : Text) : kind.Writes written text := by
  cases kind <;> trivial

theorem TokenKind.Writes.spells {kind : TokenKind} {written text : Text}
    (h : kind.Writes written text) (hkind : kind = .word ∨ kind = .punctuator) :
    Spells written text := by
  rcases hkind with rfl | rfl
  · exact h
  · exact h.1

/-- The lexeme was read from the front of the text at the offset. -/
def Lexeme.ReadFrom (l : Lexeme) (t : Text) (offset : Nat) : Prop :=
  ∃ written, t = written ++ l.rest ∧ l.offset = offset + written.byteLength ∧
    l.kind.Writes written l.text

/-- The lexeme is neither a word nor a punctuator, and was read from the front of the text at the
offset. -/
def Lexeme.OtherFrom (l : Lexeme) (t : Text) (offset : Nat) : Prop :=
  Reaches t offset l.rest l.offset ∧ l.kind.isOther = true

namespace Lexeme.OtherFrom

variable {l : Lexeme} {t rest : Text} {c : Char} {offset next : Nat}

theorem cons (h : l.OtherFrom t (offset + c.utf8Size)) : l.OtherFrom (c :: t) offset :=
  ⟨h.1.cons, h.2⟩

theorem of_reaches (h : Reaches t offset rest next) (hl : l.OtherFrom rest next) :
    l.OtherFrom t offset :=
  ⟨h.trans hl.1, hl.2⟩

theorem readFrom (h : l.OtherFrom t offset) : l.ReadFrom t offset := by
  obtain ⟨⟨written, ht, hoffset⟩, hkind⟩ := h
  exact ⟨written, ht, hoffset, TokenKind.writes_of_isOther hkind written l.text⟩

end Lexeme.OtherFrom

/-! ### Gaps and numbers -/

theorem reaches_skipGap (mode : GapMode) (newline : Bool) (offset : Nat) (t : Text) :
    Reaches t offset (skipGap mode newline offset t).rest (skipGap mode newline offset t).offset := by
  fun_induction skipGap mode newline offset t with
  | case1 newline offset rest ih => exact ih.cons.cons
  | case2 newline offset rest ih => exact ih.cons.cons
  | case3 newline offset c rest _ _ _ ih => exact ih.cons
  | case4 newline offset c rest _ _ _ _ ih => exact ih.cons
  | case5 newline offset c rest => exact .refl _ _
  | case6 newline offset c rest _ ih => exact ih.cons
  | case7 newline offset c rest _ ih => exact ih.cons
  | case8 newline offset rest ih => exact ih.cons.cons
  | case9 newline offset c rest _ ih => exact ih.cons
  | case10 newline offset => exact .refl _ _
  | case11 mode newline offset => exact .refl _ _

theorem utf8Size_of_le {c : Char} (h : c ≤ '\x7f') : c.utf8Size = 1 := by
  have hval : c.val ≤ 0x7F := h
  simp [Char.utf8Size, hval]

theorem utf8Size_of_or {c x y : Char} (hx : x.utf8Size = 1) (hy : y.utf8Size = 1)
    (h : (c = x || c = y) = true) : c.utf8Size = 1 := by
  rcases (by simpa using h : c = x ∨ c = y) with rfl | rfl
  · exact hx
  · exact hy

theorem utf8Size_of_isDigit {c : Char} (h : c.isDigit = true) : c.utf8Size = 1 := by
  have hle : c ≤ '9' := by simpa [Char.isDigit, Char.le_def] using (Bool.and_eq_true_iff.mp h).2
  exact utf8Size_of_le (Char.le_trans hle (by decide))

theorem utf8Size_of_hexValue? {c : Char} {n : Nat} (h : hexValue? c = some n) :
    c.utf8Size = 1 := by
  simp only [hexValue?] at h
  split at h
  · rename_i hdigit
    exact utf8Size_of_isDigit hdigit
  · split at h
    · rename_i hlower
      exact utf8Size_of_le (Char.le_trans hlower.2 (by decide))
    · split at h
      · rename_i hupper
        exact utf8Size_of_le (Char.le_trans hupper.2 (by decide))
      · simp at h

theorem utf8Size_of_isHexDigit {c : Char} (h : isHexDigit c = true) : c.utf8Size = 1 := by
  obtain ⟨n, hn⟩ := Option.isSome_iff_exists.mp h
  exact utf8Size_of_hexValue? hn

theorem utf8Size_of_isOctalDigit {c : Char} (h : isOctalDigit c = true) : c.utf8Size = 1 := by
  simp only [isOctalDigit, Bool.and_eq_true, decide_eq_true_eq] at h
  exact utf8Size_of_le (Char.le_trans h.2 (by decide))

theorem utf8Size_of_isBinaryDigit {c : Char} (h : isBinaryDigit c = true) : c.utf8Size = 1 := by
  simp only [isBinaryDigit, Bool.or_eq_true, decide_eq_true_eq] at h
  rcases h with rfl | rfl <;> rfl

theorem utf8Size_of_isAlphanum {c : Char} (h : c.isAlphanum = true) : c.utf8Size = 1 := by
  rcases Bool.or_eq_true_iff.mp h with halpha | hdigit
  · rcases Bool.or_eq_true_iff.mp halpha with hupper | hlower
    · have hle : c ≤ 'Z' := (of_decide_eq_true hupper).2
      exact utf8Size_of_le (Char.le_trans hle (by decide))
    · have hle : c ≤ 'z' := of_decide_eq_true (Bool.and_eq_true_iff.mp hlower).2
      exact utf8Size_of_le (Char.le_trans hle (by decide))
  · exact utf8Size_of_isDigit hdigit

theorem byteLength_of_utf8Size {t : Text} (h : ∀ c ∈ t, c.utf8Size = 1) :
    t.byteLength = t.length := by
  induction t with
  | nil => rfl
  | cons c t ih =>
      rw [Text.byteLength_cons, h c (by simp), ih fun x hx => h x (List.mem_cons_of_mem _ hx),
        List.length_cons, Nat.add_comm]

namespace NumberEnd

/-- The end of a number, reached from the front of the text at the offset. -/
def ReadFrom (n : NumberEnd) (t : Text) (offset : Nat) : Prop := Reaches t offset n.rest n.offset

theorem ReadFrom.andThen {n : NumberEnd} {t : Text} {offset : Nat} (h : n.ReadFrom t offset)
    {next : Text → Nat → NumberEnd} (hnext : ∀ t offset, (next t offset).ReadFrom t offset) :
    (n.andThen next).ReadFrom t offset :=
  Reaches.trans h (hnext n.rest n.offset)

end NumberEnd

section

variable {digit : Char → Bool} (hdigit : ∀ c, digit c = true → c.utf8Size = 1)

include hdigit

theorem readFrom_digitsOn (t : Text) (offset : Nat) :
    (digitsOn digit t offset).ReadFrom t offset := by
  fun_induction digitsOn digit t offset with
  | case1 c rest offset hc ih => exact Reaches.cons (Reaches.cons_one (hdigit c hc) ih)
  | case2 c rest offset hc => exact (Reaches.refl _ _).cons
  | case3 offset => exact (Reaches.refl _ _).cons
  | case4 c rest offset _ _ hc ih => exact Reaches.cons_one (hdigit c hc) ih
  | case5 c rest offset => exact .refl _ _
  | case6 offset => exact .refl _ _

theorem readFrom_digits (t : Text) (offset : Nat) : (digits digit t offset).ReadFrom t offset := by
  cases t with
  | nil => exact .refl _ _
  | cons c rest =>
      rw [digits]
      split
      · rename_i hc
        exact Reaches.cons_one (hdigit c hc) (readFrom_digitsOn hdigit rest _)
      · exact .refl _ _

end

theorem readFrom_fractionDigits (t : Text) (offset : Nat) :
    (fractionDigits t offset).ReadFrom t offset := by
  cases t with
  | nil => exact .refl _ _
  | cons c rest =>
      rw [fractionDigits]
      split
      · rename_i hc
        exact Reaches.cons_one (utf8Size_of_isDigit hc)
          (readFrom_digitsOn (fun _ => utf8Size_of_isDigit) rest _)
      · exact .refl _ _

theorem readFrom_exponentDigits (t : Text) (offset : Nat) :
    (exponentDigits t offset).ReadFrom t offset := by
  have hdigits := readFrom_digits fun _ => utf8Size_of_isDigit
  unfold exponentDigits
  split
  · exact Reaches.cons (hdigits _ _)
  · exact Reaches.cons (hdigits _ _)
  · exact hdigits _ _

theorem readFrom_optionalExponent (t : Text) (offset : Nat) :
    (optionalExponent t offset).ReadFrom t offset := by
  unfold optionalExponent
  split
  · split
    · rename_i c rest hc
      exact Reaches.cons_one (utf8Size_of_or rfl rfl hc) (readFrom_exponentDigits rest _)
    · exact .refl _ _
  · exact .refl _ _

theorem readFrom_optionalBig (t : Text) (offset : Nat) :
    (optionalBig t offset).ReadFrom t offset := by
  unfold optionalBig
  split
  · exact (Reaches.refl _ _).cons
  · exact .refl _ _

theorem readFrom_fraction (t : Text) (offset : Nat) :
    ((fractionDigits t offset).andThen optionalExponent).ReadFrom t offset :=
  (readFrom_fractionDigits t offset).andThen readFrom_optionalExponent

theorem readFrom_decimalTail (t : Text) (offset : Nat) :
    (decimalTail t offset).ReadFrom t offset := by
  unfold decimalTail
  split
  · exact Reaches.cons (readFrom_fraction _ _)
  · exact (Reaches.refl _ _).cons
  · exact readFrom_optionalExponent _ _

theorem readFrom_leadingZeroTail (t : Text) (offset : Nat) :
    (leadingZeroTail t offset).ReadFrom t offset := by
  have hrun : Reaches t offset (t.drop (t.takeWhile Char.isDigit).length)
      (offset + (t.takeWhile Char.isDigit).length) := by
    have hbytes : Text.byteLength (t.takeWhile Char.isDigit) =
        (t.takeWhile Char.isDigit).length := by
      apply byteLength_of_utf8Size
      intro c hc
      exact utf8Size_of_isDigit (List.mem_takeWhile_imp hc)
    have hreach := Reaches.of_front (List.takeWhile_prefix Char.isDigit : _ <+: t) offset
    rwa [hbytes] at hreach
  unfold leadingZeroTail
  dsimp only
  split
  · exact hrun
  · split
    · rename_i rest hafter
      rw [hafter] at hrun
      exact hrun.trans (Reaches.cons (readFrom_fraction _ _))
    · rename_i rest hafter
      rw [hafter] at hrun
      exact hrun.trans (Reaches.cons (readFrom_exponentDigits _ _))
    · exact hrun

theorem readFrom_based {digit : Char → Bool} (hdigit : ∀ c, digit c = true → c.utf8Size = 1)
    {c lower upper : Char} (hlower : lower.utf8Size = 1) (hupper : upper.utf8Size = 1)
    (hc : (c = lower || c = upper) = true) (t : Text) (offset : Nat) :
    ((digits digit t (offset + 2)).andThen optionalBig).ReadFrom ('0' :: c :: t) offset := by
  have hrest := (readFrom_digits hdigit t (offset + 2)).andThen readFrom_optionalBig
  exact Reaches.cons (Reaches.cons_one (utf8Size_of_or hlower hupper hc) hrest)

theorem readFrom_numberEnd (t : Text) (offset : Nat) : (numberEnd t offset).ReadFrom t offset := by
  have hdecimal := readFrom_digits fun _ => utf8Size_of_isDigit
  unfold numberEnd
  split
  · exact Reaches.cons ((hdecimal _ _).andThen readFrom_optionalExponent)
  · split_ifs with hhex hoctal hbinary hdigit
    · exact readFrom_based (fun _ => utf8Size_of_isHexDigit) rfl rfl hhex _ _
    · exact readFrom_based (fun _ => utf8Size_of_isOctalDigit) rfl rfl hoctal _ _
    · exact readFrom_based (fun _ => utf8Size_of_isBinaryDigit) rfl rfl hbinary _ _
    · exact Reaches.cons (readFrom_leadingZeroTail _ _)
    · exact Reaches.cons (readFrom_decimalTail _ _)
  · exact (hdecimal _ _).andThen readFrom_decimalTail

theorem otherFrom_readNumber (offset : Nat) (t : Text) :
    (readNumber offset t).OtherFrom t offset := by
  have hend := readFrom_numberEnd t offset
  unfold readNumber
  dsimp only
  split
  · split
    · exact ⟨hend, rfl⟩
    · exact ⟨hend, rfl⟩
  · exact ⟨hend, rfl⟩

/-! ### Quoted texts -/

theorem otherFrom_stringChars (quote : Char) (mode : QuoteMode) (sound : Bool) (offset : Nat)
    (t : Text) : (stringChars quote mode sound offset t).OtherFrom t offset := by
  induction t generalizing mode sound offset with
  | nil => exact ⟨.refl _ _, rfl⟩
  | cons c rest ih =>
      have hmore (mode : QuoteMode) (sound : Bool) :
          (stringChars quote mode sound (offset + c.utf8Size) rest).OtherFrom (c :: rest) offset :=
        (ih mode sound (offset + c.utf8Size)).cons
      have hends (kind : TokenKind) (hkind : kind.isOther = true) (sound : Bool) :
          (⟨kind, [], rest, offset + c.utf8Size, sound, false⟩ : Lexeme).OtherFrom (c :: rest)
            offset :=
        ⟨(Reaches.refl _ _).cons, hkind⟩
      unfold stringChars
      dsimp only
      split
      · split_ifs
        · exact hends _ rfl _
        · exact hmore _ _
        · exact hends _ rfl _
        · exact hmore _ _
      · split_ifs
        · exact hends _ rfl _
        · exact hmore _ _
        · exact hends _ rfl _
        · exact hmore _ _
      · split_ifs
        · exact hends _ rfl _
        · exact hmore _ _

theorem otherFrom_readString (quote : Char) (offset : Nat) (t : Text) :
    (readString quote offset t).OtherFrom t offset := by
  have hchars := otherFrom_stringChars quote .plain true offset t
  unfold readString
  dsimp only
  split
  · exact hchars
  · exact hchars

theorem otherFrom_templateChars {whole head : TokenKind} (hwhole : whole.isOther = true)
    (hhead : head.isOther = true) (mode : QuoteMode) (malformed : Bool) (offset : Nat) (t : Text) :
    (templateChars whole head mode malformed offset t).OtherFrom t offset := by
  induction t generalizing mode malformed offset with
  | nil => exact ⟨.refl _ _, rfl⟩
  | cons c rest ih =>
      have hmore (mode : QuoteMode) (malformed : Bool) :
          (templateChars whole head mode malformed (offset + c.utf8Size) rest).OtherFrom
            (c :: rest) offset :=
        (ih mode malformed (offset + c.utf8Size)).cons
      have hends (kind : TokenKind) (hkind : kind.isOther = true) (malformed : Bool) :
          (⟨kind, [], rest, offset + c.utf8Size, true, malformed⟩ : Lexeme).OtherFrom (c :: rest)
            offset :=
        ⟨(Reaches.refl _ _).cons, hkind⟩
      have hplain (malformed : Bool) :
          (if c = '\x60' then ⟨whole, [], rest, offset + c.utf8Size, true, malformed⟩
            else if c = '\\' then
              templateChars whole head .escape malformed (offset + c.utf8Size) rest
            else if c = '$' then
              templateChars whole head .dollar malformed (offset + c.utf8Size) rest
            else templateChars whole head .plain malformed (offset + c.utf8Size) rest
              : Lexeme).OtherFrom (c :: rest) offset := by
        split_ifs
        · exact hends _ hwhole _
        · exact hmore _ _
        · exact hmore _ _
        · exact hmore _ _
      unfold templateChars
      dsimp only
      split
      · exact hplain _
      · split
        · exact hends _ hhead _
        · exact hplain _
      · exact hmore _ _
      · exact hplain _
      · exact hplain _
      · split
        · exact hmore _ _
        · exact hplain _

theorem otherFrom_readTemplate (offset : Nat) (t : Text) :
    (readTemplate offset t).OtherFrom t offset :=
  otherFrom_templateChars rfl rfl .plain false offset t

theorem otherFrom_readTemplateOn (offset : Nat) (t : Text) :
    (readTemplateOn offset t).OtherFrom t offset :=
  otherFrom_templateChars rfl rfl .plain false offset t

theorem otherFrom_regexFlags (seen t : Text) (offset : Nat) :
    (regexFlags seen t offset).OtherFrom t offset := by
  induction t generalizing seen offset with
  | nil => exact ⟨.refl _ _, rfl⟩
  | cons c rest ih =>
      unfold regexFlags
      dsimp only
      split_ifs with hc
      · have hsize : c.utf8Size = 1 := by
          simp only [Bool.or_eq_true, decide_eq_true_eq] at hc
          rcases hc with (hc | rfl) | rfl
          · exact utf8Size_of_isAlphanum hc
          · rfl
          · rfl
        have htail := ih (c :: seen) (offset + 1)
        exact ⟨Reaches.cons_one hsize htail.1, htail.2⟩
      · exact ⟨.refl _ _, rfl⟩

theorem otherFrom_regexChars (inClass escaped : Bool) (offset : Nat) (t : Text) :
    (regexChars inClass escaped offset t).OtherFrom t offset := by
  induction t generalizing inClass escaped offset with
  | nil => exact ⟨.refl _ _, rfl⟩
  | cons c rest ih =>
      have hmore (inClass escaped : Bool) :
          (regexChars inClass escaped (offset + c.utf8Size) rest).OtherFrom (c :: rest) offset :=
        (ih inClass escaped (offset + c.utf8Size)).cons
      unfold regexChars
      dsimp only
      split_ifs
      · exact ⟨(Reaches.refl _ _).cons, rfl⟩
      · exact hmore _ _
      · exact (otherFrom_regexFlags [] rest _).cons
      · exact hmore _ _
      · exact hmore _ _
      · exact hmore _ _
      · exact hmore _ _

/-! ### Names -/

theorem ne_backslash_of_isNamePart {c : Char} (h : isNamePart c = true) : c ≠ '\\' := by
  rintro rfl
  simp [isNamePart] at h

theorem ne_backslash_of_isNameStart {c : Char} (h : isNameStart c = true) : c ≠ '\\' := by
  rintro rfl
  simp [isNameStart] at h

theorem exists_bracedHex {value code : Nat} {any : Bool} {t others : Text}
    (h : bracedHex value any t = some (code, others)) :
    ∃ digits, t = digits ++ others ∧ bracedHex value any digits = some (code, []) ∧
      digits.byteLength = digits.length := by
  induction t generalizing value any with
  | nil => simp [bracedHex] at h
  | cons c rest ih =>
      simp only [bracedHex] at h
      split at h
      · rename_i hclose
        subst hclose
        split at h
        · rename_i hany
          obtain ⟨rfl, rfl⟩ := by simpa using h
          exact ⟨['\x7d'], rfl, by simp [bracedHex, hany], rfl⟩
        · simp at h
      · rename_i hclose
        split at h
        · rename_i digit hdigit
          obtain ⟨digits, rfl, hdigits, hlen⟩ := ih h
          refine ⟨c :: digits, rfl, by simp [bracedHex, hclose, hdigit, hdigits], ?_⟩
          rw [Text.byteLength_cons, utf8Size_of_hexValue? hdigit, hlen, List.length_cons,
            Nat.add_comm]
        · simp at h

theorem exists_unicodeEscape {t others : Text} {code : Nat}
    (h : unicodeEscape? t = some (code, others)) :
    ∃ digits, t = digits ++ others ∧ unicodeEscape? digits = some (code, []) ∧
      digits.byteLength = digits.length := by
  unfold unicodeEscape? at h
  split at h
  · obtain ⟨digits, rfl, hdigits, hlen⟩ := exists_bracedHex h
    refine ⟨'\x7b' :: digits, rfl, by simpa [unicodeEscape?] using hdigits, ?_⟩
    rw [Text.byteLength_cons, hlen, List.length_cons, Nat.add_comm]
    rfl
  · rename_i a b c d rest _
    simp only [Option.bind_eq_bind, Option.bind_eq_some_iff, Option.some.injEq,
      Prod.mk.injEq] at h
    obtain ⟨m, hm, n, hn, k, hk, l, hl, rfl, rfl⟩ := h
    refine ⟨[a, b, c, d], rfl, ?_, ?_⟩
    · simp [unicodeEscape?, hm, hn, hk, hl]
    · simp [utf8Size_of_hexValue? hm, utf8Size_of_hexValue? hn, utf8Size_of_hexValue? hk,
        utf8Size_of_hexValue? hl]
  · simp at h

/-- The lexeme is a name that was read from the front of the text at the offset, or a malformed one. -/
def Lexeme.NameFrom (l : Lexeme) (t : Text) (offset : Nat) : Prop :=
  ∃ written, t = written ++ l.rest ∧ l.offset = offset + written.byteLength ∧
    (l.kind = .word ∧ Spells written l.text ∨ l.kind = .unknown)

theorem takeWhile_isNamePart (t : Text) :
    t.takeWhile isNamePart <+: t ∧ ∀ c ∈ t.takeWhile isNamePart, c ≠ '\\' :=
  ⟨List.takeWhile_prefix _, fun _ hc => ne_backslash_of_isNamePart (List.mem_takeWhile_imp hc)⟩

theorem byteLength_escape (t : Text) : Text.byteLength ('\\' :: 'u' :: t) = t.byteLength + 2 := by
  change 1 + (1 + t.byteLength) = _
  omega

theorem plain_of_isNameStart {c : Char} (h : isNameStart c = true) (t : Text) :
    c :: t.takeWhile isNamePart <+: c :: t ∧ ∀ x ∈ c :: t.takeWhile isNamePart, x ≠ '\\' := by
  obtain ⟨hfront, hchars⟩ := takeWhile_isNamePart t
  refine ⟨(List.prefix_cons_inj c).mpr hfront, ?_⟩
  rw [List.forall_mem_cons]
  exact ⟨ne_backslash_of_isNameStart h, hchars⟩

theorem Lexeme.NameFrom.of_escape {l : Lexeme} {plain escape t : Text} {offset code : Nat}
    {c : Char} (hplain : Spells plain plain) (hescape : unicodeEscape? escape = some (code, []))
    (hc : charOfCode? code = some c) (hlen : escape.byteLength = escape.length)
    (h : l.NameFrom t (offset + plain.byteLength + (escape.length + 2))) (sound : Bool) :
    ({ l with text := plain ++ c :: l.text, sound } : Lexeme).NameFrom
      (plain ++ '\\' :: 'u' :: (escape ++ t)) offset := by
  obtain ⟨written, ht, hoffset, hword⟩ := h
  refine ⟨plain ++ '\\' :: 'u' :: (escape ++ written), ?_, ?_, ?_⟩
  · simp only [List.append_assoc, List.cons_append]
    rw [← ht]
  · simp only [hoffset, Text.byteLength_append, byteLength_escape, hlen]
    omega
  · rcases hword with ⟨hkind, hword⟩ | hkind
    · exact Or.inl ⟨hkind, hplain.append (.escape hescape hc hword)⟩
    · exact Or.inr hkind

theorem nameFrom_nameChars (fuel : Nat) (first : Bool) (t : Text) (offset : Nat)
    (escaped : Bool) : (nameChars fuel first t offset escaped).NameFrom t offset := by
  induction fuel generalizing first t offset escaped with
  | zero => exact ⟨[], rfl, rfl, Or.inl ⟨rfl, .nil⟩⟩
  | succ fuel ih =>
      unfold nameChars
      extract_lets plain after middle
      have hplain : plain <+: t ∧ ∀ c ∈ plain, c ≠ '\\' := by
        unfold plain
        split
        · rename_i c more
          split_ifs with hfirst hstart
          · exact plain_of_isNameStart hstart more
          · simp
          · exact takeWhile_isNamePart (c :: more)
        · simp
      have ht : t = plain ++ after := (List.prefix_iff_eq_append.mp hplain.1).symm
      have hspells : Spells plain plain := Spells.of_plain hplain.2
      have hmiddle : middle = offset + plain.byteLength := rfl
      clear_value plain after middle
      subst ht hmiddle
      -- the plain characters end at an escape, at a stray backslash or at the end of the name
      split
      · rename_i digits
        split
        · rename_i code others hcode
          obtain ⟨escape, rfl, hescape, hlen⟩ := exists_unicodeEscape hcode
          simp only [List.length_append, Nat.add_sub_cancel]
          split
          · rename_i c hc
            exact .of_escape hspells hescape hc hlen (ih _ _ _ _) _
          · refine ⟨plain ++ '\\' :: 'u' :: escape, by simp, ?_, Or.inr rfl⟩
            simp only [Text.byteLength_append, byteLength_escape, hlen]
            omega
        · refine ⟨plain ++ ['\\', 'u'], by simp, ?_, Or.inr rfl⟩
          simp only [Text.byteLength_append, byteLength_escape, Text.byteLength_nil]
          omega
      · refine ⟨plain ++ ['\\'], by simp, ?_, Or.inr rfl⟩
        rw [Text.byteLength_append, ← Nat.add_assoc]
        rfl
      · exact ⟨plain, rfl, rfl, Or.inl ⟨rfl, hspells⟩⟩

theorem nameFrom_readName (offset : Nat) (t : Text) : (readName offset t).NameFrom t offset := by
  unfold readName
  dsimp only
  split
  · exact nameFrom_nameChars _ _ _ _ _
  · obtain ⟨hfront, hchars⟩ := takeWhile_isNamePart t
    exact ⟨_, (List.prefix_iff_eq_append.mp hfront).symm, rfl, Or.inl ⟨rfl, .of_plain hchars⟩⟩

theorem Lexeme.NameFrom.readFrom {l : Lexeme} {t : Text} {offset : Nat}
    (h : l.NameFrom t offset) : l.ReadFrom t offset := by
  obtain ⟨written, ht, hoffset, hkind | hkind⟩ := h
  · exact ⟨written, ht, hoffset, by rw [hkind.1]; exact hkind.2⟩
  · exact ⟨written, ht, hoffset, by rw [hkind]; trivial⟩

theorem otherFrom_readPrivateName (offset : Nat) (t : Text) :
    (readPrivateName offset t).OtherFrom t offset := by
  unfold readPrivateName
  split
  · rename_i c rest
    split
    · obtain ⟨written, ht, hoffset, hkind⟩ := nameFrom_readName offset (c :: rest)
      refine ⟨⟨written, ht, hoffset⟩, ?_⟩
      rcases hkind with ⟨hkind, -⟩ | hkind
      · simp [hkind, TokenKind.isOther]
      · simp [hkind, TokenKind.isOther]
    · exact ⟨.refl _ _, rfl⟩
  · exact ⟨.refl _ _, rfl⟩

/-! ### Tokens -/

/-- Every character of the text takes one byte and none starts an escape. -/
def isPlain (t : Text) : Bool := decide (t.byteLength = t.length) && t.all (· != '\\')

theorem plain_of_mem {texts : List Text} (hall : texts.all isPlain = true) {t : Text}
    (h : t ∈ texts) : t.byteLength = t.length ∧ ∀ c ∈ t, c ≠ '\\' := by
  simpa [isPlain] using List.all_eq_true.mp hall t h

theorem readFrom_readPunctuator (offset : Nat) (t : Text) :
    (readPunctuator offset t).ReadFrom t offset := by
  unfold readPunctuator
  split
  · rename_i p hp
    have hfront : p <+: t := by simpa using List.find?_some hp
    have ht := (List.prefix_iff_eq_append.mp hfront).symm
    obtain ⟨hlen, hplain⟩ := plain_of_mem (by decide) (List.mem_of_find?_eq_some hp)
    dsimp only
    split
    · rename_i hquestion
      obtain ⟨rfl, -⟩ := by simpa using hquestion
      exact ⟨['?'], ht, rfl, .of_plain (by simp), fun _ => rfl⟩
    · exact ⟨p, ht, by rw [hlen], .of_plain hplain, fun _ => rfl⟩
  · split
    · exact ⟨[_], rfl, rfl, trivial⟩
    · exact ⟨[], rfl, rfl, trivial⟩

theorem readFrom_readLexeme (offset : Nat) (t : Text) :
    (readLexeme offset t).ReadFrom t offset := by
  unfold readLexeme
  split
  · exact ⟨[], rfl, rfl, trivial⟩
  · rename_i c rest
    split_ifs with hname hnumber hquote htemplate hprivate
    · exact (nameFrom_readName offset (c :: rest)).readFrom
    · exact (otherFrom_readNumber offset (c :: rest)).readFrom
    · have hstring := otherFrom_readString c (offset + 1) rest
      exact Lexeme.OtherFrom.readFrom
        ⟨Reaches.cons_one (utf8Size_of_or rfl rfl hquote) hstring.1, hstring.2⟩
    · subst htemplate
      exact (otherFrom_readTemplate (offset + 1) rest).cons.readFrom
    · subst hprivate
      exact (otherFrom_readPrivateName (offset + 1) rest).cons.readFrom
    · exact readFrom_readPunctuator offset (c :: rest)

/-- The token stands in the text, with the given text after it. -/
def Token.Stands (source : Text) (t : Token) (rest : Text) : Prop :=
  ∃ before written, source = before ++ (written ++ rest) ∧ before.byteLength = t.start ∧
    before.byteLength + written.byteLength = t.stop ∧ t.kind.Writes written t.text

theorem stands_readToken {source t before : Text} (hsource : source = before ++ t) :
    (readToken before.byteLength t).token.Stands source (readToken before.byteLength t).rest := by
  obtain ⟨gap, hgap, hgapOffset⟩ := reaches_skipGap .between false before.byteLength t
  obtain ⟨written, hwritten, hoffset, hkind⟩ :=
    readFrom_readLexeme (skipGap .between false before.byteLength t).offset
      (skipGap .between false before.byteLength t).rest
  refine ⟨before ++ gap, written, ?_, ?_, ?_, hkind⟩
  · rw [hsource, List.append_assoc]
    exact congrArg (before ++ ·) (hgap.trans (congrArg (gap ++ ·) hwritten))
  · rw [Text.byteLength_append, ← hgapOffset]
    rfl
  · rw [Text.byteLength_append, ← hgapOffset, ← hoffset]
    rfl

end HandlerGuard.Script
