import HandlerGuard.Proofs.Text.Infix
import HandlerGuard.Text.Identifier

namespace HandlerGuard.Text

/-- An ASCII letter, a digit, `_` or `$`. -/
def NamePart (c : Char) : Prop :=
  ('A' ≤ c ∧ c ≤ 'Z') ∨ ('a' ≤ c ∧ c ≤ 'z') ∨ ('0' ≤ c ∧ c ≤ '9') ∨ c = '_' ∨ c = '$'

theorem isIdentifierPart_iff {c : Char} : isIdentifierPart c = true ↔ NamePart c := by
  have hupper : c.isUpper = true ↔ 'A' ≤ c ∧ c ≤ 'Z' := decide_eq_true_iff
  have hlower : c.isLower = true ↔ 'a' ≤ c ∧ c ≤ 'z' :=
    Bool.and_eq_true_iff.trans (and_congr decide_eq_true_iff decide_eq_true_iff)
  have hdigit : c.isDigit = true ↔ '0' ≤ c ∧ c ≤ '9' :=
    Bool.and_eq_true_iff.trans (and_congr decide_eq_true_iff decide_eq_true_iff)
  have hletters : c.isAlphanum = (c.isUpper || c.isLower || c.isDigit) := rfl
  simp only [isIdentifierPart, hletters, Bool.or_eq_true, decide_eq_true_eq, hupper, hlower, hdigit,
    or_assoc]
  exact Iff.rfl

theorem isIdentifierPart_of_mem {name : Text} (h : name.isIdentifier = true) {c : Char}
    (hc : c ∈ name) : isIdentifierPart c = true := by
  rcases name with _ | ⟨first, rest⟩
  · simp at hc
  · simp only [isIdentifier, Bool.and_eq_true, List.all_eq_true] at h
    obtain ⟨hfirst, hrest⟩ := h
    rcases List.mem_cons.mp hc with rfl | hc
    · have hletters : c.isAlphanum = (c.isAlpha || c.isDigit) := rfl
      simp only [isIdentifierStart, isIdentifierPart, hletters, Bool.or_eq_true] at hfirst ⊢
      rcases hfirst with (hletter | hbar) | hdollar
      · exact Or.inl (Or.inl (Or.inl hletter))
      · exact Or.inl (Or.inr hbar)
      · exact Or.inr hdollar
    · exact hrest c hc

theorem ne_nil_of_isIdentifier {name : Text} (h : name.isIdentifier = true) : name ≠ [] := by
  rintro rfl
  simp [isIdentifier] at h

theorem not_infix_nil_of_isIdentifier {name : Text} (h : name.isIdentifier = true) :
    ¬name <:+: [] := by
  intro hnil
  exact ne_nil_of_isIdentifier h (List.infix_nil.mp hnil)

theorem not_infix_call {name symbol argument : Text} (h : name.isIdentifier = true)
    (hsymbol : ¬name <:+: symbol) (hargument : ¬name <:+: argument) :
    ¬name <:+: symbol ++ '(' :: (argument ++ [')']) := by
  have hopen : '(' ∉ name := fun hmem => absurd (isIdentifierPart_of_mem h hmem) (by decide)
  have hclose : ')' ∉ name := fun hmem => absurd (isIdentifierPart_of_mem h hmem) (by decide)
  intro hin
  rcases infix_or_infix_of_append_cons hopen hin with hin | hin
  · exact hsymbol hin
  · rcases infix_or_infix_of_append_cons hclose hin with hin | hin
    · exact hargument hin
    · exact not_infix_nil_of_isIdentifier h hin

section Occurrences

variable {needle : Text} (hne : needle ≠ [])

include hne

theorem occurrencesFrom_append (fuel : Nat) (seen after : Text) :
    occurrencesFrom needle (fuel + 1) seen (needle ++ after) =
      (seen.reverse, after) :: occurrencesFrom needle fuel (needle.reverse ++ seen) after := by
  have hfront : needle.isPrefixOf (needle ++ after) = true :=
    List.isPrefixOf_iff_prefix.mpr (List.prefix_append needle after)
  have hempty : needle.isEmpty = false := List.isEmpty_eq_false_iff.mpr hne
  simp [occurrencesFrom, hfront, hempty]

omit hne in
theorem occurrencesFrom_cons {c : Char} {rest : Text} (h : ¬needle <+: c :: rest) (fuel : Nat)
    (seen : Text) :
    occurrencesFrom needle (fuel + 1) seen (c :: rest) =
      occurrencesFrom needle fuel (c :: seen) rest := by
  have hfront : needle.isPrefixOf (c :: rest) = false := by
    rw [← Bool.not_eq_true, List.isPrefixOf_iff_prefix]
    exact h
  rw [occurrencesFrom, hfront]
  rfl

theorem of_mem_occurrencesFrom {fuel : Nat} {seen t : Text} {found : Text × Text}
    (h : found ∈ occurrencesFrom needle fuel seen t) :
    seen.reverse ++ t = found.1 ++ (needle ++ found.2) ∧ seen.length ≤ found.1.length := by
  induction fuel generalizing seen t with
  | zero => simp [occurrencesFrom] at h
  | succ fuel ih =>
      by_cases hfront : needle <+: t
      · obtain ⟨tail, rfl⟩ := hfront
        rw [occurrencesFrom_append hne] at h
        rcases List.mem_cons.mp h with rfl | hlater
        · exact ⟨rfl, by simp⟩
        · obtain ⟨hsplit, hle⟩ := ih hlater
          refine ⟨by simpa using hsplit, ?_⟩
          simp only [List.length_append] at hle
          omega
      · rcases t with _ | ⟨c, rest⟩
        · simp [occurrencesFrom, hne] at h
        · rw [occurrencesFrom_cons hfront] at h
          obtain ⟨hsplit, hle⟩ := ih h
          refine ⟨by simpa using hsplit, ?_⟩
          simp only [List.length_cons] at hle
          omega

theorem pairwise_occurrencesFrom (fuel : Nat) (seen t : Text) :
    (occurrencesFrom needle fuel seen t).Pairwise fun found later =>
      found.1.length + needle.length ≤ later.1.length := by
  induction fuel generalizing seen t with
  | zero => exact List.Pairwise.nil
  | succ fuel ih =>
      by_cases hfront : needle <+: t
      · obtain ⟨tail, rfl⟩ := hfront
        rw [occurrencesFrom_append hne]
        refine List.Pairwise.cons ?_ (ih _ _)
        intro later hlater
        have hle := (of_mem_occurrencesFrom hne hlater).2
        simp only [List.length_append, List.length_reverse] at hle ⊢
        omega
      · rcases t with _ | ⟨c, rest⟩
        · simp [occurrencesFrom, hne]
        · rw [occurrencesFrom_cons hfront]
          exact ih _ _

theorem exists_mem_occurrencesFrom {fuel : Nat} (seen before after : Text)
    (hfuel : before.length < fuel) :
    ∃ found ∈ occurrencesFrom needle fuel seen (before ++ (needle ++ after)),
      found.1.length ≤ seen.length + before.length ∧
        seen.length + before.length < found.1.length + needle.length := by
  have hpos : 0 < needle.length := List.length_pos_iff.mpr hne
  induction fuel generalizing seen before with
  | zero => simp at hfuel
  | succ fuel ih =>
      by_cases hfront : needle <+: before ++ (needle ++ after)
      · obtain ⟨tail, htail⟩ := hfront
        rw [← htail, occurrencesFrom_append hne]
        rcases Nat.lt_or_ge before.length needle.length with hshort | hlong
        · exact ⟨_, List.mem_cons_self, by simp, by simpa using hshort⟩
        · -- the occurrence starts behind the one that is found here
          obtain ⟨middle, rfl⟩ : needle <+: before :=
            List.prefix_of_prefix_length_le ⟨tail, htail⟩ (List.prefix_append _ _) hlong
          rw [List.append_assoc] at htail
          obtain rfl := List.append_cancel_left htail
          simp only [List.length_append] at hfuel
          obtain ⟨found, hfound, hle, hlt⟩ := ih (needle.reverse ++ seen) middle (by omega)
          simp only [List.length_append, List.length_reverse] at hle hlt ⊢
          exact ⟨found, List.mem_cons_of_mem _ hfound, by omega, by omega⟩
      · rcases before with _ | ⟨d, rest⟩
        · exact absurd (List.prefix_append needle after) hfront
        · rw [List.cons_append] at hfront ⊢
          rw [occurrencesFrom_cons hfront]
          simp only [List.length_cons] at hfuel
          obtain ⟨found, hfound, hle, hlt⟩ := ih (d :: seen) rest (by omega)
          simp only [List.length_cons] at hle hlt ⊢
          exact ⟨found, hfound, by omega, by omega⟩

end Occurrences

theorem eq_of_reaches_into {needle left right front back : Text}
    (heq : front ++ (needle ++ back) = left ++ (needle ++ right)) (hle : front.length ≤ left.length)
    (hlt : left.length < front.length + needle.length) (hleft : ∀ c ∈ left.getLast?, c ∉ needle) :
    front = left ∧ back = right := by
  obtain ⟨gap, rfl⟩ : front <+: left :=
    List.prefix_of_prefix_length_le ⟨_, heq⟩ (List.prefix_append _ _) hle
  rw [List.append_assoc] at heq
  have hgap := List.append_cancel_left heq
  have hnil : gap = [] := by
    -- the gap is short enough to lie in the needle, its last character included
    rw [List.length_append] at hlt
    obtain ⟨rest, rfl⟩ : gap <+: needle :=
      List.prefix_of_prefix_length_le ⟨_, hgap.symm⟩ (List.prefix_append _ _) (by omega)
    cases hlast : gap.getLast? with
    | none => exact List.getLast?_eq_none_iff.mp hlast
    | some c =>
        have hc := hleft c (by simp [List.getLast?_append, hlast])
        exact absurd (List.mem_append_left rest (List.mem_of_getLast? hlast)) hc
  subst hnil
  exact ⟨by simp, List.append_cancel_left hgap⟩

/-- The left text does not end and the right one does not begin with a character that a name between
them could go on with. -/
def Isolates (left right : Text) : Prop :=
  (∀ c ∈ left.getLast?, ¬NamePart c) ∧ ∀ c ∈ right.head?, ¬NamePart c

theorem isolates_iff {left right : Text} :
    (!(left.getLast?.any isIdentifierPart) && !(right.head?.any isIdentifierPart)) = true ↔
      Isolates left right := by
  have hnone : ∀ side : Option Char,
      (!side.any isIdentifierPart) = true ↔ ∀ c ∈ side, ¬NamePart c := by
    intro side
    cases side with
    | none => simp
    | some c => simp [← isIdentifierPart_iff]
  rw [Bool.and_eq_true, hnone, hnone]
  exact Iff.rfl

/-- An identifier that stands alone is found itself: what would reach into it from the left would hold
the character in front of it. -/
theorem mem_occurrences_of_isolates {name left right : Text} (hname : name.isIdentifier = true)
    (h : Isolates left right) : (left, right) ∈ occurrences (left ++ (name ++ right)) name := by
  have hne := ne_nil_of_isIdentifier hname
  have hleft : ∀ c ∈ left.getLast?, c ∉ name := by
    intro c hc hmem
    exact h.1 c hc (isIdentifierPart_iff.mp (isIdentifierPart_of_mem hname hmem))
  have hfuel : left.length < (left ++ (name ++ right)).length + 1 := by
    simp only [List.length_append]
    omega
  obtain ⟨⟨front, back⟩, hfound, hle, hlt⟩ :=
    exists_mem_occurrencesFrom hne [] left right hfuel
  rw [List.length_nil, Nat.zero_add] at hle hlt
  have hsplit := (of_mem_occurrencesFrom hne hfound).1
  obtain ⟨rfl, rfl⟩ := eq_of_reaches_into hsplit.symm hle hlt hleft
  exact hfound

theorem includesIdentifier_of_isolates {name left right : Text} (hname : name.isIdentifier = true)
    (h : Isolates left right) : (left ++ (name ++ right)).includesIdentifier name = true :=
  List.any_eq_true.mpr ⟨_, mem_occurrences_of_isolates hname h, isolates_iff.mpr h⟩

/-- The search finds an identifier exactly if the text splits around it into a part that does not end and
a part that does not begin with a letter, a digit, `_` or `$`, although it looks only at occurrences that
do not overlap. -/
theorem includesIdentifier_iff_isolated (t name : Text) (hname : name.isIdentifier = true) :
    (t.includesIdentifier name = true ↔
      ∃ left right, t = left ++ name ++ right ∧
        (∀ c ∈ left.getLast?, ¬NamePart c) ∧ ∀ c ∈ right.head?, ¬NamePart c) ∧
      (occurrences t name).Pairwise fun found later =>
        found.1.length + name.length ≤ later.1.length := by
  have hne := ne_nil_of_isIdentifier hname
  refine ⟨?_, pairwise_occurrencesFrom hne _ _ _⟩
  constructor
  · intro h
    obtain ⟨⟨left, right⟩, hfound, hsides⟩ := List.any_eq_true.mp h
    refine ⟨left, right, ?_, isolates_iff.mp hsides⟩
    rw [List.append_assoc]
    exact (of_mem_occurrencesFrom hne hfound).1
  · rintro ⟨left, right, rfl, hsides⟩
    rw [List.append_assoc]
    exact includesIdentifier_of_isolates hname hsides

/-- An occurrence that overlaps one on its left is passed over. -/
example : occurrences "a_a_a".toList "a_a".toList = [([], "_a".toList)] := by decide

theorem overlapping_name_isolated :
    isIdentifier "a_a_a".toList = true ∧
      includesIdentifier "a_a_a_a.a_a_a".toList "a_a_a".toList = true ∧
      ¬∃ left right, "a_a_a_a".toList = left ++ "a_a_a".toList ++ right ∧
        (∀ c ∈ left.getLast?, ¬NamePart c) ∧ ∀ c ∈ right.head?, ¬NamePart c := by
  have hname : isIdentifier "a_a_a".toList = true := by decide
  refine ⟨hname, ?_, ?_⟩
  · apply (includesIdentifier_iff_isolated _ _ hname).1.mpr
    refine ⟨"a_a_a_a.".toList, [], rfl, ?_, ?_⟩
    · intro c hc
      obtain rfl : '.' = c := Option.some.inj hc
      rw [← isIdentifierPart_iff]
      decide
    · simp
  · intro h
    have hfound := (includesIdentifier_iff_isolated _ _ hname).1.mpr h
    exact absurd hfound (by decide)

end HandlerGuard.Text
