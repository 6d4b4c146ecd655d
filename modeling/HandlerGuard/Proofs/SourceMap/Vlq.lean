import HandlerGuard.SourceMap.Vlq

namespace HandlerGuard.Vlq

/-- The number that a letter stands for. -/
def value? (c : Char) : Option Nat := alphabet.findIdx? (· = c)

/-- The number with its sign taken from the lowest bit. -/
def unzigzag (n : Nat) : Int := if n % 2 = 0 then ((n / 2 : Nat) : Int) else -((n / 2 : Nat) : Int)

/-- The numbers of some letters. Of the first number the groups before are known, `sum` in all, and the
next group counts `weight` times. A number without end is none. -/
def readFrom (weight sum : Nat) : Text → Option (List Int)
  | [] => if weight = 1 then some [] else none
  | c :: rest => do
      let group ← value? c
      if group < 32 then
        let others ← readFrom 1 0 rest
        some (unzigzag (sum + weight * group) :: others)
      else readFrom (32 * weight) (sum + weight * (group - 32)) rest

/-- The numbers of some letters. -/
def read? (t : Text) : Option (List Int) := readFrom 1 0 t

theorem unzigzag_zigzag (n : Int) : unzigzag (zigzag n) = n := by
  unfold zigzag unzigzag
  split <;> split <;> omega

theorem letter_mem_alphabet (n : Nat) : letter n ∈ alphabet := by
  unfold letter
  rw [List.getD_eq_getElem?_getD]
  cases hn : alphabet[n]? with
  | none => decide
  | some c => exact List.mem_of_getElem? hn

theorem mem_alphabet_of_mem_encode {n : Int} {c : Char} (h : c ∈ encode n) : c ∈ alphabet := by
  obtain ⟨group, -, rfl⟩ := List.mem_map.mp h
  exact letter_mem_alphabet group

theorem value?_letter {n : Nat} (h : n < 64) : value? (letter n) = some n := by
  have hall : ∀ n < 64, value? (letter n) = some n := by decide +kernel
  exact hall n h

theorem encode_ne_nil (n : Int) : encode n ≠ [] := by
  unfold encode
  cases zigzag n with
  | zero => simp [groups]
  | succ k =>
      rw [groups]
      split <;> simp

theorem readFrom_last {group : Nat} (h : group < 32) (weight sum : Nat) (rest : Text) :
    readFrom weight sum (letter group :: rest) =
      (readFrom 1 0 rest).map (unzigzag (sum + weight * group) :: ·) := by
  rw [readFrom, value?_letter (by omega), Option.bind_eq_bind, Option.bind_some, if_pos h]
  cases readFrom 1 0 rest <;> rfl

theorem readFrom_more {group : Nat} (h : group < 32) (weight sum : Nat) (rest : Text) :
    readFrom weight sum (letter (group + 32) :: rest) =
      readFrom (32 * weight) (sum + weight * group) rest := by
  rw [readFrom, value?_letter (by omega), Option.bind_eq_bind, Option.bind_some, if_neg (by omega),
    Nat.add_sub_cancel]

theorem readFrom_groups {fuel n : Nat} (hfuel : n ≤ fuel) (weight sum : Nat) (rest : Text) :
    readFrom weight sum ((groups fuel n).map letter ++ rest) =
      (readFrom 1 0 rest).map (unzigzag (sum + weight * n) :: ·) := by
  induction fuel generalizing n weight sum with
  | zero =>
      obtain rfl : n = 0 := by omega
      exact readFrom_last (by decide) weight sum rest
  | succ fuel ih =>
      rw [groups]
      split
      · rename_i hsmall
        exact readFrom_last hsmall weight sum rest
      · have hsum : sum + weight * (n % 32) + 32 * weight * (n / 32) = sum + weight * n := by
          rw [Nat.mul_comm 32 weight, Nat.mul_assoc, Nat.add_assoc, ← Nat.mul_add, Nat.mod_add_div]
        rw [List.map_cons, List.cons_append, readFrom_more (by omega), ih (by omega), hsum]

theorem read?_encode_append (n : Int) (rest : Text) :
    read? (encode n ++ rest) = (read? rest).map (n :: ·) := by
  have h := readFrom_groups (Nat.le_refl (zigzag n)) 1 0 rest
  rwa [Nat.zero_add, Nat.one_mul, unzigzag_zigzag] at h

end HandlerGuard.Vlq
