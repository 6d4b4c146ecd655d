import HandlerGuard.Text.Utf8

namespace HandlerGuard.Text

theorem toNat_lt_max (c : Char) : c.toNat < 0x110000 := by
  have h := c.valid
  unfold UInt32.isValidChar Nat.isValidChar at h
  change c.val.toNat < _
  omega

theorem toNat_byte {n : Nat} (h : n < 256) : (UInt8.ofNat n).toNat = n :=
  UInt8.toNat_ofNat_of_lt' h

theorem byte_lt_iff {n : Nat} (hn : n < 256) {b : UInt8} (m : Nat) (hm : b.toNat = m) :
    UInt8.ofNat n < b ↔ n < m := by
  rw [UInt8.lt_iff_toNat_lt, toNat_byte hn, hm]

theorem tailBits?_byte (n : Nat) : tailBits? (UInt8.ofNat (n % 64 + 128)) = some (n % 64) := by
  have hbyte : (UInt8.ofNat (n % 64 + 128)).toNat = n % 64 + 128 := toNat_byte (by omega)
  have hrange : 0x80 ≤ UInt8.ofNat (n % 64 + 128) ∧ UInt8.ofNat (n % 64 + 128) < 0xC0 := by
    rw [UInt8.le_iff_toNat_le, UInt8.lt_iff_toNat_lt, hbyte]
    change 128 ≤ _ ∧ _ < 192
    omega
  rw [tailBits?, if_pos hrange, hbyte, Nat.add_sub_cancel]

theorem charOfCode?_toNat {least : Nat} {c : Char} (h : least ≤ c.toNat) :
    charOfCode? least c.toNat = some c := by
  rw [charOfCode?, if_pos ⟨h, c.valid⟩, Char.ofNat_toNat]

variable {c : Char} (rest : List UInt8)

theorem ofBytes?_one (h : c.toNat ≤ 127) :
    ofBytes? (UInt8.ofNat c.toNat :: rest) = (ofBytes? rest).map (c :: ·) := by
  conv =>
    lhs
    unfold ofBytes?
  rw [if_pos ((byte_lt_iff (by omega) 0x80 rfl).mpr (by omega)), toNat_byte (by omega),
    Char.ofNat_toNat]

theorem ofBytes?_two (h : 127 < c.toNat) (hmax : c.toNat ≤ 2047) :
    ofBytes? (UInt8.ofNat (c.toNat / 64 % 32 + 192) :: UInt8.ofNat (c.toNat % 64 + 128) :: rest) =
      (ofBytes? rest).map (c :: ·) := by
  have hlead : c.toNat / 64 % 32 + 192 < 256 := by omega
  have hcode : (c.toNat / 64 % 32 + 192 - 0xC0) * 64 + c.toNat % 64 = c.toNat := by omega
  rw [ofBytes?, if_neg (by rw [byte_lt_iff hlead 0x80 rfl]; omega),
    if_neg (by rw [byte_lt_iff hlead 0xC0 rfl]; omega),
    if_pos ((byte_lt_iff hlead 0xE0 rfl).mpr (by omega))]
  simp only [tailBits?_byte, toNat_byte hlead, Option.bind_eq_bind, Option.bind_some, hcode,
    charOfCode?_toNat h]

theorem ofBytes?_three (h : 2047 < c.toNat) (hmax : c.toNat ≤ 65535) :
    ofBytes? (UInt8.ofNat (c.toNat / 4096 % 16 + 224) :: UInt8.ofNat (c.toNat / 64 % 64 + 128) ::
      UInt8.ofNat (c.toNat % 64 + 128) :: rest) = (ofBytes? rest).map (c :: ·) := by
  have hlead : c.toNat / 4096 % 16 + 224 < 256 := by omega
  have hcode : ((c.toNat / 4096 % 16 + 224 - 0xE0) * 64 + c.toNat / 64 % 64) * 64 + c.toNat % 64 =
      c.toNat := by omega
  rw [ofBytes?, if_neg (by rw [byte_lt_iff hlead 0x80 rfl]; omega),
    if_neg (by rw [byte_lt_iff hlead 0xC0 rfl]; omega),
    if_neg (by rw [byte_lt_iff hlead 0xE0 rfl]; omega),
    if_pos ((byte_lt_iff hlead 0xF0 rfl).mpr (by omega))]
  simp only [tailBits?_byte, toNat_byte hlead, Option.bind_eq_bind, Option.bind_some, hcode,
    charOfCode?_toNat h]

theorem ofBytes?_four (h : 65535 < c.toNat) :
    ofBytes? (UInt8.ofNat (c.toNat / 262144 % 8 + 240) :: UInt8.ofNat (c.toNat / 4096 % 64 + 128) ::
      UInt8.ofNat (c.toNat / 64 % 64 + 128) :: UInt8.ofNat (c.toNat % 64 + 128) :: rest) =
      (ofBytes? rest).map (c :: ·) := by
  have hmax := toNat_lt_max c
  have hlead : c.toNat / 262144 % 8 + 240 < 256 := by omega
  have hcode : (((c.toNat / 262144 % 8 + 240 - 0xF0) * 64 + c.toNat / 4096 % 64) * 64 +
      c.toNat / 64 % 64) * 64 + c.toNat % 64 = c.toNat := by omega
  rw [ofBytes?, if_neg (by rw [byte_lt_iff hlead 0x80 rfl]; omega),
    if_neg (by rw [byte_lt_iff hlead 0xC0 rfl]; omega),
    if_neg (by rw [byte_lt_iff hlead 0xE0 rfl]; omega),
    if_neg (by rw [byte_lt_iff hlead 0xF0 rfl]; omega),
    if_pos ((byte_lt_iff hlead 0xF8 rfl).mpr (by omega))]
  simp only [tailBits?_byte, toNat_byte hlead, Option.bind_eq_bind, Option.bind_some, hcode,
    charOfCode?_toNat h]

theorem ofBytes?_encode (c : Char) :
    ofBytes? (String.utf8EncodeChar c ++ rest) = (ofBytes? rest).map (c :: ·) := by
  unfold String.utf8EncodeChar
  dsimp only
  split
  case isTrue h => exact ofBytes?_one rest h
  case isFalse h =>
      split
      case isTrue h' => exact ofBytes?_two rest (Nat.lt_of_not_le h) h'
      case isFalse h' =>
          split
          case isTrue h'' => exact ofBytes?_three rest (Nat.lt_of_not_le h') h''
          case isFalse h'' => exact ofBytes?_four rest (Nat.lt_of_not_le h'')

theorem ofBytes?_toBytes (t : Text) : ofBytes? (toBytes t) = some t := by
  induction t with
  | nil => rfl
  | cons c t ih =>
      rw [toBytes, List.flatMap_cons, ofBytes?_encode]
      change (ofBytes? (toBytes t)).map _ = _
      rw [ih]
      rfl

end HandlerGuard.Text
