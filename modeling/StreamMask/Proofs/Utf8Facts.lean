/-
Text as bytes, there and back.

Bytes are decoded as far as they are the encoding of characters, and no further. So the
bytes that are decoded to their end are just the encodings of texts (`decode_iff`).
-/
import StreamMask.Text.Utf8

namespace StreamMask.Text

/-- The bytes that characters are written as. -/
def encode (text : List Char) : List UInt8 := text.flatMap String.utf8EncodeChar

theorem encode_cons (c : Char) (text : List Char) :
    encode (c :: text) = String.utf8EncodeChar c ++ encode text := List.flatMap_cons

theorem encode_append (xs ys : List Char) : encode (xs ++ ys) = encode xs ++ encode ys :=
  List.flatMap_append

theorem toUTF8_toList (text : String) : text.toUTF8.data.toList = encode text.toList := by
  rw [← String.ofList_toList (s := text), String.toUTF8_eq_toByteArray, String.toByteArray_ofList,
    List.utf8Encode, List.data_toByteArray, String.toList_ofList]
  rfl

/-! ## Single characters -/

theorem ofNat_eq {b : UInt8} {n : Nat} (h : b.toNat = n) : UInt8.ofNat n = b := by
  rw [← h, UInt8.ofNat_toNat]

theorem toNat_ofNat {n : Nat} (h : n < 256) : (UInt8.ofNat n).toNat = n :=
  UInt8.toNat_ofNat_of_lt' h

theorem tailBits?_eq_some {b : UInt8} {n : Nat} :
    tailBits? b = some n ↔ n < 64 ∧ b.toNat = 0x80 + n := by
  unfold tailBits?
  split
  · rw [Option.some_inj]
    omega
  · constructor
    · intro h
      contradiction
    · omega

theorem toNat_char_ofNat {n : Nat} (h : n.isValidChar) : (Char.ofNat n).toNat = n := by
  unfold Char.ofNat
  rw [dif_pos h]
  rfl

theorem charFrom?_eq_some {least n : Nat} {c : Char} :
    charFrom? least n = some c ↔ least ≤ n ∧ c.toNat = n := by
  unfold charFrom?
  split
  · next h =>
    rw [Option.some_inj]
    constructor
    · rintro rfl
      exact ⟨h.1, toNat_char_ofNat h.2⟩
    · rintro ⟨-, rfl⟩
      exact Char.ofNat_toNat c
  · next h =>
    constructor
    · intro hc
      contradiction
    · rintro ⟨hle, rfl⟩
      exact absurd ⟨hle, c.valid⟩ h

/-- Two bytes are read as the character that they are written for. -/
theorem twoBytes?_eq_some {a b : UInt8} {c : Char} :
    twoBytes? a b = some c ↔
      0x80 ≤ c.toNat ∧ a.toNat = 0xC0 + c.toNat / 64 ∧ a.toNat < 0xE0 ∧
        b.toNat = 0x80 + c.toNat % 64 := by
  unfold twoBytes?
  simp only [Option.ite_none_right_eq_some, Option.bind_eq_some_iff, tailBits?_eq_some,
    charFrom?_eq_some]
  constructor
  · rintro ⟨ha, y, ⟨hy, hb⟩, hle, hc⟩
    omega
  · rintro ⟨hle, ha, hlt, hb⟩
    exact ⟨by omega, c.toNat % 64, ⟨by omega, hb⟩, by omega, by omega⟩

theorem threeBytes?_eq_some {a b c : UInt8} {d : Char} :
    threeBytes? a b c = some d ↔
      0x800 ≤ d.toNat ∧ a.toNat = 0xE0 + d.toNat / 4096 ∧ a.toNat < 0xF0 ∧
        b.toNat = 0x80 + d.toNat / 64 % 64 ∧ c.toNat = 0x80 + d.toNat % 64 := by
  unfold threeBytes?
  simp only [Option.ite_none_right_eq_some, Option.bind_eq_some_iff, tailBits?_eq_some,
    charFrom?_eq_some]
  constructor
  · rintro ⟨ha, y, ⟨hy, hb⟩, z, ⟨hz, hc⟩, hle, hd⟩
    omega
  · rintro ⟨hle, ha, hlt, hb, hc⟩
    exact ⟨by omega, d.toNat / 64 % 64, ⟨by omega, hb⟩, d.toNat % 64, ⟨by omega, hc⟩, by omega,
      by omega⟩

theorem fourBytes?_eq_some {a b c d : UInt8} {e : Char} :
    fourBytes? a b c d = some e ↔
      0x10000 ≤ e.toNat ∧ a.toNat = 0xF0 + e.toNat / 262144 ∧ a.toNat < 0xF8 ∧
        b.toNat = 0x80 + e.toNat / 4096 % 64 ∧ c.toNat = 0x80 + e.toNat / 64 % 64 ∧
        d.toNat = 0x80 + e.toNat % 64 := by
  unfold fourBytes?
  simp only [Option.ite_none_right_eq_some, Option.bind_eq_some_iff, tailBits?_eq_some,
    charFrom?_eq_some]
  constructor
  · rintro ⟨ha, x, ⟨hx, hb⟩, y, ⟨hy, hc⟩, z, ⟨hz, hd⟩, hle, he⟩
    omega
  · rintro ⟨hle, ha, hlt, hb, hc, hd⟩
    exact ⟨by omega, e.toNat / 4096 % 64, ⟨by omega, hb⟩, e.toNat / 64 % 64, ⟨by omega, hc⟩,
      e.toNat % 64, ⟨by omega, hd⟩, by omega, by omega⟩

theorem twoBytes?_eq_none {a b : UInt8} (h : 0xE0 ≤ a.toNat) : twoBytes? a b = none := by
  unfold twoBytes?
  rw [if_neg (by omega)]

theorem threeBytes?_eq_none {a b c : UInt8} (h : 0xF0 ≤ a.toNat) : threeBytes? a b c = none := by
  unfold threeBytes?
  rw [if_neg (by omega)]

theorem utf8EncodeChar_one {a : UInt8} (h : a.toNat < 0x80) :
    String.utf8EncodeChar (Char.ofNat a.toNat) = [a] := by
  have hvalid : a.toNat.isValidChar := .inl (by omega)
  have hc : (Char.ofNat a.toNat).val.toNat = a.toNat := toNat_char_ofNat hvalid
  simp only [String.utf8EncodeChar, hc]
  rw [if_pos (by omega), UInt8.ofNat_toNat]

theorem utf8EncodeChar_two {a b : UInt8} {c : Char} (h : twoBytes? a b = some c) :
    String.utf8EncodeChar c = [a, b] := by
  obtain ⟨hle, ha, hlt, hb⟩ := twoBytes?_eq_some.mp h
  simp only [String.utf8EncodeChar]
  change 0x80 ≤ c.val.toNat at hle
  change a.toNat = 0xC0 + c.val.toNat / 64 at ha
  change b.toNat = 0x80 + c.val.toNat % 64 at hb
  rw [if_neg (by omega), if_pos (by omega), ofNat_eq (b := a) (by omega), ofNat_eq (b := b) (by omega)]

theorem utf8EncodeChar_three {a b c : UInt8} {d : Char} (h : threeBytes? a b c = some d) :
    String.utf8EncodeChar d = [a, b, c] := by
  obtain ⟨hle, ha, hlt, hb, hc⟩ := threeBytes?_eq_some.mp h
  simp only [String.utf8EncodeChar]
  change 0x800 ≤ d.val.toNat at hle
  change a.toNat = 0xE0 + d.val.toNat / 4096 at ha
  change b.toNat = 0x80 + d.val.toNat / 64 % 64 at hb
  change c.toNat = 0x80 + d.val.toNat % 64 at hc
  rw [if_neg (by omega), if_neg (by omega), if_pos (by omega), ofNat_eq (b := a) (by omega),
    ofNat_eq (b := b) (by omega), ofNat_eq (b := c) (by omega)]

theorem utf8EncodeChar_four {a b c d : UInt8} {e : Char} (h : fourBytes? a b c d = some e) :
    String.utf8EncodeChar e = [a, b, c, d] := by
  obtain ⟨hle, ha, hlt, hb, hc, hd⟩ := fourBytes?_eq_some.mp h
  simp only [String.utf8EncodeChar]
  change 0x10000 ≤ e.val.toNat at hle
  change a.toNat = 0xF0 + e.val.toNat / 262144 at ha
  change b.toNat = 0x80 + e.val.toNat / 4096 % 64 at hb
  change c.toNat = 0x80 + e.val.toNat / 64 % 64 at hc
  change d.toNat = 0x80 + e.val.toNat % 64 at hd
  rw [if_neg (by omega), if_neg (by omega), if_neg (by omega), ofNat_eq (b := a) (by omega),
    ofNat_eq (b := b) (by omega), ofNat_eq (b := c) (by omega), ofNat_eq (b := d) (by omega)]

/-- A bound of at most 0x80 that a character reaches is reached by each of its bytes. -/
theorem le_of_mem_utf8EncodeChar {c : Char} {least : Nat} (hleast : least ≤ 0x80)
    (h : least ≤ c.toNat) : ∀ byte ∈ String.utf8EncodeChar c, least ≤ byte.toNat := by
  have hofNat : ∀ n : Nat, least ≤ n → n < 256 → least ≤ (UInt8.ofNat n).toNat := by
    intro n hle hlt
    rw [toNat_ofNat hlt]
    exact hle
  intro byte hbyte
  change least ≤ c.val.toNat at h
  simp only [String.utf8EncodeChar] at hbyte
  generalize c.val.toNat = v at h hbyte
  split at hbyte
  · simp only [List.mem_cons, List.not_mem_nil, or_false] at hbyte
    exact hbyte ▸ hofNat _ h (by omega)
  split at hbyte
  · simp only [List.mem_cons, List.not_mem_nil, or_false] at hbyte
    rcases hbyte with rfl | rfl <;> exact hofNat _ (by omega) (by omega)
  split at hbyte
  · simp only [List.mem_cons, List.not_mem_nil, or_false] at hbyte
    rcases hbyte with rfl | rfl | rfl <;> exact hofNat _ (by omega) (by omega)
  · simp only [List.mem_cons, List.not_mem_nil, or_false] at hbyte
    rcases hbyte with rfl | rfl | rfl | rfl <;> exact hofNat _ (by omega) (by omega)

/-! ## Whole texts -/

/-- **The encoding of a character is read as that character.** -/
theorem decode_utf8EncodeChar (c : Char) (rest : List UInt8) :
    decode (String.utf8EncodeChar c ++ rest) = push c (decode rest) := by
  have hc : Char.ofNat c.toNat = c := Char.ofNat_toNat c
  simp only [String.utf8EncodeChar, show c.val.toNat = c.toNat from rfl]
  split
  · next h =>
    have ha : (UInt8.ofNat c.toNat).toNat = c.toNat := toNat_ofNat (by omega)
    rw [List.cons_append, List.nil_append, decode.eq_def]
    simp only [ha, hc, if_pos (show c.toNat < 0x80 by omega)]
  split
  · next h =>
    generalize ha : UInt8.ofNat (c.toNat / 64 % 32 + 0xC0) = a
    generalize hb : UInt8.ofNat (c.toNat % 64 + 0x80) = b
    have ha : a.toNat = c.toNat / 64 % 32 + 0xC0 := ha ▸ toNat_ofNat (by omega)
    have hb : b.toNat = c.toNat % 64 + 0x80 := hb ▸ toNat_ofNat (by omega)
    have htwo : twoBytes? a b = some c := twoBytes?_eq_some.mpr (by omega)
    simp only [List.cons_append, List.nil_append]
    rw [decode.eq_def]
    simp only [if_neg (show ¬a.toNat < 0x80 by omega), htwo]
  split
  · next h =>
    generalize ha : UInt8.ofNat (c.toNat / 4096 % 16 + 0xE0) = a
    generalize hb : UInt8.ofNat (c.toNat / 64 % 64 + 0x80) = b
    generalize hd : UInt8.ofNat (c.toNat % 64 + 0x80) = d
    have ha : a.toNat = c.toNat / 4096 % 16 + 0xE0 := ha ▸ toNat_ofNat (by omega)
    have hb : b.toNat = c.toNat / 64 % 64 + 0x80 := hb ▸ toNat_ofNat (by omega)
    have hd : d.toNat = c.toNat % 64 + 0x80 := hd ▸ toNat_ofNat (by omega)
    have htwo : twoBytes? a b = none := twoBytes?_eq_none (by omega)
    have hthree : threeBytes? a b d = some c := threeBytes?_eq_some.mpr (by omega)
    simp only [List.cons_append, List.nil_append]
    rw [decode.eq_def]
    simp only [if_neg (show ¬a.toNat < 0x80 by omega), htwo, hthree]
  · next h =>
    have hvalid : c.toNat.isValidChar := c.valid
    unfold Nat.isValidChar at hvalid
    generalize ha : UInt8.ofNat (c.toNat / 262144 % 8 + 0xF0) = a
    generalize hb : UInt8.ofNat (c.toNat / 4096 % 64 + 0x80) = b
    generalize hd : UInt8.ofNat (c.toNat / 64 % 64 + 0x80) = d
    generalize he : UInt8.ofNat (c.toNat % 64 + 0x80) = e
    have ha : a.toNat = c.toNat / 262144 % 8 + 0xF0 := ha ▸ toNat_ofNat (by omega)
    have hb : b.toNat = c.toNat / 4096 % 64 + 0x80 := hb ▸ toNat_ofNat (by omega)
    have hd : d.toNat = c.toNat / 64 % 64 + 0x80 := hd ▸ toNat_ofNat (by omega)
    have he : e.toNat = c.toNat % 64 + 0x80 := he ▸ toNat_ofNat (by omega)
    have htwo : twoBytes? a b = none := twoBytes?_eq_none (by omega)
    have hthree : threeBytes? a b d = none := threeBytes?_eq_none (by omega)
    have hfour : fourBytes? a b d e = some c := fourBytes?_eq_some.mpr (by omega)
    simp only [List.cons_append, List.nil_append]
    rw [decode.eq_def]
    simp only [if_neg (show ¬a.toNat < 0x80 by omega), htwo, hthree, hfour]

theorem decode_encode_append (text : List Char) (rest : List UInt8) :
    decode (encode text ++ rest) = (text ++ (decode rest).1, (decode rest).2) := by
  induction text with
  | nil => rfl
  | cons c text ih =>
    rw [encode_cons, List.append_assoc, decode_utf8EncodeChar, ih]
    rfl

/-- What is decoded, with what is left, is all that there was. -/
theorem encode_decode (bytes : List UInt8) :
    encode (decode bytes).1 ++ (decode bytes).2 = bytes := by
  fun_induction decode bytes with
  | case1 => rfl
  | case2 a rest h ih =>
    rw [push, encode_cons, List.append_assoc, ih, utf8EncodeChar_one h]
    rfl
  | case3 a h => rfl
  | case4 a h b rest char htwo ih =>
    rw [push, encode_cons, List.append_assoc, ih, utf8EncodeChar_two htwo]
    rfl
  | case5 => rfl
  | case6 a h b htwo c rest char hthree ih =>
    rw [push, encode_cons, List.append_assoc, ih, utf8EncodeChar_three hthree]
    rfl
  | case7 => rfl
  | case8 a h b htwo c hthree d rest char hfour ih =>
    rw [push, encode_cons, List.append_assoc, ih, utf8EncodeChar_four hfour]
    rfl
  | case9 => rfl

/-- **Just the encodings of texts are decoded to their end.** -/
theorem decode_iff {bytes : List UInt8} {text : List Char} :
    decode bytes = (text, []) ↔ bytes = encode text := by
  constructor
  · intro h
    have hbytes := encode_decode bytes
    rw [h, List.append_nil] at hbytes
    exact hbytes.symm
  · rintro rfl
    have h := decode_encode_append text []
    rwa [List.append_nil, decode, List.append_nil] at h

theorem ofBytes?_eq_some {bytes : List UInt8} {text : String} :
    ofBytes? bytes = some text ↔ bytes = encode text.toList := by
  unfold ofBytes?
  rw [← decode_iff]
  split
  · next chars hdecode =>
    rw [hdecode, Option.some_inj]
    simp only [Prod.mk.injEq, and_true]
    constructor
    · rintro rfl
      exact String.toList_ofList.symm
    · rintro rfl
      exact String.ofList_toList
  · next hdecode =>
    rw [hdecode]
    simp

end StreamMask.Text
