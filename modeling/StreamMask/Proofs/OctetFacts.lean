/-
Documents as they are before their bytes are read as text.

Taken one by one, the bytes of a document are a document again, whose strings have one
character for each byte (`Spells.octets`). All that JSON is made of but the insides of
strings is one byte a character. So where a value begins and ends can be found before it
is known whether its bytes are text.
-/
import StreamMask.Proofs.GrammarFacts
import StreamMask.Proofs.Utf8Facts

namespace StreamMask.Json

open Text (encode octets)

/-! ## Bytes as characters -/

/-- The bytes of a text, each as the character with its number. -/
def octetsOf (text : List Char) : List Char := octets (encode text)

theorem octets_append (xs ys : List UInt8) : octets (xs ++ ys) = octets xs ++ octets ys :=
  List.map_append

theorem octetsOf_append (xs ys : List Char) : octetsOf (xs ++ ys) = octetsOf xs ++ octetsOf ys := by
  rw [octetsOf, Text.encode_append, octets_append]
  rfl

theorem toNat_octet (b : UInt8) : (Char.ofNat b.toNat).toNat = b.toNat := by
  have hb : b.toNat < 256 := b.toNat_lt
  exact Text.toNat_char_ofNat (.inl (by omega))

theorem octets_injective {xs ys : List UInt8} (h : octets xs = octets ys) : xs = ys := by
  refine (List.map_inj_right fun a b hab => ?_).mp h
  have hnumbers := congrArg Char.toNat hab
  rw [toNat_octet, toNat_octet] at hnumbers
  exact UInt8.toNat_inj.mp hnumbers

/-- Whether each character is written as one byte. -/
def Ascii (text : List Char) : Prop := ∀ c ∈ text, c.toNat < 0x80

theorem utf8EncodeChar_ascii {c : Char} (h : c.toNat < 0x80) :
    String.utf8EncodeChar c = [UInt8.ofNat c.toNat] := by
  have hc := Text.utf8EncodeChar_one (a := UInt8.ofNat c.toNat)
  rw [Text.toNat_ofNat (by omega), Char.ofNat_toNat] at hc
  exact hc h

theorem octetsOf_cons_ascii {c : Char} (h : c.toNat < 0x80) (text : List Char) :
    octetsOf (c :: text) = c :: octetsOf text := by
  rw [octetsOf, Text.encode_cons, utf8EncodeChar_ascii h, octets_append]
  simp only [octets, List.map_cons, List.map_nil]
  rw [Text.toNat_ofNat (by omega), Char.ofNat_toNat]
  rfl

theorem octetsOf_ascii {text : List Char} (h : Ascii text) : octetsOf text = text := by
  induction text with
  | nil => rfl
  | cons c text ih =>
    obtain ⟨hc, htext⟩ := List.forall_mem_cons.mp h
    rw [octetsOf_cons_ascii hc, ih htext]

theorem Blank.ascii {blank : List Char} (h : Blank blank) : Ascii blank := by
  have hblank : ∀ c ∈ [' ', '\t', '\n', '\r'], c.toNat < 0x80 := by simp
  exact fun c hc => hblank c (h c hc)

theorem octetsOf_blank {blank : List Char} (h : Blank blank) : octetsOf blank = blank :=
  octetsOf_ascii h.ascii

/-- The bytes of a character that takes several are no control characters, quotes or backslashes. -/
theorem octets_wide {c : Char} (h : 0x80 ≤ c.toNat) :
    ∀ o ∈ octets (String.utf8EncodeChar c), 0x80 ≤ o.toNat := by
  intro o ho
  obtain ⟨b, hb, rfl⟩ := List.mem_map.mp ho
  rw [toNat_octet]
  exact Text.le_of_mem_utf8EncodeChar (Nat.le_refl _) h b hb

/-! ## Strings -/

/-- The parts of a string whose characters are the bytes of a part. -/
def Part.octets : Part → List Part
  | plain c => (Text.octets (String.utf8EncodeChar c)).map plain
  | letter c => [letter c]
  | unit a b c d => [unit a b c d]

theorem isHex_ascii {c : Char} (h : IsHex c) : c.toNat < 0x80 := by
  rcases h with h | h | h <;> exact Nat.lt_of_le_of_lt h.2 (by decide)

theorem Part.octets_valid {part : Part} (h : part.Valid) : ∀ p ∈ part.octets, p.Valid := by
  cases part with
  | plain c =>
    intro p hp
    obtain ⟨o, ho, rfl⟩ := List.mem_map.mp hp
    by_cases hc : c.toNat < 0x80
    · rw [utf8EncodeChar_ascii hc] at ho
      have ho : o = c := by
        simpa [Text.octets, Text.toNat_ofNat (show c.toNat < 256 by omega), Char.ofNat_toNat] using ho
      exact ho ▸ h
    · have hwide := octets_wide (by omega) o ho
      refine ⟨?_, ?_, by omega⟩
      · rintro rfl
        exact absurd hwide (by decide)
      · rintro rfl
        exact absurd hwide (by decide)
  | letter c => exact List.forall_mem_singleton.mpr h
  | unit a b c d => exact List.forall_mem_singleton.mpr h

theorem Part.octets_text {part : Part} (h : part.Valid) :
    part.octets.flatMap Part.text = octetsOf part.text := by
  cases part with
  | plain c =>
    rw [octets, Part.text, octetsOf, Text.encode_cons, octets_append, List.flatMap_map]
    show (Text.octets _).flatMap (fun c => [c]) = _ ++ []
    rw [List.flatMap_singleton', List.append_nil]
  | letter c =>
    have hletters : ∀ c ∈ ['"', '\\', '/', 'b', 'f', 'n', 'r', 't'], c.toNat < 0x80 := by simp
    have hascii : Ascii ['\\', c] :=
      List.forall_mem_cons.mpr ⟨by decide, List.forall_mem_singleton.mpr (hletters c h)⟩
    rw [Part.text, octetsOf_ascii hascii]
    rfl
  | unit a b c d =>
    obtain ⟨ha, hb, hc, hd⟩ := h
    have hascii : Ascii ['\\', 'u', a, b, c, d] := by
      simp only [Ascii, List.mem_cons, List.not_mem_nil, or_false]
      rintro x (rfl | rfl | rfl | rfl | rfl | rfl)
      · decide
      · decide
      · exact isHex_ascii ha
      · exact isHex_ascii hb
      · exact isHex_ascii hc
      · exact isHex_ascii hd
    rw [Part.text, octetsOf_ascii hascii]
    rfl

theorem octetsOf_parts {parts : List Part} (h : ∀ part ∈ parts, part.Valid) :
    octetsOf (parts.flatMap Part.text) = (parts.flatMap Part.octets).flatMap Part.text := by
  induction parts with
  | nil => rfl
  | cons part parts ih =>
    obtain ⟨hpart, hparts⟩ := List.forall_mem_cons.mp h
    rw [List.flatMap_cons, List.flatMap_cons, List.flatMap_append, octetsOf_append, ih hparts,
      Part.octets_text hpart]

theorem quote_ascii : ('"').toNat < 0x80 := by decide

/-- The bytes of a string are the string of their parts. -/
theorem octetsOf_quoted {parts : List Part} (h : ∀ part ∈ parts, part.Valid) (rest : List Char) :
    octetsOf ('"' :: Part.quoted parts rest) =
        '"' :: Part.quoted (parts.flatMap Part.octets) (octetsOf rest) ∧
      ∀ part ∈ parts.flatMap Part.octets, part.Valid := by
  constructor
  · rw [octetsOf_cons_ascii quote_ascii, Part.quoted, octetsOf_append, octetsOf_parts h,
      octetsOf_cons_ascii quote_ascii, Part.quoted]
  · intro part hpart
    obtain ⟨whole, hwhole, hmem⟩ := List.mem_flatMap.mp hpart
    exact Part.octets_valid (h whole hwhole) part hmem

/-! ## Values -/

theorem Numeral.Valid.ascii {n : Numeral} (h : n.Valid) : Ascii n.text := by
  have hsigns : ∀ c ∈ ['-', '+', '.', 'e', 'E'], c.toNat < 0x80 := by simp
  intro c hc
  rcases h.chars c hc with hdigit | hsign
  · simp only [Char.isDigit, Bool.and_eq_true, decide_eq_true_eq] at hdigit
    exact Nat.lt_of_le_of_lt hdigit.2 (by decide)
  · exact hsigns c hsign

theorem octetsOf_bracket {c d : Char} (hc : c.toNat < 0x80) (hd : d.toNat < 0x80) (text : List Char) :
    octetsOf (c :: (text ++ [d])) = c :: (octetsOf text ++ [d]) := by
  rw [octetsOf_cons_ascii hc, octetsOf_append, octetsOf_cons_ascii hd]
  rfl

mutual

/-- **The bytes of a value are written for a value.** -/
theorem Spells.octets {value : Value} {text : List Char} (h : Spells value text) :
    ∃ value', Spells value' (octetsOf text) := by
  match h with
  | .null => exact ⟨_, .null⟩
  | .bool true => exact ⟨_, .bool true⟩
  | .bool false => exact ⟨_, .bool false⟩
  | .number valid =>
    rw [octetsOf_ascii valid.ascii]
    exact ⟨_, .number valid⟩
  | .string valid =>
    obtain ⟨htext, hvalid⟩ := octetsOf_quoted valid []
    rw [htext]
    exact ⟨_, .string hvalid⟩
  | .emptyArray blanks =>
    rw [octetsOf_bracket (by decide) (by decide), octetsOf_blank blanks]
    exact ⟨_, .emptyArray blanks⟩
  | .array spells =>
    obtain ⟨items, hitems⟩ := spells.octets
    rw [octetsOf_bracket (by decide) (by decide)]
    exact ⟨_, .array hitems⟩
  | .emptyObject blanks =>
    rw [octetsOf_bracket (by decide) (by decide), octetsOf_blank blanks]
    exact ⟨_, .emptyObject blanks⟩
  | .object spells =>
    obtain ⟨fields, hfields⟩ := spells.octets
    rw [octetsOf_bracket (by decide) (by decide)]
    exact ⟨_, .object hfields⟩

theorem SpellsElement.octets {value : Value} {text : List Char} (h : SpellsElement value text) :
    ∃ value', SpellsElement value' (octetsOf text) := by
  match h with
  | .padded blankBefore spells blankAfter =>
    obtain ⟨value', hvalue⟩ := spells.octets
    rw [octetsOf_append, octetsOf_append, octetsOf_blank blankBefore, octetsOf_blank blankAfter]
    exact ⟨_, .padded blankBefore hvalue blankAfter⟩

theorem SpellsItems.octets {items : List Value} {text : List Char} (h : SpellsItems items text) :
    ∃ items', SpellsItems items' (octetsOf text) := by
  match h with
  | .last spells =>
    obtain ⟨item, hitem⟩ := spells.octets
    exact ⟨_, .last hitem⟩
  | .more spells others =>
    obtain ⟨item, hitem⟩ := spells.octets
    obtain ⟨items, hitems⟩ := others.octets
    rw [octetsOf_append, octetsOf_cons_ascii (by decide)]
    exact ⟨_, .more hitem hitems⟩

theorem SpellsField.octets {field : Option String × Value} {text : List Char}
    (h : SpellsField field text) : ∃ field', SpellsField field' (octetsOf text) := by
  match h with
  | .named blankBefore valid blankAfter spells =>
    obtain ⟨value, hvalue⟩ := spells.octets
    obtain ⟨hname, hvalid⟩ := octetsOf_quoted valid _
    rw [octetsOf_append, octetsOf_blank blankBefore, hname, octetsOf_append,
      octetsOf_blank blankAfter, octetsOf_cons_ascii (by decide)]
    exact ⟨_, .named blankBefore hvalid blankAfter hvalue⟩

theorem SpellsFields.octets {fields : List (Option String × Value)} {text : List Char}
    (h : SpellsFields fields text) : ∃ fields', SpellsFields fields' (octetsOf text) := by
  match h with
  | .last spells =>
    obtain ⟨field, hfield⟩ := spells.octets
    exact ⟨_, .last hfield⟩
  | .more spells others =>
    obtain ⟨field, hfield⟩ := spells.octets
    obtain ⟨fields, hfields⟩ := others.octets
    rw [octetsOf_append, octetsOf_cons_ascii (by decide)]
    exact ⟨_, .more hfield hfields⟩

end

end StreamMask.Json
