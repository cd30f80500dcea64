/-
Numbers of JSON: which texts they are, that just those are read, and what they
are worth.
-/
import StreamMask.Json.Number
import StreamMask.Proofs.DigitFacts

namespace StreamMask

namespace Json

/-! ## Numbers as they are written -/

/-- A list of digits that is not empty. -/
def Digits (text : List Char) : Prop := text ≠ [] ∧ text.all Char.isDigit = true

theorem Digits.cons {text : List Char} (h : Digits text) :
    ∃ c rest, text = c :: rest ∧ c.isDigit = true := by
  obtain ⟨hne, hall⟩ := h
  cases text with
  | nil => exact absurd rfl hne
  | cons c rest =>
    rw [List.all_cons, Bool.and_eq_true] at hall
    exact ⟨c, rest, rfl, hall.1⟩

/-- Digits do not begin with anything else. -/
theorem Digits.ne {text : List Char} (h : Digits text) {c : Char} (hc : c.isDigit = false)
    (rest tail : List Char) : text ++ tail ≠ c :: rest := by
  obtain ⟨first, digits, rfl, hfirst⟩ := h.cons
  intro heq
  rw [(List.cons.inj heq).1, hc] at hfirst
  contradiction

/-- An exponent that a JSON number can have. -/
structure Exponent.Valid (exponent : Exponent) : Prop where
  mark : exponent.mark = 'e' ∨ exponent.mark = 'E'
  sign : exponent.sign = none ∨ exponent.sign = some '+' ∨ exponent.sign = some '-'
  digits : Digits exponent.digits

/-- A number that JSON has. -/
structure Numeral.Valid (n : Numeral) : Prop where
  whole : Digits n.whole
  /-- A zero in front stands alone. -/
  lead : ∀ rest, n.whole = '0' :: rest → rest = []
  places : n.places.all Char.isDigit = true
  exponent : ∀ exponent, n.exponent = some exponent → exponent.Valid

/-- Whether the digits before this text end there. -/
def NoDigit : List Char → Prop
  | [] => True
  | c :: _ => c.isDigit = false

/-- Whether a number before this text ends there. -/
def NoNumber : List Char → Prop
  | [] => True
  | c :: _ => c.isDigit = false ∧ c ≠ '.' ∧ c ≠ 'e' ∧ c ≠ 'E'

theorem NoNumber.noDigit {text : List Char} (h : NoNumber text) : NoDigit text := by
  cases text with
  | nil => trivial
  | cons c text => exact h.1

theorem span_digits {digits rest : List Char} (h : digits.all Char.isDigit = true)
    (hrest : NoDigit rest) :
    (digits ++ rest).takeWhile Char.isDigit = digits ∧
      (digits ++ rest).dropWhile Char.isDigit = rest := by
  induction digits with
  | nil =>
    cases rest with
    | nil => exact ⟨rfl, rfl⟩
    | cons c rest =>
      have hc : c.isDigit = false := hrest
      simp only [List.nil_append, List.takeWhile_cons, List.dropWhile_cons, hc, Bool.false_eq_true,
        ↓reduceIte, and_self]
  | cons c digits ih =>
    rw [List.all_cons, Bool.and_eq_true] at h
    obtain ⟨htake, hdrop⟩ := ih h.2
    simp only [List.cons_append, List.takeWhile_cons, List.dropWhile_cons, h.1, ↓reduceIte, htake,
      hdrop, and_self]

theorem dropWhile_noDigit (text : List Char) : NoDigit (text.dropWhile Char.isDigit) := by
  induction text with
  | nil => trivial
  | cons c text ih =>
    rw [List.dropWhile_cons]
    split
    · exact ih
    · next h => exact Bool.eq_false_iff.mpr h

/-! ## Reading numbers -/

theorem readDigits_append {digits rest : List Char} (h : Digits digits) (hrest : NoDigit rest) :
    readDigits (digits ++ rest) = .ok (digits, rest) := by
  obtain ⟨htake, hdrop⟩ := span_digits h.2 hrest
  rw [readDigits, htake, hdrop]
  split
  · exact absurd rfl h.1
  · rfl

theorem readDigits_sound {text digits rest : List Char} (h : readDigits text = .ok (digits, rest)) :
    text = digits ++ rest ∧ Digits digits ∧ NoDigit rest := by
  unfold readDigits at h
  split at h
  · contradiction
  · next hne =>
    cases h
    exact ⟨(List.takeWhile_append_dropWhile ..).symm, ⟨hne, List.all_takeWhile⟩, dropWhile_noDigit text⟩

theorem readWhole_append {whole rest : List Char} (h : Digits whole)
    (lead : ∀ digits, whole = '0' :: digits → digits = []) (hrest : NoDigit rest) :
    readWhole (whole ++ rest) = .ok (whole, rest) := by
  rw [readWhole, readDigits_append h hrest]
  split
  · contradiction
  · next heq =>
    cases heq
    exact absurd (lead _ rfl) (List.cons_ne_nil _ _)
  · next heq =>
    cases heq
    rfl

theorem readWhole_sound {text whole rest : List Char} (h : readWhole text = .ok (whole, rest)) :
    text = whole ++ rest ∧ Digits whole ∧ (∀ digits, whole = '0' :: digits → digits = []) ∧
      NoDigit rest := by
  unfold readWhole at h
  split at h
  · contradiction
  · contradiction
  · next digits rest hne hread =>
    cases h
    obtain ⟨htext, hdigits, hrest⟩ := readDigits_sound hread
    refine ⟨htext, hdigits, ?_, hrest⟩
    intro digits heq
    cases digits with
    | nil => rfl
    | cons digit digits =>
      subst heq
      exact absurd rfl (hne digit digits)

/-- The places of a number with their point. -/
def placesText (places : List Char) : List Char := if places = [] then [] else '.' :: places

/-- An exponent, if there is one. -/
def exponentText (exponent : Option Exponent) : List Char := (exponent.map Exponent.text).getD []

theorem Numeral.text_eq (n : Numeral) : n.text =
    (if n.negative then ['-'] else []) ++ (n.whole ++ (placesText n.places ++ exponentText n.exponent)) := by
  simp only [Numeral.text, placesText, exponentText, List.append_assoc]

/-- Nothing else than digits, signs, a point and a mark is in a number. -/
theorem Numeral.Valid.chars {n : Numeral} (h : n.Valid) :
    ∀ c ∈ n.text, c.isDigit = true ∨ c ∈ ['-', '+', '.', 'e', 'E'] := by
  have hdigits : ∀ {digits : List Char}, digits.all Char.isDigit = true →
      ∀ c ∈ digits, c.isDigit = true ∨ c ∈ ['-', '+', '.', 'e', 'E'] :=
    fun hall c hc => .inl (List.all_eq_true.mp hall c hc)
  intro c hc
  rw [Numeral.text_eq, List.mem_append, List.mem_append, List.mem_append] at hc
  rcases hc with hc | hc | hc | hc
  · split at hc
    · exact .inr (by simp_all)
    · contradiction
  · exact hdigits h.whole.2 c hc
  · unfold placesText at hc
    split at hc
    · contradiction
    · rcases List.mem_cons.mp hc with rfl | hc
      · exact .inr (by decide)
      · exact hdigits h.places c hc
  · cases he : n.exponent with
    | none => rw [he] at hc; contradiction
    | some exponent =>
      rw [he] at hc
      obtain ⟨hmark, hsign, hvalid⟩ := h.exponent exponent he
      rcases List.mem_cons.mp hc with rfl | hc
      · rcases hmark with hmark | hmark <;> exact .inr (by simp [hmark])
      · rcases List.mem_append.mp hc with hc | hc
        · rcases hsign with hsign | hsign | hsign <;> rw [hsign] at hc <;> exact .inr (by simp_all)
        · exact hdigits hvalid.2 c hc

/-- A number is whole if its text has neither a point nor the mark of an exponent. -/
theorem Numeral.Valid.isWhole_iff {n : Numeral} (h : n.Valid) :
    n.isWhole = true ↔ '.' ∉ n.text ∧ 'e' ∉ n.text ∧ 'E' ∉ n.text := by
  have hdigits {c : Char} (hc : c.isDigit = false) : c ∉ n.whole := fun hmem =>
    Bool.false_ne_true (hc.symm.trans (List.all_eq_true.mp h.whole.2 c hmem))
  rw [Numeral.text_eq]
  constructor
  · intro hwhole
    rw [Numeral.isWhole, Bool.and_eq_true, List.isEmpty_iff, Option.isNone_iff_eq_none] at hwhole
    obtain ⟨hplaces, hexponent⟩ := hwhole
    rw [hplaces, hexponent]
    cases n.negative <;> simp [placesText, exponentText, hdigits]
  · rintro ⟨hpoint, hsmall, hgreat⟩
    rw [Numeral.isWhole, Bool.and_eq_true, List.isEmpty_iff, Option.isNone_iff_eq_none]
    constructor
    · cases hplaces : n.places with
      | nil => rfl
      | cons c places => simp [placesText, hplaces] at hpoint
    · cases he : n.exponent with
      | none => rfl
      | some exponent =>
        rcases (h.exponent exponent he).mark with hmark | hmark
        · simp [he, exponentText, Exponent.text, hmark] at hsmall
        · simp [he, exponentText, Exponent.text, hmark] at hgreat

/-- After the places there is no digit. -/
theorem noDigit_exponentText {exponent : Option Exponent} {rest : List Char}
    (h : ∀ e, exponent = some e → e.Valid) (hrest : NoNumber rest) :
    NoDigit (exponentText exponent ++ rest) := by
  cases exponent with
  | none => exact hrest.noDigit
  | some e =>
    show e.mark.isDigit = false
    rcases (h e rfl).mark with hmark | hmark <;> rw [hmark] <;> rfl

theorem noDigit_placesText (places : List Char) {rest : List Char} (hrest : NoDigit rest) :
    NoDigit (placesText places ++ rest) := by
  unfold placesText
  split
  · exact hrest
  · exact (rfl : '.'.isDigit = false)

theorem readPlaces_append {places rest : List Char} (h : places.all Char.isDigit = true)
    (hrest : NoDigit rest) (hpoint : ∀ after, rest ≠ '.' :: after) :
    readPlaces (placesText places ++ rest) = .ok (places, rest) := by
  unfold placesText
  split
  · next hnil =>
    subst hnil
    unfold readPlaces
    split
    · next after heq => exact absurd heq (hpoint after)
    · rfl
  · next hne => exact readDigits_append ⟨hne, h⟩ hrest

theorem readPlaces_sound {text places rest : List Char} (h : readPlaces text = .ok (places, rest))
    (htext : NoDigit text) :
    text = placesText places ++ rest ∧ places.all Char.isDigit = true ∧ NoDigit rest := by
  unfold readPlaces at h
  split at h
  · obtain ⟨heq, hdigits, hrest⟩ := readDigits_sound h
    rw [heq, placesText, if_neg hdigits.1]
    exact ⟨rfl, hdigits.2, hrest⟩
  · cases h
    exact ⟨rfl, rfl, htext⟩

theorem readSign_append {sign : Option Char} {digits rest : List Char}
    (h : sign = none ∨ sign = some '+' ∨ sign = some '-') (hdigits : Digits digits) :
    readSign (sign.toList ++ (digits ++ rest)) = (sign, digits ++ rest) := by
  rcases h with rfl | rfl | rfl
  · show readSign (digits ++ rest) = _
    unfold readSign
    split
    · next heq => exact absurd heq (hdigits.ne rfl _ _)
    · next heq => exact absurd heq (hdigits.ne rfl _ _)
    · rfl
  · rfl
  · rfl

theorem readSign_sound (text : List Char) :
    text = (readSign text).1.toList ++ (readSign text).2 ∧
      ((readSign text).1 = none ∨ (readSign text).1 = some '+' ∨ (readSign text).1 = some '-') := by
  unfold readSign
  split
  · exact ⟨rfl, .inr (.inl rfl)⟩
  · exact ⟨rfl, .inr (.inr rfl)⟩
  · exact ⟨rfl, .inl rfl⟩

theorem readExponent_append {exponent : Option Exponent} {rest : List Char}
    (h : ∀ e, exponent = some e → e.Valid) (hrest : NoNumber rest) :
    readExponent (exponentText exponent ++ rest) = .ok (exponent, rest) := by
  cases exponent with
  | none =>
    cases rest with
    | nil => rfl
    | cons c rest =>
      have hc : ¬(c = 'e' ∨ c = 'E') := fun hmark => hmark.elim hrest.2.2.1 hrest.2.2.2
      show readExponent (c :: rest) = _
      rw [readExponent, if_neg hc]
  | some e =>
    obtain ⟨hmark, hsign, hdigits⟩ := h e rfl
    show readExponent (e.mark :: (e.sign.toList ++ e.digits) ++ rest) = _
    rw [List.cons_append, List.append_assoc, readExponent, if_pos hmark, readSign_append hsign hdigits]
    simp only [readDigits_append hdigits hrest.noDigit, Except.map]

theorem readExponent_sound {text rest : List Char} {exponent : Option Exponent}
    (h : readExponent text = .ok (exponent, rest)) :
    text = exponentText exponent ++ rest ∧ ∀ e, exponent = some e → e.Valid := by
  unfold readExponent at h
  split at h
  · cases h
    exact ⟨rfl, fun _ he => nomatch he⟩
  · next mark after =>
    split at h
    · next hmark =>
      obtain ⟨hafter, hsign⟩ := readSign_sound after
      generalize readSign after = signed at h hafter hsign
      obtain ⟨sign, digits⟩ := signed
      cases hread : readDigits digits with
      | error stop =>
        simp only [hread, Except.map] at h
        contradiction
      | ok read =>
        obtain ⟨digits', rest'⟩ := read
        simp only [hread, Except.map] at h
        cases h
        obtain ⟨heq, hdigits, -⟩ := readDigits_sound hread
        refine ⟨?_, ?_⟩
        · show mark :: after = mark :: (sign.toList ++ digits') ++ rest
          rw [hafter, heq, List.cons_append, List.append_assoc]
        · intro e he
          cases he
          exact ⟨hmark, hsign, hdigits⟩
    · cases h
      exact ⟨rfl, fun _ he => nomatch he⟩

theorem noPoint {exponent : Option Exponent} {rest : List Char}
    (h : ∀ e, exponent = some e → e.Valid) (hrest : NoNumber rest) (after : List Char) :
    exponentText exponent ++ rest ≠ '.' :: after := by
  intro heq
  cases exponent with
  | none =>
    have : rest = '.' :: after := heq
    subst this
    exact hrest.2.1 rfl
  | some e =>
    have hmark := (h e rfl).mark
    rw [(List.cons.inj heq).1] at hmark
    exact absurd hmark (by decide)

theorem readUnsigned_append {n : Numeral} (h : n.Valid) {rest : List Char} (hrest : NoNumber rest) :
    readUnsigned n.negative
      (n.whole ++ (placesText n.places ++ exponentText n.exponent) ++ rest) = .ok (n, rest) := by
  have hexp : NoDigit (exponentText n.exponent ++ rest) := noDigit_exponentText h.exponent hrest
  rw [List.append_assoc, List.append_assoc, readUnsigned,
    readWhole_append h.whole h.lead (noDigit_placesText n.places hexp)]
  simp only [readPlaces_append h.places hexp (noPoint h.exponent hrest),
    readExponent_append h.exponent hrest, Except.map]

/-- **Numbers are read.** A number is read where no number goes on after it. -/
theorem readNumeral_append {n : Numeral} (h : n.Valid) {rest : List Char} (hrest : NoNumber rest) :
    readNumeral (n.text ++ rest) = .ok (n, rest) := by
  have hread := readUnsigned_append h hrest
  rw [Numeral.text_eq]
  cases hneg : n.negative with
  | true =>
    rw [hneg] at hread
    exact hread
  | false =>
    rw [hneg] at hread
    show readNumeral (n.whole ++ (placesText n.places ++ exponentText n.exponent) ++ rest) = _
    unfold readNumeral
    split
    · next heq =>
      rw [List.append_assoc] at heq
      exact absurd heq (h.whole.ne rfl _ _)
    · exact hread

/-- A text is that of one number at most. -/
theorem Numeral.Valid.eq_of_text {n m : Numeral} (h : n.Valid) (h' : m.Valid) (htext : n.text = m.text) :
    n = m := by
  have hread := readNumeral_append h (show NoNumber [] from trivial)
  rw [htext, readNumeral_append h' (show NoNumber [] from trivial)] at hread
  cases hread
  rfl

theorem readUnsigned_sound {negative : Bool} {text rest : List Char} {n : Numeral}
    (h : readUnsigned negative text = .ok (n, rest)) :
    n.negative = negative ∧ n.Valid ∧
      text = n.whole ++ (placesText n.places ++ exponentText n.exponent) ++ rest := by
  unfold readUnsigned at h
  cases hwhole : readWhole text with
  | error stop => simp only [hwhole] at h; contradiction
  | ok read =>
    obtain ⟨whole, afterWhole⟩ := read
    obtain ⟨htext, hdigits, hlead, hnoDigit⟩ := readWhole_sound hwhole
    simp only [hwhole] at h
    cases hplaces : readPlaces afterWhole with
    | error stop => simp only [hplaces] at h; contradiction
    | ok read =>
      obtain ⟨places, afterPlaces⟩ := read
      obtain ⟨hafter, hall, -⟩ := readPlaces_sound hplaces hnoDigit
      simp only [hplaces] at h
      cases hexponent : readExponent afterPlaces with
      | error stop => simp only [hexponent, Except.map] at h; contradiction
      | ok read =>
        obtain ⟨exponent, afterExponent⟩ := read
        obtain ⟨heq, hvalid⟩ := readExponent_sound hexponent
        simp only [hexponent, Except.map] at h
        cases h
        refine ⟨rfl, ⟨hdigits, hlead, hall, hvalid⟩, ?_⟩
        rw [htext, hafter, heq]
        simp only [List.append_assoc]

/-- **Only numbers are read.** -/
theorem readNumeral_sound {text rest : List Char} {n : Numeral}
    (h : readNumeral text = .ok (n, rest)) : n.Valid ∧ text = n.text ++ rest := by
  rw [Numeral.text_eq]
  unfold readNumeral at h
  split at h
  · obtain ⟨hneg, hvalid, heq⟩ := readUnsigned_sound h
    rw [hneg, heq]
    exact ⟨hvalid, rfl⟩
  · obtain ⟨hneg, hvalid, heq⟩ := readUnsigned_sound h
    rw [hneg, heq]
    exact ⟨hvalid, rfl⟩

/-! ## What numbers are worth -/

/-- All digits of a number, as a whole number. -/
def Numeral.coefficient (n : Numeral) : Nat :=
  Text.digitsValue (Text.digitsValue 0 n.whole) n.places

/-- The power of ten that an exponent counts. -/
def Exponent.value (exponent : Exponent) : Int :=
  let n : Int := Text.digitsValue 0 exponent.digits
  if exponent.sign = some '-' then -n else n

/-- The power of ten that the last digit of a number counts. -/
def Numeral.scale (n : Numeral) : Int :=
  (n.exponent.map Exponent.value).getD 0 - n.places.length

theorem binary64_readExponent {exponent : Option Exponent}
    (h : ∀ e, exponent = some e → e.Valid) :
    Binary64.readExponent (exponentText exponent) = some ((exponent.map Exponent.value).getD 0) := by
  cases exponent with
  | none => rfl
  | some e =>
    obtain ⟨hmark, hsign, hdigits⟩ := h e rfl
    obtain ⟨mark, sign, digits⟩ := e
    have hsplit : digits ≠ [] ∧ digits.all Char.isDigit = true := hdigits
    show Binary64.readExponent (mark :: (sign.toList ++ digits)) =
      some (Exponent.value ⟨mark, sign, digits⟩)
    unfold Binary64.readExponent
    simp only [if_pos hmark]
    rcases hsign with rfl | rfl | rfl
    · simp only [Option.toList_none, List.nil_append]
      split
      · exact absurd (List.append_nil _) (hdigits.ne rfl _ _)
      · exact absurd (List.append_nil _) (hdigits.ne rfl _ _)
      · exact if_pos hsplit
    · exact if_pos hsplit
    · exact if_pos hsplit

theorem binary64_readUnsigned {n : Numeral} (h : n.Valid) (negative : Bool) :
    Binary64.readUnsigned negative (n.whole ++ (placesText n.places ++ exponentText n.exponent)) =
      some (Binary64.ofDecimal negative n.coefficient n.scale) := by
  have hexp : NoDigit (exponentText n.exponent) := by
    have hrest : NoDigit (exponentText n.exponent ++ []) := noDigit_exponentText h.exponent trivial
    rwa [List.append_nil] at hrest
  have hpoint : ∀ after, exponentText n.exponent ≠ '.' :: after := by
    intro after
    have hend : NoNumber [] := trivial
    have hrest := noPoint h.exponent hend after
    rwa [List.append_nil] at hrest
  obtain ⟨htake, hdrop⟩ := span_digits h.whole.2 (noDigit_placesText n.places hexp)
  have hvalue := binary64_readExponent h.exponent
  unfold Binary64.readUnsigned
  simp only [htake, hdrop]
  by_cases hplaces : n.places = []
  · rw [placesText, if_pos hplaces, List.nil_append, Numeral.coefficient, Numeral.scale, hplaces]
    split
    · next heq => exact absurd heq (hpoint _)
    · simp only [h.whole.1, false_and, ↓reduceIte, hvalue, Option.map_some]
  · obtain ⟨htake', hdrop'⟩ := span_digits h.places hexp
    rw [placesText, if_neg hplaces]
    simp only [List.cons_append, htake', hdrop', h.whole.1, false_and, ↓reduceIte, hvalue,
      Option.map_some, Numeral.coefficient, Numeral.scale]

/-- **What a number is worth as a float.** -/
theorem ofText?_text {n : Numeral} (h : n.Valid) :
    Binary64.ofText? n.text = some (Binary64.ofDecimal n.negative n.coefficient n.scale) := by
  have hread := binary64_readUnsigned h n.negative
  rw [Numeral.text_eq]
  cases hneg : n.negative with
  | true =>
    rw [hneg] at hread
    exact hread
  | false =>
    rw [hneg] at hread
    show Binary64.ofText? (n.whole ++ (placesText n.places ++ exponentText n.exponent)) = _
    unfold Binary64.ofText?
    split
    · next heq => exact absurd heq (h.whole.ne rfl _ _)
    · next heq => exact absurd heq (h.whole.ne rfl _ _)
    · exact hread

/-! ## Integers -/

theorem natural?_of_not_whole {n : Numeral} (h : n.Valid) (hn : n.isWhole = false) :
    Text.natural? (n.whole ++ (placesText n.places ++ exponentText n.exponent)) = none := by
  rw [Option.eq_none_iff_forall_ne_some]
  intro k hk
  have hall := Text.natural?_isDigit hk
  rw [List.all_append, List.all_append, Bool.and_eq_true, Bool.and_eq_true] at hall
  obtain ⟨-, hplaces, hexponent⟩ := hall
  have hnil : n.places = [] := by
    by_cases hnil : n.places = []
    · exact hnil
    · rw [placesText, if_neg hnil, List.all_cons] at hplaces
      contradiction
  cases he : n.exponent with
  | none =>
    rw [Numeral.isWhole, hnil, he] at hn
    contradiction
  | some e =>
    have hmark := (h.exponent e he).mark
    rw [he] at hexponent
    rcases hmark with hmark | hmark <;> simp [exponentText, Exponent.text, hmark] at hexponent

theorem integer?_negative {digits : List Char} {n : Nat} (h : Text.natural? digits = some (n + 1)) :
    integer? ('-' :: digits) =
      if n + 1 ≤ twoTo 63 then some (Int64.ofInt (-(n + 1 : Nat))) else none := by
  simp only [integer?, h]

theorem integer?_negative_none {digits : List Char} (h : Text.natural? digits = none) :
    integer? ('-' :: digits) = none := by
  simp only [integer?, h]

/-- A number with a point or an exponent is no integer. -/
theorem integer?_of_not_whole {n : Numeral} (h : n.Valid) (hn : n.isWhole = false) :
    integer? n.text = none := by
  have hnone := natural?_of_not_whole h hn
  rw [Numeral.text_eq]
  cases n.negative with
  | true => exact integer?_negative_none hnone
  | false =>
    show integer? (n.whole ++ (placesText n.places ++ exponentText n.exponent)) = none
    unfold integer?
    split
    · next heq => exact absurd heq (h.whole.ne rfl _ _)
    · rw [hnone]

theorem toDigits_digits (n : Nat) : Digits (Nat.toDigits 10 n) :=
  ⟨Nat.toDigits_ne_nil, Text.toDigits_isDigit n⟩

theorem toDigits_lead (n : Nat) (rest : List Char) (h : Nat.toDigits 10 n = '0' :: rest) :
    rest = [] := by
  by_cases hn : n = 0
  · subst hn
    exact (List.cons.inj h).2.symm
  · obtain ⟨first, digits, heq, hne⟩ := Text.toDigits_head (n := n) (by omega)
    rw [heq] at h
    exact absurd (List.cons.inj h).1 hne

/-- An integer as JSON writes it. -/
def Numeral.ofInt : Int → Numeral
  | .ofNat n => ⟨false, Nat.toDigits 10 n, [], none⟩
  | .negSucc n => ⟨true, Nat.toDigits 10 (n + 1), [], none⟩

theorem Numeral.ofInt_valid (i : Int) : (Numeral.ofInt i).Valid := by
  cases i with
  | ofNat n => exact ⟨toDigits_digits n, toDigits_lead n, rfl, fun _ h => nomatch h⟩
  | negSucc n => exact ⟨toDigits_digits (n + 1), toDigits_lead (n + 1), rfl, fun _ h => nomatch h⟩

theorem Numeral.ofInt_text (i : Int) : (Numeral.ofInt i).text = (toString i).toList := by
  cases i with
  | ofNat n =>
    show Nat.toDigits 10 n ++ [] ++ [] = (toString n).toList
    rw [List.append_nil, List.append_nil, Nat.toString_eq_repr, Nat.toList_repr]
  | negSucc n =>
    show ['-'] ++ Nat.toDigits 10 (n + 1) ++ [] ++ [] = ("-" ++ toString (n + 1)).toList
    rw [List.append_nil, List.append_nil, String.toList_append, Nat.toString_eq_repr, Nat.toList_repr]
    rfl

theorem integer?_natural (n : Nat) : integer? (Numeral.ofInt n).text =
    if n < twoTo 63 then some (Int64.ofNat n) else none := by
  show integer? (Nat.toDigits 10 n ++ [] ++ []) = _
  rw [List.append_nil]
  unfold integer?
  split
  · next heq => exact absurd heq ((toDigits_digits n).ne rfl _ _)
  · rw [List.append_nil, Text.natural?_toDigits]

theorem integer?_integerText (value : Int64) :
    integer? (Scalar.integerText value).toList = some value := by
  have hlt := value.toInt_lt
  have hle := value.le_toInt
  have hvalue := Int64.ofInt_toInt value
  rw [Scalar.integerText, ← Numeral.ofInt_text]
  cases hint : value.toInt with
  | ofNat n =>
    rw [hint, Int.ofNat_eq_natCast] at hlt hvalue
    have hn : n < twoTo 63 := by
      rw [twoTo_eq]
      omega
    rw [Int.ofNat_eq_natCast, integer?_natural, if_pos hn, ← Int64.ofInt_eq_ofNat, hvalue]
  | negSucc n =>
    rw [hint] at hle hvalue
    show integer? ('-' :: (Nat.toDigits 10 (n + 1) ++ [] ++ [])) = some value
    have hn : n + 1 ≤ twoTo 63 := by rw [twoTo_eq]; omega
    rw [List.append_nil, List.append_nil, integer?_negative (Text.natural?_toDigits (n + 1)), if_pos hn]
    exact congrArg some hvalue

/-- **A number is read as an integer just if it is the decimal text of that integer.** -/
theorem integer?_eq_some {text : List Char} {value : Int64} :
    integer? text = some value ↔ text = (Scalar.integerText value).toList := by
  refine ⟨fun h => ?_, fun h => h ▸ integer?_integerText value⟩
  unfold integer? at h
  split at h
  · next digits =>
    split at h
    · next n hn =>
      obtain ⟨hle, hvalue⟩ := Option.ite_none_right_eq_some.mp h
      rw [twoTo_eq] at hle
      rw [Scalar.integerText, ← Numeral.ofInt_text, ← Option.some.inj hvalue,
        Int64.toInt_ofInt_of_le (by omega) (by omega), Text.natural?_eq_some.mp hn]
      show _ = '-' :: (Nat.toDigits 10 (n + 1) ++ [] ++ [])
      simp
    · contradiction
  · split at h
    · next n hn =>
      obtain ⟨hlt, hvalue⟩ := Option.ite_none_right_eq_some.mp h
      rw [twoTo_eq] at hlt
      rw [Scalar.integerText, ← Numeral.ofInt_text, ← Option.some.inj hvalue,
        Int64.toInt_ofNat_of_lt hlt, Text.natural?_eq_some.mp hn]
      show _ = Nat.toDigits 10 n ++ [] ++ []
      simp
    · contradiction

end Json

/-! ## The scalars of numbers -/

namespace Scalar

open Json

variable {n : Numeral}

/-- What scalar a number can be, and when. -/
inductive OfNumeral (n : Numeral) : Scalar → Prop where
  | integer {value : Int64} (text : n.text = (integerText value).toList) : OfNumeral n (.integer value)
  | bigInteger (whole : n.isWhole = true) (big : ∀ value, n.text ≠ (integerText value).toList) :
      OfNumeral n (.bigInteger (String.ofList n.text))
  | float {x : Binary64} (hasPart : n.isWhole = false) (value : Binary64.ofText? n.text = some x)
      (finite : x.isFinite = true) (text : Layout.json.render x = String.ofList n.text) :
      OfNumeral n (.float x)
  | bigDecimal (hasPart : n.isWhole = false) : OfNumeral n (.bigDecimal (String.ofList n.text))

theorem ofNumeral_spec (n : Numeral) : OfNumeral n (ofNumeral n) := by
  unfold ofNumeral
  split
  · next value hvalue => exact .integer (integer?_eq_some.mp hvalue)
  · next hnone =>
    split
    · next hwhole =>
      refine .bigInteger hwhole fun value htext => ?_
      rw [integer?_eq_some.mpr htext] at hnone
      contradiction
    · next hpart =>
      rw [Bool.not_eq_true] at hpart
      split
      · exact .bigDecimal hpart
      · next x hx =>
        dsimp only
        split
        · next hfloat => exact .float hpart hx hfloat.1 hfloat.2
        · exact .bigDecimal hpart

/-- A number is an integer just if it is the decimal text of one that 64 bits hold. -/
theorem ofNumeral_eq_integer {value : Int64} :
    ofNumeral n = .integer value ↔ n.text = (integerText value).toList := by
  constructor
  · intro h
    have hscalar := ofNumeral_spec n
    rw [h] at hscalar
    cases hscalar with
    | integer text => exact text
  · intro h
    rw [ofNumeral, integer?_eq_some.mpr h]

/-- A number keeps its digits just if it is whole and no such integer. -/
theorem ofNumeral_eq_bigInteger {digits : String} :
    ofNumeral n = .bigInteger digits ↔
      digits = String.ofList n.text ∧ n.isWhole = true ∧
        ∀ value : Int64, n.text ≠ (integerText value).toList := by
  constructor
  · intro h
    have hscalar := ofNumeral_spec n
    rw [h] at hscalar
    cases hscalar with
    | bigInteger whole big => exact ⟨rfl, whole, big⟩
  · rintro ⟨rfl, hwhole, hbig⟩
    have hscalar := ofNumeral_spec n
    generalize ofNumeral n = scalar at hscalar ⊢
    cases hscalar with
    | integer text => exact absurd text (hbig _)
    | bigInteger => rfl
    | float hasPart => exact absurd (hwhole.symm.trans hasPart) Bool.noConfusion
    | bigDecimal hasPart => exact absurd (hwhole.symm.trans hasPart) Bool.noConfusion

end Scalar

namespace Json

theorem ofNumeral_ofInt (value : Int64) :
    Scalar.ofNumeral (Numeral.ofInt value.toInt) = .integer value :=
  Scalar.ofNumeral_eq_integer.mpr (Numeral.ofInt_text _)

/-- A natural number is worth what its digits say. -/
theorem ofNumeral_ofNat (n : Nat) : Scalar.ofNumeral (Numeral.ofInt n) = Scalar.ofNat n := by
  rw [Scalar.ofNumeral, integer?_natural, Scalar.ofNat]
  by_cases h : n < twoTo 63
  · rw [if_pos h, if_pos h]
  · rw [if_neg h, if_neg h, Numeral.ofInt_text, String.ofList_toList]
    rfl

end Json
end StreamMask
