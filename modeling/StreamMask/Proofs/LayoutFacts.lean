/-
Floats as they are written, proved to be numbers that are worth those floats.

There are four forms: all digits after the point, zeros between the digits and the
point, a point among the digits, and an exponent. In each of them the text is a
number whose digits and scale are those of the decimal, but for zeros at the end
(`Writes`). Layouts differ in the forms they choose and in how many zeros stand after
the point of a whole number.
-/
import StreamMask.Proofs.NumeralFacts
import StreamMask.Proofs.ShortestFacts

namespace StreamMask

open Json

namespace Layout

/-! ## The numbers that are written -/

/-- The number that digits without an exponent are, the first of them counting `10 ^ e`; `tail` is how
many zeros stand after the point of a whole number. -/
def placedNumeral (tail : Nat) (negative : Bool) (digits : List Char) (e : Int) : Numeral :=
  if e < 0 then ⟨negative, ['0'], List.replicate ((-e).toNat - 1) '0' ++ digits, none⟩
  else
    let whole := e.toNat + 1
    if digits.length ≤ whole then
      ⟨negative, digits ++ List.replicate (whole - digits.length) '0', List.replicate tail '0', none⟩
    else ⟨negative, digits.take whole, digits.drop whole, none⟩

/-- The number that digits with an exponent are. -/
def exponentNumeral (negative : Bool) (digits : List Char) (e : Int) : Numeral :=
  ⟨negative, digits.take 1, digits.drop 1,
    some ⟨'e', some (if e < 0 then '-' else '+'), Nat.toDigits 10 e.natAbs⟩⟩

/-- The number that a decimal is written as. -/
def decimalNumeral (layout : Layout) (tail : Nat) (negative : Bool) (d : Decimal) : Numeral :=
  let digits := Nat.toDigits 10 d.coefficient
  let e := d.scale + digits.length - 1
  if layout.positional e then placedNumeral tail negative digits e
  else exponentNumeral negative digits e

/-- The number that a finite float is written as. -/
def numeral (layout : Layout) (tail : Nat) (x : Binary64) : Numeral :=
  if x.isZero then placedNumeral tail x.negative ['0'] 0
  else layout.decimalNumeral tail x.negative (x.shortest layout.tie)

/-- Whether so many zeros stand after the point of a whole number, and no point if there are none. -/
def EndsIn (layout : Layout) (tail : Nat) : Prop :=
  layout.wholeEnd.toList = placesText (List.replicate tail '0')

theorem json_endsIn : json.EndsIn 1 := rfl

theorem plain_endsIn : plain.EndsIn 0 := rfl

/-- Whether a text without its sign is that of a number with these digits, the first of them counting
`10 ^ e`. -/
structure Writes (n : Numeral) (negative : Bool) (digits : List Char) (e : Int) (text : List Char) :
    Prop where
  valid : n.Valid
  sign : n.negative = negative
  spells : n.text = (if negative then ['-'] else []) ++ text
  worth : ∃ count : Nat, n.coefficient = Text.digitsValue 0 digits * 10 ^ count ∧
    n.scale + count = e + 1 - digits.length

/-! ## The four forms -/

theorem zeros_digits (count : Nat) : (List.replicate count '0').all Char.isDigit = true := by
  rw [List.all_replicate]
  split <;> rfl

variable {layout : Layout} {tail : Nat} {negative : Bool} {digits : List Char} {e : Int}

theorem writes_small (hdigits : Digits digits) (he : e < 0) :
    Writes (placedNumeral tail negative digits e) negative digits e (layout.placed digits e).toList := by
  have hne : List.replicate ((-e).toNat - 1) '0' ++ digits ≠ [] :=
    fun h => hdigits.1 (List.append_eq_nil_iff.mp h).2
  rw [placedNumeral, placed, if_pos he, if_pos he]
  refine ⟨⟨⟨List.cons_ne_nil _ _, rfl⟩, ?_, ?_, fun _ h => nomatch h⟩, rfl, ?_, 0, ?_, ?_⟩
  · intro rest h
    exact (List.cons.inj h).2.symm
  · rw [List.all_append, zeros_digits, hdigits.2]
    rfl
  · rw [Numeral.text_eq, placesText, if_neg hne]
    simp [exponentText, zeros]
  · rw [Numeral.coefficient, Text.digitsValue_append, Text.digitsValue_zeros]
    simp [Text.digitsValue, Text.digitValue]
  · simp only [Numeral.scale, Option.map_none, Option.getD_none, List.length_append,
      List.length_replicate]
    omega

/-- Whether digits begin with something else than a zero. -/
def Leading (digits : List Char) : Prop := ∀ rest, digits ≠ '0' :: rest

theorem writes_whole (hend : layout.EndsIn tail) (hdigits : Digits digits)
    (hlead : Leading digits ∨ digits = ['0'] ∧ e = 0) (he : ¬e < 0) (hle : digits.length ≤ e.toNat + 1) :
    Writes (placedNumeral tail negative digits e) negative digits e (layout.placed digits e).toList := by
  simp only [placedNumeral, placed, if_neg he, if_pos hle]
  refine ⟨⟨⟨?_, ?_⟩, ?_, zeros_digits tail, fun _ h => nomatch h⟩, rfl, ?_,
    e.toNat + 1 - digits.length + tail, ?_, ?_⟩
  · exact fun h => hdigits.1 (List.append_eq_nil_iff.mp h).1
  · rw [List.all_append, zeros_digits, hdigits.2]
    rfl
  · intro rest h
    rcases hlead with hlead | ⟨rfl, rfl⟩
    · obtain ⟨c, tail, rfl, -⟩ := hdigits.cons
      exact absurd (congrArg (· :: tail) (List.cons.inj h).1) (hlead tail)
    · exact (List.cons.inj h).2.symm
  · rw [String.toList_append, hend, Numeral.text_eq]
    simp [exponentText, zeros]
  · rw [Numeral.coefficient, Text.digitsValue_append, Text.digitsValue_zeros, Text.digitsValue_zeros,
      Nat.pow_add, Nat.mul_assoc]
  · simp only [Numeral.scale, Option.map_none, Option.getD_none, List.length_replicate]
    omega

theorem writes_split (hdigits : Digits digits) (hlead : Leading digits) (he : ¬e < 0)
    (hlt : ¬digits.length ≤ e.toNat + 1) :
    Writes (placedNumeral tail negative digits e) negative digits e (layout.placed digits e).toList := by
  have hall := hdigits.2
  rw [← List.take_append_drop (e.toNat + 1) digits, List.all_append, Bool.and_eq_true] at hall
  have hne : digits.drop (e.toNat + 1) ≠ [] := by
    rw [ne_eq, List.drop_eq_nil_iff]
    exact hlt
  simp only [placedNumeral, placed, if_neg he, if_neg hlt]
  refine ⟨⟨⟨?_, hall.1⟩, ?_, hall.2, fun _ h => nomatch h⟩, rfl, ?_, 0, ?_, ?_⟩
  · exact fun h => hdigits.1 ((List.take_eq_nil_iff.mp h).resolve_left (by omega))
  · intro rest h
    obtain ⟨c, tail, rfl, -⟩ := hdigits.cons
    rw [List.take_succ_cons] at h
    exact absurd (congrArg (· :: tail) (List.cons.inj h).1) (hlead tail)
  · rw [Numeral.text_eq, placesText, if_neg hne]
    simp [exponentText]
  · rw [Numeral.coefficient, ← Text.digitsValue_append, List.take_append_drop, Nat.pow_zero,
      Nat.mul_one]
  · simp only [Numeral.scale, Option.map_none, Option.getD_none, List.length_drop]
    omega

theorem writes_placed (hend : layout.EndsIn tail) (hdigits : Digits digits)
    (hlead : Leading digits ∨ digits = ['0'] ∧ e = 0) :
    Writes (placedNumeral tail negative digits e) negative digits e (layout.placed digits e).toList := by
  by_cases he : e < 0
  · exact writes_small hdigits he
  · by_cases hle : digits.length ≤ e.toNat + 1
    · exact writes_whole hend hdigits hlead he hle
    · rcases hlead with hlead | ⟨rfl, rfl⟩
      · exact writes_split hdigits hlead he hle
      · exact absurd (Nat.le_refl 1) hle

theorem writes_exponent (hdigits : Digits digits) :
    Writes (exponentNumeral negative digits e) negative digits e (withExponent digits e).toList := by
  obtain ⟨c, rest, rfl, hc⟩ := hdigits.cons
  have hall := hdigits.2
  rw [List.all_cons, Bool.and_eq_true] at hall
  refine ⟨⟨⟨List.cons_ne_nil _ _, ?_⟩, ?_, hall.2, ?_⟩, rfl, ?_, 0, ?_, ?_⟩
  · show [c].all Char.isDigit = true
    rw [List.all_cons, hall.1]
    rfl
  · intro digits h
    exact (List.cons.inj h).2.symm
  · intro exponent h
    cases h
    refine ⟨.inl rfl, ?_, toDigits_digits _⟩
    dsimp only
    split
    · exact .inr (.inr rfl)
    · exact .inr (.inl rfl)
  · have hsign : (if e < 0 then "-" else "+").toList = [if e < 0 then '-' else '+'] := by
      split <;> rfl
    rw [Numeral.text_eq]
    unfold withExponent exponentNumeral
    simp only [String.toList_append, hsign, Nat.toString_eq_repr, Nat.toList_repr]
    cases rest with
    | nil => simp [placesText, exponentText, Exponent.text]
    | cons second rest => simp [placesText, exponentText, Exponent.text]
  · rw [Numeral.coefficient, ← Text.digitsValue_append, Nat.pow_zero, Nat.mul_one]
    rfl
  · simp only [exponentNumeral, Numeral.scale, Exponent.value, Text.digitsValue_toDigits, Option.map_some,
      Option.getD_some, List.length_cons, List.drop_succ_cons, List.drop_zero]
    have hvalue : (if (some (if e < 0 then '-' else '+') : Option Char) = some '-'
        then -(e.natAbs : Int) else e.natAbs) = e := by
      by_cases he : e < 0
      · simp only [if_pos he, ↓reduceIte]
        omega
      · simp only [if_neg he, Option.some.injEq, Char.reduceEq, ↓reduceIte]
        omega
    rw [hvalue]
    omega

/-! ## Decimals and floats -/

theorem toDigits_leading {n : Nat} (h : 0 < n) : Leading (Nat.toDigits 10 n) := by
  intro rest heq
  obtain ⟨first, digits, hcons, hne⟩ := Text.toDigits_head h
  rw [hcons] at heq
  exact hne (List.cons.inj heq).1

/-- **Each decimal is written as a number of its value.** -/
theorem writes_decimal (hend : layout.EndsIn tail) (negative : Bool) {d : Decimal}
    (hd : 0 < d.coefficient) :
    Writes (layout.decimalNumeral tail negative d) negative (Nat.toDigits 10 d.coefficient)
      (d.scale + (Nat.toDigits 10 d.coefficient).length - 1) (layout.decimal d).toList := by
  have hdigits := toDigits_digits d.coefficient
  have hlead := toDigits_leading hd
  rw [decimalNumeral, decimal]
  generalize Nat.toDigits 10 d.coefficient = digits at *
  split
  · exact writes_placed hend hdigits (.inl hlead)
  · exact writes_exponent hdigits

/-- A number that writes a decimal has its coefficient, but for zeros at the end. -/
theorem Writes.decimal {n : Numeral} {d : Decimal} {text : List Char}
    (h : Writes n negative (Nat.toDigits 10 d.coefficient)
      (d.scale + (Nat.toDigits 10 d.coefficient).length - 1) text) :
    ∃ count : Nat, n.coefficient = d.coefficient * 10 ^ count ∧ n.scale + count = d.scale := by
  obtain ⟨count, hcoefficient, hscale⟩ := h.worth
  rw [Text.digitsValue_toDigits] at hcoefficient
  exact ⟨count, hcoefficient, by omega⟩

/-- A number that writes a decimal in the interval of a float is worth that float. -/
theorem Writes.ofText? {n : Numeral} {x : Binary64} {d : Decimal} {text : List Char}
    (hfinite : x.isFinite = true) (hx : 0 < x.significand) (hd : x.CoversDecimal d.coefficient d.scale)
    (h : Writes n x.negative (Nat.toDigits 10 d.coefficient)
      (d.scale + (Nat.toDigits 10 d.coefficient).length - 1) text) :
    Binary64.ofText? n.text = some x := by
  obtain ⟨count, hcoefficient, hscale⟩ := h.decimal
  have hcovers : x.CoversDecimal n.coefficient n.scale := by
    rw [hcoefficient, Binary64.coversDecimal_tens, hscale]
    exact hd
  rw [ofText?_text h.valid, h.sign, Binary64.ofDecimal_eq hfinite hx hcovers]

theorem placedNumeral_not_whole (hdigits : Digits digits) :
    (placedNumeral (tail + 1) negative digits e).isWhole = false := by
  unfold placedNumeral
  split
  · simp [Numeral.isWhole, hdigits.1]
  · dsimp only
    split
    · rfl
    · next hle => simpa [Numeral.isWhole] using hle

/-- With a zero after the point no float is written as a whole number. -/
theorem numeral_not_whole (layout : Layout) (tail : Nat) (x : Binary64) :
    (layout.numeral (tail + 1) x).isWhole = false := by
  unfold numeral decimalNumeral
  split
  · exact placedNumeral_not_whole ⟨List.cons_ne_nil _ _, rfl⟩
  · dsimp only
    split
    · exact placedNumeral_not_whole (toDigits_digits _)
    · simp [Numeral.isWhole, exponentNumeral]

end Layout

namespace Binary64

theorem isNaN_of_isFinite {x : Binary64} (h : x.isFinite = true) : x.isNaN = false := by
  have hne : x.exponentField ≠ 2047 := by simpa [isFinite] using h
  simp [isNaN, hne]

theorem isInfinite_of_isFinite {x : Binary64} (h : x.isFinite = true) : x.isInfinite = false := by
  have hne : x.exponentField ≠ 2047 := by simpa [isFinite] using h
  simp [isInfinite, hne]

/-- What is not finite is not a number or infinite. -/
theorem isNaN_or_isInfinite {x : Binary64} (h : x.isFinite = false) :
    x.isNaN = true ∨ x.isInfinite = true := by
  have hfield : x.exponentField = 2047 := by simpa [isFinite] using h
  by_cases hfraction : x.fraction = 0
  · exact .inr (by simp [isInfinite, hfield, hfraction])
  · exact .inl (by simp [isNaN, hfield, hfraction])

theorem significand_pos {x : Binary64} (h : x.isZero = false) : 0 < x.significand := by
  simp only [isZero, Bool.and_eq_false_iff, beq_eq_false_iff_ne, ne_eq] at h
  simp only [significand, twoTo_eq]
  split <;> omega

theorem assemble_zero {x : Binary64} (h : x.isZero = true) : assemble x.negative 0 0 = x := by
  have hfields := assemble_fields x
  simp only [isZero, Bool.and_eq_true, beq_iff_eq] at h
  simpa only [significand, unit, h.1, h.2, ↓reduceIte] using hfields

/-- **What is written for a float is a number that is worth it.** -/
theorem render_numeral {layout : Layout} {tail : Nat} (hend : layout.EndsIn tail) {x : Binary64}
    (hx : x.isFinite = true) :
    (layout.numeral tail x).Valid ∧ (layout.numeral tail x).text = (layout.render x).toList ∧
      ofText? (layout.numeral tail x).text = some x := by
  have hsign : (if x.negative then "-" else "").toList = if x.negative then ['-'] else [] := by
    split <;> rfl
  rw [Layout.render, isNaN_of_isFinite hx, isInfinite_of_isFinite hx, if_neg Bool.false_ne_true,
    if_neg Bool.false_ne_true, String.toList_append, hsign, Layout.numeral]
  by_cases hzero : x.isZero = true
  · rw [if_pos hzero, if_pos hzero]
    have hwrites : Layout.Writes (Layout.placedNumeral tail x.negative ['0'] 0) x.negative ['0'] 0
        (layout.placed ['0'] 0).toList :=
      Layout.writes_placed hend ⟨List.cons_ne_nil _ _, rfl⟩ (.inr ⟨rfl, rfl⟩)
    obtain ⟨count, hcoefficient, -⟩ := hwrites.worth
    have hnone : (Layout.placedNumeral tail x.negative ['0'] 0).coefficient = 0 := by
      rw [hcoefficient]
      exact Nat.zero_mul _
    refine ⟨hwrites.valid, hwrites.spells, ?_⟩
    rw [ofText?_text hwrites.valid, hwrites.sign, ofDecimal, if_pos (.inl hnone), assemble_zero hzero]
  · rw [if_neg hzero, if_neg hzero]
    have hpos := significand_pos (Bool.eq_false_iff.mpr hzero)
    have hcovers := shortest_covers hpos layout.tie
    have hwrites := Layout.writes_decimal hend x.negative (hcovers.pos hpos)
    exact ⟨hwrites.valid, hwrites.spells, hwrites.ofText? hx hpos hcovers⟩

/-- **What JSON writes for a float is a number that is worth it.** -/
theorem render_text {x : Binary64} (hx : x.isFinite = true) :
    ∃ n : Numeral, n.Valid ∧ n.isWhole = false ∧ n.text = (Layout.json.render x).toList ∧
      ofText? n.text = some x := by
  obtain ⟨hvalid, htext, hvalue⟩ := render_numeral Layout.json_endsIn hx
  exact ⟨_, hvalid, Layout.json.numeral_not_whole 0 x, htext, hvalue⟩

end Binary64

/-- **A float is written as a number that is taken for that float.** -/
theorem Scalar.ofNumeral_render {x : Binary64} (hx : x.isFinite = true) :
    ∃ n : Numeral, n.Valid ∧ n.text = (Layout.json.render x).toList ∧ ofNumeral n = .float x := by
  obtain ⟨n, hvalid, hwhole, htext, hvalue⟩ := Binary64.render_text hx
  have hrender : Layout.json.render x = String.ofList n.text := by rw [htext, String.ofList_toList]
  refine ⟨n, hvalid, htext, ?_⟩
  rw [ofNumeral, integer?_of_not_whole hvalid hwhole]
  simp only [hwhole, Bool.false_eq_true, ↓reduceIte, hvalue]
  rw [if_pos ⟨hx, hrender⟩]

end StreamMask
