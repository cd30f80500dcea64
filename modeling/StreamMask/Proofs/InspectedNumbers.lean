/-
Numbers as value rules see them.

A number that is a float is written as JSON writes floats, but value rules look at what is
written for it plainly. That is a number of the same worth, with another text where JSON has
an exponent or a zero after the point, and where two shortest decimals are equally near to
the float, of which JSON takes the even one and plain text the greater. Every other number is
looked at as it was written.
-/
import StreamMask.Json.Writer
import StreamMask.Masker.Value
import StreamMask.Proofs.LayoutFacts

namespace StreamMask

open Json

/-! ## The two layouts -/

namespace Layout

variable {tail : Nat} {negative : Bool} {digits : List Char} {e : Int}

theorem placedNumeral_exponent : (placedNumeral tail negative digits e).exponent = none := by
  unfold placedNumeral
  split
  · rfl
  · dsimp only
    split <;> rfl

/-- Where a whole number has no point, no place is a zero alone if the digits do not end in zero. -/
theorem placedNumeral_places (hdigits : digits ≠ []) (hlast : ∀ before, digits ≠ before ++ ['0']) :
    (placedNumeral 0 negative digits e).places ≠ ['0'] := by
  unfold placedNumeral
  split
  · intro h
    rcases List.append_eq_singleton_iff.mp h with ⟨-, hzero⟩ | ⟨-, hnil⟩
    · exact hlast [] hzero
    · exact hdigits hnil
  · dsimp only
    split
    · exact nofun
    · intro h
      refine hlast (digits.take (e.toNat + 1)) ?_
      rw [← h, List.take_append_drop]

/-- Without a zero after its point a number does not show how many would stand after that of a whole
number. -/
theorem placedNumeral_eq (h : (placedNumeral 1 negative digits e).places ≠ ['0']) :
    placedNumeral 0 negative digits e = placedNumeral 1 negative digits e := by
  unfold placedNumeral at h ⊢
  split
  · rfl
  · next he =>
    rw [if_neg he] at h
    dsimp only at h ⊢
    split
    · next hle =>
      rw [if_pos hle] at h
      exact absurd rfl h
    · rfl

/-- Plain text has no exponents, and a point only where digits follow it that do not end in zero. -/
theorem plain_numeral (x : Binary64) :
    (plain.numeral 0 x).exponent = none ∧ (plain.numeral 0 x).places ≠ ['0'] := by
  unfold numeral
  split
  · exact ⟨placedNumeral_exponent, nofun⟩
  · next hzero =>
    have hpos := Binary64.significand_pos (Bool.eq_false_iff.mpr hzero)
    exact ⟨placedNumeral_exponent, placedNumeral_places (toDigits_digits _).1
      (Text.toDigits_last (Binary64.shortest_ends hpos .up))⟩

/-- One number is not written for two decimals that do not end in zero. -/
theorem Writes.decimal_unique {n : Numeral} {d d' : Decimal} {text text' : List Char}
    (h : Writes n negative (Nat.toDigits 10 d.coefficient)
      (d.scale + (Nat.toDigits 10 d.coefficient).length - 1) text)
    (h' : Writes n negative (Nat.toDigits 10 d'.coefficient)
      (d'.scale + (Nat.toDigits 10 d'.coefficient).length - 1) text')
    (hd : d.coefficient % 10 ≠ 0) (hd' : d'.coefficient % 10 ≠ 0) : d = d' := by
  obtain ⟨count, hcoefficient, hscale⟩ := h.decimal
  obtain ⟨count', hcoefficient', hscale'⟩ := h'.decimal
  obtain ⟨hsame, rfl⟩ := Text.tens_unique (hcoefficient.symm.trans hcoefficient') hd hd'
  obtain ⟨c, s⟩ := d
  obtain ⟨c', s'⟩ := d'
  rw [Decimal.mk.injEq]
  exact ⟨hsame, hscale.symm.trans hscale'⟩

theorem decimalNumeral_eq {d d' : Decimal} (hexponent : (json.decimalNumeral 1 negative d).exponent = none)
    (hplaces : (json.decimalNumeral 1 negative d).places ≠ ['0']) (hd : d' = d) :
    plain.decimalNumeral 0 negative d' = json.decimalNumeral 1 negative d := by
  subst hd
  unfold decimalNumeral at hexponent hplaces ⊢
  rw [if_pos (show plain.positional _ = true from rfl)]
  by_cases hpositional :
      json.positional (d'.scale + (Nat.toDigits 10 d'.coefficient).length - 1) = true
  · rw [if_pos hpositional] at hplaces ⊢
    exact placedNumeral_eq hplaces
  · rw [if_neg hpositional] at hexponent
    cases hexponent

/-- **A float is written plainly as in JSON just if JSON needs no exponent and no zero after the point,
and both take the same decimal.** -/
theorem plain_numeral_eq_json {x : Binary64} :
    plain.numeral 0 x = json.numeral 1 x ↔
      (json.numeral 1 x).exponent = none ∧ (json.numeral 1 x).places ≠ ['0'] ∧
        x.shortest .up = x.shortest .toEven := by
  constructor
  · intro h
    obtain ⟨hexponent, hplaces⟩ := plain_numeral x
    refine ⟨h ▸ hexponent, h ▸ hplaces, ?_⟩
    unfold numeral at h
    split at h
    · cases congrArg Numeral.places h
    · next hzero =>
      have hpos := Binary64.significand_pos (Bool.eq_false_iff.mpr hzero)
      have hup := writes_decimal plain_endsIn x.negative ((Binary64.shortest_covers hpos .up).pos hpos)
      have heven := writes_decimal json_endsIn x.negative ((Binary64.shortest_covers hpos .toEven).pos hpos)
      rw [show plain.decimalNumeral 0 x.negative (x.shortest .up) = _ from h] at hup
      exact hup.decimal_unique heven (Binary64.shortest_ends hpos .up)
        (Binary64.shortest_ends hpos .toEven)
  · rintro ⟨hexponent, hplaces, hshortest⟩
    unfold numeral at hexponent hplaces ⊢
    by_cases hzero : x.isZero = true
    · rw [if_pos hzero] at hplaces
      exact absurd rfl hplaces
    · rw [if_neg hzero] at hexponent hplaces ⊢
      rw [if_neg hzero]
      exact decimalNumeral_eq hexponent hplaces hshortest

end Layout

/-! ## What is looked at -/

/-- The number whose text value rules look at. -/
def Json.Numeral.inspected (n : Numeral) : Numeral :=
  match Scalar.ofNumeral n with
  | .float x => Layout.plain.numeral 0 x
  | _ => n

namespace Scalar

variable {n : Numeral}

/-- A number that is a float is the one that JSON writes for the float. -/
theorem numeral_of_float {x : Binary64} (h : n.Valid) (hx : ofNumeral n = .float x) :
    x.isFinite = true ∧ Binary64.ofText? n.text = some x ∧ Layout.json.numeral 1 x = n := by
  have hscalar := ofNumeral_spec n
  rw [hx] at hscalar
  cases hscalar with
  | float hasPart value finite text =>
    obtain ⟨hvalid, hnumeral, -⟩ := Binary64.render_numeral Layout.json_endsIn finite
    refine ⟨finite, value, hvalid.eq_of_text h ?_⟩
    rw [hnumeral, text, String.toList_ofList]

theorem inspected_of_float {x : Binary64} (hx : ofNumeral n = .float x) :
    n.inspected = Layout.plain.numeral 0 x := by
  rw [Numeral.inspected, hx]

theorem inspected_of_kept (hn : ∀ x, ofNumeral n ≠ .float x) : n.inspected = n := by
  unfold Numeral.inspected
  split
  · next x hx => exact absurd hx (hn x)
  · rfl

/-- **Value rules look at a number of the same worth.** -/
theorem text?_ofNumeral (h : n.Valid) :
    n.inspected.Valid ∧ Binary64.ofText? n.inspected.text = Binary64.ofText? n.text ∧
      (ofNumeral n).text? = some (String.ofList n.inspected.text) := by
  by_cases hn : ∃ x, ofNumeral n = .float x
  · obtain ⟨x, hx⟩ := hn
    obtain ⟨hfinite, hworth, -⟩ := numeral_of_float h hx
    obtain ⟨hvalid, htext, hvalue⟩ := Binary64.render_numeral Layout.plain_endsIn hfinite
    rw [inspected_of_float hx]
    refine ⟨hvalid, hvalue.trans hworth.symm, ?_⟩
    rw [hx, text?, htext, String.ofList_toList]
  · have hkept : ∀ x, ofNumeral n ≠ .float x := fun x hx => hn ⟨x, hx⟩
    rw [inspected_of_kept hkept]
    refine ⟨h, rfl, ?_⟩
    have hscalar := ofNumeral_spec n
    generalize ofNumeral n = scalar at hscalar hkept ⊢
    cases hscalar with
    | integer text => rw [text?, text, String.ofList_toList]
    | bigInteger => rfl
    | float => exact absurd rfl (hkept _)
    | bigDecimal => rfl

/-- A number is looked at as it was written just if it is no float, or one that is plainly written as
in JSON. -/
theorem inspected_eq_iff (h : n.Valid) :
    n.inspected = n ↔ ∀ x, ofNumeral n = .float x →
      n.exponent = none ∧ n.places ≠ ['0'] ∧ x.shortest .up = x.shortest .toEven := by
  by_cases hn : ∃ x, ofNumeral n = .float x
  · obtain ⟨x, hx⟩ := hn
    obtain ⟨-, -, hnumeral⟩ := numeral_of_float h hx
    have hiff := @Layout.plain_numeral_eq_json x
    rw [hnumeral] at hiff
    rw [inspected_of_float hx, hiff, hx]
    exact ⟨fun hplain y hy => float.inj hy ▸ hplain, fun hplain => hplain x rfl⟩
  · have hkept : ∀ x, ofNumeral n ≠ .float x := fun x hx => hn ⟨x, hx⟩
    exact ⟨fun _ x hx => absurd hx (hkept x), fun _ => inspected_of_kept hkept⟩

end Scalar

/-- Rules look at nothing but the text of a scalar. -/
theorem RegexMasker.mask?_of_text? {value other : Scalar} (h : value.text? = other.text?)
    (masker : RegexMasker) : masker.mask? value = masker.mask? other := by
  rw [mask?, mask?, h]

/-- **Value rules decide on each number as on the text of a number of the same worth.** That is the
number's own text but for floats that JSON writes with an exponent, with a zero after the point, or
with another of two shortest decimals. -/
theorem number_inspected_plainly (n : Numeral) (h : n.Valid) :
    ∃ m : Numeral, m.Valid ∧ Binary64.ofText? m.text = Binary64.ofText? n.text ∧
      (Scalar.ofNumeral n).text? = some (String.ofList m.text) ∧
      (∀ masker : RegexMasker,
        masker.mask? (.ofNumeral n) = masker.mask? (.string (String.ofList m.text))) ∧
      (m.text = n.text ↔ ∀ x, Scalar.ofNumeral n = .float x →
        n.exponent = none ∧ n.places ≠ ['0'] ∧ x.shortest .up = x.shortest .toEven) := by
  obtain ⟨hvalid, hworth, htext⟩ := Scalar.text?_ofNumeral h
  refine ⟨n.inspected, hvalid, hworth, htext, RegexMasker.mask?_of_text? htext, ?_⟩
  rw [← Scalar.inspected_eq_iff h]
  exact ⟨hvalid.eq_of_text h, congrArg Numeral.text⟩

/-- A fraction is looked at as it was written. -/
theorem fraction_inspected_as_written :
    let n : Numeral := ⟨false, ['2'], ['5'], none⟩
    n.Valid ∧ Scalar.ofNumeral n = .float ⟨0x4004000000000000⟩ ∧
      (Scalar.ofNumeral n).text? = some "2.5" := by
  intro n
  have hn : n.Valid := ⟨⟨nofun, rfl⟩, by simp [n], rfl, nofun⟩
  have hfloat : Scalar.ofNumeral n = .float ⟨0x4004000000000000⟩ := by decide +kernel
  obtain ⟨m, -, -, htext, -, hiff⟩ := number_inspected_plainly n hn
  refine ⟨hn, hfloat, htext.trans ?_⟩
  rw [hiff.mpr fun x hx => ?_]
  · rfl
  · rw [hfloat] at hx
    cases hx
    exact ⟨rfl, by decide, by decide +kernel⟩

/-- One with a zero after the point is written with the zero but looked at without it. -/
theorem one_inspected_without_zero :
    let n : Numeral := ⟨false, ['1'], ['0'], none⟩
    n.Valid ∧ (Scalar.ofNumeral n).json = String.ofList n.text ∧
      (Scalar.ofNumeral n).text? = some "1" ∧ String.ofList n.text ≠ "1" := by
  intro n
  have hn : n.Valid := ⟨⟨nofun, rfl⟩, by simp [n], rfl, nofun⟩
  exact ⟨hn, by decide +kernel, by decide +kernel, by decide +kernel⟩

end StreamMask
