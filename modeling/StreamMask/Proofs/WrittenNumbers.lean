/-
Numbers that are written as they were read.

A number becomes an integer or a float only where that is written with the number's own
text, and otherwise keeps the text; so whichever it becomes, its JSON is the text it was
read from (`Scalar.json_ofNumeral`). A number that nothing masks is therefore in the masked
text just as it was in the document.
-/
import StreamMask.Proofs.ShownScalars

namespace StreamMask

/-! ## The scalars of numbers -/

namespace Scalar

variable {n : Json.Numeral}

/-- **The JSON of a number is the text it was read from.** -/
theorem json_ofNumeral (n : Json.Numeral) : (ofNumeral n).json = String.ofList n.text := by
  have hscalar := ofNumeral_spec n
  generalize ofNumeral n = scalar at hscalar ⊢
  cases hscalar with
  | integer text => rw [text, String.ofList_toList, json]
  | bigInteger => rfl
  | float hasPart value finite text => exact text
  | bigDecimal => rfl

end Scalar

/-! ## Scalars that no masker answers -/

namespace MaskerSet

variable {set : MaskerSet} {place : Position} {value : Scalar}

/-- Whether nothing masks a scalar at a place: it is in no masked field, and no value masker answers
with a mask. -/
structure Passes (set : MaskerSet) (place : Position) (value : Scalar) : Prop where
  uncovered : ¬set.Covers place
  unanswered : ∀ masker ∈ set.valueMaskers, ∀ mask, masker.mask place value ≠ .ok (some mask)

theorem chain_unanswered {maskers : List ValueMasker} {masked : Scalar}
    (hmaskers : ∀ masker ∈ maskers, ∀ mask, masker.mask place value ≠ .ok (some mask))
    (h : ValueMasker.chain maskers place value = .ok masked) : masked = value := by
  induction maskers with
  | nil => exact (Except.ok.inj h).symm
  | cons masker maskers ih =>
    rw [ValueMasker.chain] at h
    split at h
    · contradiction
    · exact ih (fun masker hmem => hmaskers masker (List.mem_cons_of_mem _ hmem)) h
    · next mask hmask => exact absurd hmask (hmaskers masker List.mem_cons_self mask)

/-- What nothing masks is shown as it is. -/
theorem Passes.masked_eq (hpasses : set.Passes place value) {masked : Scalar}
    (h : set.maskScalar place value = .ok masked) : masked = value := by
  rw [maskScalar] at h
  split at h
  · cases hchain : ValueMasker.chain set.valueMaskers place value with
    | error failure => rw [hchain] at h; contradiction
    | ok result =>
      rw [hchain] at h
      obtain rfl := chain_unanswered hpasses.unanswered hchain
      rw [← Except.ok.inj h]
      exact ite_self _
  · exact (Except.ok.inj h).symm

end MaskerSet

/-! ## Numbers in a masked text -/

/-- **Numbers that nothing masks are written as they were read.** A number is written with its own
text whatever scalar it is; it is an integer just if the text is the decimal of one that 64 bits hold,
and otherwise a big integer just if it has neither point nor exponent. In a masked text, a number of
the document that nothing masks stands with its own text right behind what has been written for what
comes before it, but for a comma. -/
theorem numbers_written_as_read :
    (∀ n : Json.Numeral, n.Valid →
      (Sink.write (Writer.fresh "") (.scalar (.ofNumeral n))).1.output = String.ofList n.text ∧
      (∀ value : Int64, Scalar.ofNumeral n = .integer value ↔ n.text = (toString value.toInt).toList) ∧
      ∀ digits : String, Scalar.ofNumeral n = .bigInteger digits ↔
        digits = String.ofList n.text ∧ ('.' ∉ n.text ∧ 'e' ∉ n.text ∧ 'E' ∉ n.text) ∧
          ∀ value : Int64, n.text ≠ (toString value.toInt).toList) ∧
    ∀ (set : MaskerSet) (text out : String) (value : Json.Value),
      Json.SpellsElement value text.toList → maskText set text = .ok out →
      ∀ (events : List Event) (place : Position) (n : Json.Numeral),
        value.tree.HasScalar .root events place (.ofNumeral n) → set.Passes place (.ofNumeral n) →
        let stream := (Sink.writeAll (Masking.start set (Writer.fresh "")) events).1
        ∃ separator ∈ ["", ","], ∃ rest,
          (stream.step (.scalar (.ofNumeral n))).1.sink.output =
              stream.sink.output ++ separator ++ String.ofList n.text ∧
            out = stream.sink.output ++ separator ++ String.ofList n.text ++ rest := by
  refine ⟨fun n hn => ⟨?_, fun value => Scalar.ofNumeral_eq_integer, fun digits => ?_⟩, ?_⟩
  · rw [Writer.write_scalar, Scalar.json_ofNumeral]
    show "" ++ "" ++ _ = _
    rw [String.empty_append, String.empty_append]
  · rw [Scalar.ofNumeral_eq_bigInteger, hn.isWhole_iff]
    rfl
  · intro set text out value hspells hout events place n hscalar hpasses
    obtain ⟨masked, hmasked, hshown⟩ := maskText_shows_scalar hspells hout hscalar hpasses.uncovered
    obtain rfl := hpasses.masked_eq hmasked
    rwa [Scalar.json_ofNumeral] at hshown

/-- Behind a field that is masked and an integer that becomes null, a number keeps its last zero. -/
theorem decimal_written_after_masked_field :
    let set : MaskerSet := {
      fieldMaskers := [.names ⟨["pin"], .string "***"⟩]
      valueMaskers := [.custom fun _ value =>
        .ok (if value.kind = "integer" then some .null else none)] }
    let n : Json.Numeral := ⟨false, ['1'], ['1', '0'], none⟩
    n.Valid ∧ (Sink.write (Writer.fresh "") (.scalar (.ofNumeral n))).1.output = "1.10" ∧
      maskText set "[\x7b\"pin\": 2\x7d, 1, 1.10]" = .ok "[\x7b\"pin\":\"***\"\x7d,null,1.10]" ∧
      ∃ written, ∃ separator ∈ ["", ","], ∃ rest,
        "[\x7b\"pin\":\"***\"\x7d,null,1.10]" = written ++ separator ++ String.ofList n.text ++ rest := by
  intro set n
  let one : Json.Numeral := ⟨false, ['1'], [], none⟩
  let two : Json.Numeral := ⟨false, ['2'], [], none⟩
  have hn : n.Valid := ⟨⟨nofun, rfl⟩, by simp [n], rfl, nofun⟩
  have hone : one.Valid := ⟨⟨nofun, rfl⟩, by simp [one], rfl, nofun⟩
  have htwo : two.Valid := ⟨⟨nofun, rfl⟩, by simp [two], rfl, nofun⟩
  have hout : maskText set "[\x7b\"pin\": 2\x7d, 1, 1.10]" = .ok "[\x7b\"pin\":\"***\"\x7d,null,1.10]" :=
    ok_of_toOption (by decide +kernel)
  have hnone : Json.Blank [] := nofun
  have hspace : Json.Blank [' '] := by simp [Json.Blank]
  have hpad {value : Json.Value} {text : List Char} (h : Json.Spells value text) :
      Json.SpellsElement value (' ' :: text) := h.element.pad hspace
  have hpin : Json.SpellsField (some "pin", .number two) "\"pin\": 2".toList :=
    @Json.SpellsField.named [.plain 'p', .plain 'i', .plain 'n'] _ [] [] _ hnone
      (by simp [Json.Part.Valid]) hnone (hpad (.number htwo))
  have hitems := Json.SpellsItems.more (Json.Spells.object (.last hpin)).element
    (.more (hpad (.number hone)) (.last (hpad (.number hn))))
  have hscalar : (Json.Value.array [.object [(some "pin", .number two)], .number one,
      .number n]).tree.HasScalar .root _ (Position.root.inItem 2) (.ofNumeral n) := .item [_, _] .here
  have hpasses : set.Passes (Position.root.inItem 2) (.ofNumeral n) := by
    refine ⟨?_, fun masker hmem mask hmask => ?_⟩
    · rw [MaskerSet.covers_inItem]
      exact MaskerSet.not_covers_root
    · have hdecimal : Scalar.ofNumeral n = .bigDecimal "1.10" := by decide +kernel
      rw [List.mem_singleton.mp hmem, hdecimal] at hmask
      cases hmask
  obtain ⟨hnumbers, htexts⟩ := numbers_written_as_read
  obtain ⟨separator, hseparator, rest, -, hrest⟩ :=
    htexts set _ _ _ (Json.Spells.array hitems).element hout _ _ n hscalar hpasses
  exact ⟨hn, (hnumbers n hn).1, hout, _, separator, hseparator, rest, hrest⟩

end StreamMask
