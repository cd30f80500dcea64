/-
What mask an argument says.

An argument that is written for a value of JSON without members is the mask of that value
(`Mask.IsJson`), and any other is its own text. Strings with half of a surrogate pair and
numbers beyond every float have no mask, so they are text as well.
-/
import StreamMask.Command
import StreamMask.Proofs.ByteSources
import StreamMask.Proofs.SavedConfigs

namespace StreamMask

namespace Json

theorem readLiteral_datum_sound {word : String} {datum read : Datum} {text rest : List Char}
    (h : Datum.readLiteral word datum text = .ok (read, rest)) :
    read = datum ∧ text = word.toList ++ rest := by
  unfold Datum.readLiteral at h
  cases hword : readWord word.toList text with
  | error stop => rw [hword] at h; contradiction
  | ok after =>
    rw [hword] at h
    cases h
    exact ⟨rfl, readWord_sound hword⟩

/-- What is read as a number is a numeral that is worth it. -/
theorem readNumber_sound {text rest : List Char} {number : Number}
    (h : readNumber text = .ok (number, rest)) :
    ∃ n : Numeral, n.Valid ∧ text = n.text ++ rest ∧ n.number = .ok number := by
  unfold readNumber at h
  split at h
  · contradiction
  · next n after hread =>
    obtain ⟨hvalid, htext⟩ := readNumeral_sound hread
    split at h
    · contradiction
    · next hnumber =>
      cases h
      exact ⟨n, hvalid, htext, hnumber⟩

end Json

open Json

namespace Mask

/-- The mask of a value without members, if it has one. -/
inductive IsOf : Value → Mask → Prop where
  | null : IsOf .null .null
  | bool (value : Bool) : IsOf (.bool value) (.bool value)
  | string (text : String) : IsOf (.string (some text)) (.string text)
  | number {n : Numeral} {number : Number} {mask : Mask} (worth : n.number = .ok number)
      (amount : ofDatum? (.number number) = some mask) : IsOf (.number n) mask

/-- Whether a text is JSON for a mask. -/
def IsJson (mask : Mask) (text : List Char) : Prop :=
  ∃ value, SpellsElement value text ∧ IsOf value mask

/-- A datum that is a mask was read from a value that has that mask. -/
theorem isOf_of_readValue {fuel depth : Nat} {text rest : List Char} {datum : Datum} {mask : Mask}
    (h : Datum.readValue fuel depth text = .ok (datum, rest)) (hmask : ofDatum? datum = some mask) :
    ∃ value inner, Spells value inner ∧ skipBlank text = inner ++ rest ∧ IsOf value mask := by
  cases fuel with
  | zero => contradiction
  | succ fuel =>
    rw [Datum.readValue] at h
    split at h
    · contradiction
    · next quoted heq =>
      obtain ⟨chars, after, hread, hresult⟩ := map_ok h
      cases hresult
      cases hmask
      obtain ⟨parts, hvalid, htext, hmeaning⟩ := readString_eq_ok.mp hread
      have hsaid : said parts = some (String.ofList chars) := by rw [said, hmeaning, Option.map_some]
      refine ⟨_, _, .string hvalid, ?_, hsaid ▸ .string _⟩
      rw [heq, htext, quoted_append, List.cons_append]
    · -- A container is no mask.
      split at h
      · contradiction
      · obtain ⟨items, after, -, hresult⟩ := map_ok h
        cases hresult
        contradiction
    · split at h
      · contradiction
      · obtain ⟨fields, after, -, hresult⟩ := map_ok h
        cases hresult
        contradiction
    · next heq =>
      obtain ⟨rfl, htext⟩ := readLiteral_datum_sound h
      cases hmask
      exact ⟨_, _, .null, by rw [heq, htext]; rfl, .null⟩
    · next heq =>
      obtain ⟨rfl, htext⟩ := readLiteral_datum_sound h
      cases hmask
      exact ⟨_, _, .bool true, by rw [heq, htext]; rfl, .bool true⟩
    · next heq =>
      obtain ⟨rfl, htext⟩ := readLiteral_datum_sound h
      cases hmask
      exact ⟨_, _, .bool false, by rw [heq, htext]; rfl, .bool false⟩
    · next heq =>
      split at h
      · obtain ⟨number, after, hread, hresult⟩ := map_ok h
        cases hresult
        obtain ⟨n, hvalid, htext, hnumber⟩ := readNumber_sound hread
        exact ⟨_, _, .number hvalid, heq.trans htext, .number hnumber hmask⟩
      · contradiction

/-- A value that has a mask is read as a datum that is that mask. -/
theorem IsOf.read {value : Value} {mask : Mask} (h : IsOf value mask) {text : List Char}
    (hspells : Spells value text) (depth : Nat) {before rest : List Char} (hbefore : Blank before)
    (hrest : NoNumber rest) :
    ∃ datum, Datum.read depth (before ++ (text ++ rest)) = .ok (datum, rest) ∧
      ofDatum? datum = some mask := by
  rw [Datum.read, Datum.fuelFor]
  cases h with
  | null =>
    cases hspells
    exact ⟨.null, readValue_null _ depth hbefore rest, rfl⟩
  | bool value =>
    cases hspells
    exact ⟨.bool value, readValue_bool value _ depth hbefore rest, rfl⟩
  | string said =>
    generalize hvalue : Value.string (some said) = value at hspells
    cases hspells with
    | @string parts hvalid =>
      injection hvalue with hsaid
      obtain ⟨chars, hmeaning, rfl⟩ := Option.map_eq_some_iff.mp hsaid.symm
      refine ⟨.string (String.ofList chars), ?_, rfl⟩
      have hread : readString 0 (Part.quoted parts [] ++ rest) = .ok (chars, rest) :=
        readString_eq_ok.mpr ⟨parts, hvalid, (quoted_append parts rest).symm, hmeaning⟩
      rw [List.cons_append, Datum.readValue,
        skipBlank_append hbefore (show NoBlank ('"' :: _) from rfl)]
      simp only [hread, Except.map]
    | _ => cases hvalue
  | number worth amount =>
    cases hspells with
    | number hvalid =>
      exact ⟨_, readValue_numeral hvalid worth _ depth hbefore hrest, amount⟩

/-- **A text is read as a mask if it is JSON for that mask.** -/
theorem ofText_eq_ok {text : List Char} {mask : Mask} : ofText text = .ok mask ↔ IsJson mask text := by
  constructor
  · intro h
    unfold ofText at h
    split at h
    · contradiction
    · next datum rest hread =>
      split at h
      · contradiction
      · next hmask =>
        split at h
        · contradiction
        · next hend =>
          cases h
          obtain ⟨value, inner, hspells, hskip, hvalue⟩ := isOf_of_readValue hread hmask
          obtain ⟨before, hbefore, htext⟩ := skipBlank_split text
          rw [hskip] at htext
          exact ⟨value, htext ▸ .padded hbefore hspells (readEnd_eq_ok.mp hend), hvalue⟩
  · rintro ⟨value, ⟨hbefore, hspells, hafter⟩, hvalue⟩
    have hrest := noNumber_blank hafter (show NoNumber [] from trivial)
    rw [List.append_nil] at hrest
    obtain ⟨datum, hread, hmask⟩ := hvalue.read hspells Datum.depthLimit hbefore hrest
    simp only [ofText, hread, hmask, readEnd_eq_ok.mpr hafter]

/-- **An argument says the mask that it is JSON for**, or else its own text. -/
theorem ofArgument_cases (argument : String) :
    IsJson (ofArgument argument) argument.toList ∨
      (∀ mask, ¬IsJson mask argument.toList) ∧ ofArgument argument = .string argument := by
  unfold ofArgument
  cases htext : ofText argument.toList with
  | ok mask => exact .inl (ofText_eq_ok.mp htext)
  | error fault =>
    refine .inr ⟨fun mask hmask => ?_, rfl⟩
    rw [ofText_eq_ok.mpr hmask] at htext
    contradiction

end Mask
end StreamMask
