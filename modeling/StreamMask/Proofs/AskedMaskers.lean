/-
Maskers that are asked, and what comes of it if one fails.

Field maskers are asked in order, up to the first that has an answer, and value maskers each
about what the one before it has made of a scalar. The first that fails ends this. Its failure
is passed on as it is, and need not be that of a masker: whoever supplies a masker may let it
fail in any way (`MaskerSet.FailsWith`).
-/
import StreamMask.Masker.Set

namespace StreamMask

/-- Whether a field masker is asked for a place when some are asked in order, up to the first that has
an answer or fails. -/
inductive FieldMasker.Asked (place : Position) (masker : FieldMasker) : List FieldMasker → Prop where
  | next {rest : List FieldMasker} : Asked place masker (masker :: rest)
  | later {other : FieldMasker} {rest : List FieldMasker} (silent : other.mask place = .ok none)
      (asked : Asked place masker rest) : Asked place masker (other :: rest)

/-- Whether a value masker is asked, and what it sees then, when some are asked in order about a
scalar, each about what the one before it has made of it. -/
inductive ValueMasker.Asked (place : Position) (masker : ValueMasker) (seen : Scalar) :
    List ValueMasker → Scalar → Prop where
  | next {rest : List ValueMasker} : Asked place masker seen (masker :: rest) seen
  | later {other : ValueMasker} {rest : List ValueMasker} {value : Scalar} {answer : Option Mask}
      (made : other.mask place value = .ok answer)
      (asked : Asked place masker seen rest ((answer.map Mask.toScalar).getD value)) :
    Asked place masker seen (other :: rest) value

theorem FieldMasker.Asked.mem {place : Position} {masker : FieldMasker} {maskers : List FieldMasker}
    (h : Asked place masker maskers) : masker ∈ maskers := by
  induction h with
  | next => exact List.mem_cons_self
  | later _ _ ih => exact List.mem_cons_of_mem _ ih

theorem ValueMasker.Asked.mem {place : Position} {masker : ValueMasker} {seen value : Scalar}
    {maskers : List ValueMasker} (h : Asked place masker seen maskers value) : masker ∈ maskers := by
  induction h with
  | next => exact List.mem_cons_self
  | later _ _ ih => exact List.mem_cons_of_mem _ ih

theorem FieldMasker.firstMask_eq_error {place : Position} {failure : Failure}
    {maskers : List FieldMasker} : firstMask maskers place = .error failure ↔
      ∃ masker, Asked place masker maskers ∧ masker.mask place = .error failure := by
  induction maskers with
  | nil =>
    constructor
    · intro h
      cases h
    · rintro ⟨masker, asked, -⟩
      cases asked
  | cons first maskers ih =>
    rw [firstMask]
    constructor
    · intro h
      split at h
      next reported hmask =>
        cases h
        exact ⟨first, .next, hmask⟩
      · cases h
      next hsilent =>
        obtain ⟨masker, hasked, hfails⟩ := ih.mp h
        exact ⟨masker, .later hsilent hasked, hfails⟩
    · rintro ⟨masker, asked, hfails⟩
      cases asked with
      | next => rw [hfails]
      | later silent asked =>
        rw [silent]
        exact ih.mpr ⟨masker, asked, hfails⟩

theorem ValueMasker.chain_eq_error {place : Position} {failure : Failure} {maskers : List ValueMasker}
    {value : Scalar} : chain maskers place value = .error failure ↔
      ∃ masker seen, Asked place masker seen maskers value ∧ masker.mask place seen = .error failure := by
  induction maskers generalizing value with
  | nil =>
    constructor
    · intro h
      cases h
    · rintro ⟨masker, seen, asked, -⟩
      cases asked
  | cons first maskers ih =>
    have hchain {answer : Option Mask} (hmade : first.mask place value = .ok answer) :
        chain (first :: maskers) place value =
          chain maskers place ((answer.map Mask.toScalar).getD value) := by
      rw [chain, hmade]
      cases answer <;> rfl
    constructor
    · intro h
      cases hmade : first.mask place value with
      | error reported =>
        rw [chain, hmade] at h
        cases h
        exact ⟨first, value, .next, hmade⟩
      | ok answer =>
        rw [hchain hmade] at h
        obtain ⟨masker, seen, hasked, hfails⟩ := ih.mp h
        exact ⟨masker, seen, .later hmade hasked, hfails⟩
    · rintro ⟨masker, seen, asked, hfails⟩
      cases asked with
      | next => rw [chain, hfails]
      | later made asked =>
        rw [hchain made]
        exact ih.mpr ⟨masker, seen, asked, hfails⟩

namespace MaskerSet

/-- Whether a masker of a set fails in this way, wherever it is asked. -/
inductive FailsWith (set : MaskerSet) (failure : Failure) : Prop where
  | field {masker : FieldMasker} {place : Position} (mem : masker ∈ set.fieldMaskers)
      (fails : masker.mask place = .error failure) : FailsWith set failure
  | value {masker : ValueMasker} {place : Position} {seen : Scalar} (mem : masker ∈ set.valueMaskers)
      (fails : masker.mask place seen = .error failure) : FailsWith set failure

/-- Whether the maskers that are asked for an event at a place fail in this way: field maskers for the
name of a field, about the place that it leads to, and value maskers for a scalar. -/
inductive FailsAt (set : MaskerSet) (place : Position) : Event → Failure → Prop where
  | field {name : String} {inside : Position} {failure : Failure}
      (enters : place.advance (.field name) = .ok inside)
      (fails : set.fieldMask inside = .error failure) : FailsAt set place (.field name) failure
  | scalar {value : Scalar} {failure : Failure} (fails : set.maskScalar place value = .error failure) :
      FailsAt set place (.scalar value) failure

variable {set : MaskerSet} {place : Position} {event : Event} {value : Scalar} {failure : Failure}

/-- Nothing can be decided about a field only if a masker fails. -/
theorem failsWith_of_fieldMask (h : set.fieldMask place = .error failure) : set.FailsWith failure := by
  obtain ⟨masker, hasked, hfails⟩ := FieldMasker.firstMask_eq_error.mp h
  exact .field hasked.mem hfails

/-- Nothing is made of a scalar only if a masker fails. -/
theorem failsWith_of_maskScalar (h : set.maskScalar place value = .error failure) :
    set.FailsWith failure := by
  unfold maskScalar at h
  split at h
  · cases hchain : ValueMasker.chain set.valueMaskers place value with
    | ok masked =>
      rw [hchain] at h
      cases h
    | error reported =>
      rw [hchain] at h
      cases h
      obtain ⟨masker, seen, hasked, hfails⟩ := ValueMasker.chain_eq_error.mp hchain
      exact .value hasked.mem hfails
  · cases h

theorem FailsAt.failsWith (h : set.FailsAt place event failure) : set.FailsWith failure := by
  cases h with
  | field _ fails => exact failsWith_of_fieldMask fails
  | scalar fails => exact failsWith_of_maskScalar fails

end MaskerSet
end StreamMask
