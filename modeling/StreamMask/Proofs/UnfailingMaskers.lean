/-
Masker sets in which nothing fails: then a field is either masked or not, and
something is written for every scalar. Only maskers that are supplied from
outside can fail, so it is enough that these have an answer for everything.
-/
import StreamMask.Proofs.AskedMaskers

namespace StreamMask

/-- Whether the maskers of a set that are supplied from outside have an answer for everything. -/
structure MaskerSet.NeverFails (set : MaskerSet) : Prop where
  field : ∀ decide, .custom decide ∈ set.fieldMaskers →
    ∀ place failure, decide place ≠ .error failure
  value : ∀ decide, .custom decide ∈ set.valueMaskers →
    ∀ place value failure, decide place value ≠ .error failure

namespace MaskerSet.NeverFails

variable {set : MaskerSet}

/-- Nothing fails where no masker is supplied from outside. -/
theorem of_no_custom (hfield : ∀ decide, .custom decide ∉ set.fieldMaskers)
    (hvalue : ∀ decide, .custom decide ∉ set.valueMaskers) : set.NeverFails where
  field decide hmem := absurd hmem (hfield decide)
  value decide hmem := absurd hmem (hvalue decide)

theorem field_answer (h : set.NeverFails) {masker : FieldMasker} (hmem : masker ∈ set.fieldMaskers)
    (place : Position) : ∃ answer, masker.mask place = .ok answer := by
  cases masker with
  | names names => exact ⟨_, rfl⟩
  | path path => exact ⟨_, rfl⟩
  | custom decide =>
    cases hanswer : decide place with
    | error failure => exact absurd hanswer (h.field decide hmem place failure)
    | ok answer => exact ⟨answer, hanswer⟩

theorem value_answer (h : set.NeverFails) {masker : ValueMasker} (hmem : masker ∈ set.valueMaskers)
    (place : Position) (value : Scalar) : ∃ answer, masker.mask place value = .ok answer := by
  cases masker with
  | regex regex => exact ⟨_, rfl⟩
  | custom decide =>
    cases hanswer : decide place value with
    | error failure => exact absurd hanswer (h.value decide hmem place value failure)
    | ok answer => exact ⟨answer, hanswer⟩

theorem firstMask_ok {place : Position} {maskers : List FieldMasker}
    (h : ∀ masker ∈ maskers, ∃ answer, masker.mask place = .ok answer) :
    ∃ answer, FieldMasker.firstMask maskers place = .ok answer := by
  induction maskers with
  | nil => exact ⟨none, rfl⟩
  | cons masker maskers ih =>
    obtain ⟨⟨answer, hanswer⟩, hmaskers⟩ := List.forall_mem_cons.mp h
    rw [FieldMasker.firstMask, hanswer]
    cases answer with
    | none => exact ih hmaskers
    | some mask => exact ⟨some mask, rfl⟩

/-- Every field is either masked or not. -/
theorem fieldMask_ok (h : set.NeverFails) (place : Position) :
    ∃ answer, set.fieldMask place = .ok answer :=
  firstMask_ok fun _ hmem => h.field_answer hmem place

theorem chain_ok {place : Position} {maskers : List ValueMasker}
    (h : ∀ masker ∈ maskers, ∀ value, ∃ answer, masker.mask place value = .ok answer)
    (value : Scalar) : ∃ masked, ValueMasker.chain maskers place value = .ok masked := by
  induction maskers generalizing value with
  | nil => exact ⟨value, rfl⟩
  | cons masker maskers ih =>
    obtain ⟨hmasker, hmaskers⟩ := List.forall_mem_cons.mp h
    obtain ⟨answer, hanswer⟩ := hmasker value
    rw [ValueMasker.chain, hanswer]
    cases answer with
    | none => exact ih hmaskers value
    | some mask => exact ih hmaskers mask.toScalar

/-- Something is written for every scalar. -/
theorem maskScalar_isOk (h : set.NeverFails) (place : Position) (value : Scalar) :
    ∃ masked, set.maskScalar place value = .ok masked := by
  rw [maskScalar]
  split
  · obtain ⟨masked, hchain⟩ := chain_ok (fun masker hmem value => h.value_answer hmem place value) value
    rw [hchain]
    exact ⟨_, rfl⟩
  · exact ⟨value, rfl⟩

theorem not_failsAt (h : set.NeverFails) {place : Position} {event : Event} {failure : Failure} :
    ¬set.FailsAt place event failure := by
  rintro (⟨-, hfails⟩ | hfails)
  · obtain ⟨answer, hanswer⟩ := h.fieldMask_ok _
    rw [hanswer] at hfails
    cases hfails
  · obtain ⟨masked, hmasked⟩ := h.maskScalar_isOk _ _
    rw [hmasked] at hfails
    cases hfails

end MaskerSet.NeverFails
end StreamMask
