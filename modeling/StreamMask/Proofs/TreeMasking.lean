/-
Masking of documents as trees, and that masking their streams of events comes
to the same.

The tree is walked from the outside in. A field is decided by the first field
masker that has an answer for its place; then its value is not looked at.
Otherwise its value is masked in turn, and a scalar is what the value maskers
make of it one after another. What is written for a scalar is left open here
(`ScalarRule`): a masking stream takes what the maskers make of it, unless that
equals the scalar (`changed`).
-/
import StreamMask.Proofs.MaskingFacts

namespace StreamMask

/-- Events, and the place and the failure that they end with, if they do not go to the end. -/
structure Emission where
  events : List Event
  stop : Option (Position × Failure)

namespace Emission

/-- Nothing but a failure. -/
def failed (place : Position) (failure : Failure) : Emission := ⟨[], some (place, failure)⟩

/-- One emission, and the other after it unless the first one fails. -/
def append (first second : Emission) : Emission :=
  match first.stop with
  | none => ⟨first.events ++ second.events, second.stop⟩
  | some stop => ⟨first.events, some stop⟩

instance : Append Emission := ⟨append⟩

/-- A masking stream that forwards, after an emission has been recorded: at `finish`, or where the
emission failed. -/
def onto (emission : Emission) (set : MaskerSet) (recorder : Recorder) (finish : Position) :
    Outcome (Masking Recorder) :=
  match emission.stop with
  | none => (⟨set, recorder.record emission.events, finish, 0⟩, .ok ())
  | some (place, failure) => (⟨set, recorder.record emission.events, place, 0⟩, .error failure)

theorem append_assoc (first second third : Emission) :
    first ++ second ++ third = first ++ (second ++ third) := by
  obtain ⟨xs, _ | stop⟩ := first
  · obtain ⟨ys, _ | stop⟩ := second
    · obtain ⟨zs, stop⟩ := third
      show Emission.mk (xs ++ ys ++ zs) stop = Emission.mk (xs ++ (ys ++ zs)) stop
      rw [List.append_assoc]
    · rfl
  · rfl

theorem onto_prepend (events : List Event) (emission : Emission) (set : MaskerSet)
    (recorder : Recorder) (finish : Position) :
    ((⟨events, none⟩ : Emission) ++ emission).onto set recorder finish =
      emission.onto set (recorder.record events) finish := by
  obtain ⟨rest, stop⟩ := emission
  show (Emission.mk (events ++ rest) stop).onto set recorder finish = _
  simp only [onto, Recorder.record_record]

/-- What goes on after an emission, if it records another one, records the two together. -/
theorem onto_andThen {first second : Emission} {set : MaskerSet} {recorder : Recorder}
    {middle finish : Position} {next : Masking Recorder → Outcome (Masking Recorder)}
    (h : ∀ recorder, next ⟨set, recorder, middle, 0⟩ = second.onto set recorder finish) :
    Outcome.andThen (first.onto set recorder middle) next =
      (first ++ second).onto set recorder finish := by
  obtain ⟨events, _ | ⟨place, failure⟩⟩ := first
  · rw [onto_prepend, ← h]
    rfl
  · rfl

end Emission

/-! ## Masking of trees -/

/-- What is written for a scalar at a place. -/
abbrev ScalarRule := Position → Scalar → Except Failure Scalar

namespace MaskerSet

/-- What the value maskers make of a scalar, each being given what the one before it made. Only
strings and numbers are shown to them. -/
def folded (set : MaskerSet) : ScalarRule := fun place value =>
  if value.isMaskable then
    set.valueMaskers.foldlM (fun value masker =>
      (masker.mask place value).map fun answer => (answer.map Mask.toScalar).getD value) value
  else .ok value

/-- What the value maskers make of a scalar, if that differs from it. -/
def changed (set : MaskerSet) : ScalarRule := fun place value =>
  (set.folded place value).map fun masked => if masked.agrees value then value else masked

/-- The answer of the first field masker that has one for the place. -/
def decision (set : MaskerSet) (place : Position) : Except Failure (Option Mask) :=
  set.fieldMaskers.findSomeM? fun masker => masker.mask place

end MaskerSet

namespace Tree

mutual

/-- The masked events of a document at a place. -/
def masked (set : MaskerSet) (rule : ScalarRule) (place : Position) : Tree → Emission
  | scalar value =>
    match rule place value with
    | .error failure => .failed place failure
    | .ok value => ⟨[.scalar value], none⟩
  | array hint items =>
    ⟨[.beginArray hint], none⟩ ++ maskedItems set rule place 0 items ++ ⟨[.endArray], none⟩
  | object hint fields =>
    ⟨[.beginObject hint], none⟩ ++ maskedFields set rule place fields ++ ⟨[.endObject], none⟩

/-- The masked items of the array at `place`, the first of them with this index. -/
def maskedItems (set : MaskerSet) (rule : ScalarRule) (place : Position) :
    (index : Nat) → List Tree → Emission
  | _, [] => ⟨[], none⟩
  | index, item :: items =>
    item.masked set rule (place.inItem index) ++ maskedItems set rule place (index + 1) items

/-- The masked fields of the object at `place`. -/
def maskedFields (set : MaskerSet) (rule : ScalarRule) (place : Position) :
    List (String × Tree) → Emission
  | [] => ⟨[], none⟩
  | (name, value) :: fields =>
    let shown : Emission := match set.decision (place.inField name) with
      | .error failure => .failed (place.inField name) failure
      | .ok (some mask) => ⟨[.scalar mask.toScalar], none⟩
      | .ok none => value.masked set rule (place.inField name)
    ⟨[.field name], none⟩ ++ shown ++ maskedFields set rule place fields

end

end Tree

/-! ## The maskers of a set -/

theorem FieldMasker.firstMask_eq (place : Position) : ∀ maskers : List FieldMasker,
    firstMask maskers place = maskers.findSomeM? fun masker => masker.mask place
  | [] => rfl
  | masker :: maskers => by
    rw [firstMask, List.findSomeM?]
    cases masker.mask place with
    | error failure => rfl
    | ok answer =>
      cases answer with
      | none => exact firstMask_eq place maskers
      | some mask => rfl

theorem ValueMasker.chain_eq (place : Position) : ∀ (maskers : List ValueMasker) (value : Scalar),
    chain maskers place value = maskers.foldlM (fun value masker =>
      (masker.mask place value).map fun answer => (answer.map Mask.toScalar).getD value) value
  | [], _ => rfl
  | masker :: maskers, value => by
    rw [chain, List.foldlM_cons]
    cases masker.mask place value with
    | error failure => rfl
    | ok answer =>
      cases answer with
      | none => exact chain_eq place maskers value
      | some mask => exact chain_eq place maskers mask.toScalar

namespace MaskerSet

theorem fieldMask_eq (set : MaskerSet) (place : Position) :
    set.fieldMask place = set.decision place :=
  FieldMasker.firstMask_eq place set.fieldMaskers

theorem maskScalar_eq (set : MaskerSet) (place : Position) (value : Scalar) :
    set.maskScalar place value = set.changed place value := by
  unfold maskScalar changed folded
  split
  · rw [ValueMasker.chain_eq]
  · simp only [Except.map, ite_self]

theorem maskScalar_of_nil {set : MaskerSet} (h : set.valueMaskers = []) (place : Position)
    (value : Scalar) : set.maskScalar place value = .ok value := by
  rw [maskScalar, h]
  simp [ValueMasker.chain, Except.map]

end MaskerSet

/-! ## Events that are recorded -/

namespace Masking

theorem forward_recorder (set : MaskerSet) (recorder : Recorder) (p : Position) (depth : Nat)
    (event : Event) :
    forward ⟨set, recorder, p, depth⟩ event =
      (⟨set, recorder.record [event], p, depth⟩, .ok ()) := by
  simp only [forward, Recorder.write_eq_record]

theorem step_scalar_recorder (set : MaskerSet) (recorder : Recorder) {p : Position} (hp : p.Ready)
    (value : Scalar) :
    step ⟨set, recorder, p, 0⟩ (.scalar value) =
      ((Tree.scalar value).masked set set.changed p).onto set recorder p.complete := by
  rw [step_scalar set recorder hp, Tree.masked, ← MaskerSet.maskScalar_eq]
  cases set.maskScalar p value with
  | error failure => simp [Emission.onto, Emission.failed]
  | ok masked => simp only [forward_recorder, Outcome.andThen_ok, Emission.onto]

theorem step_field_recorder (set : MaskerSet) (recorder : Recorder) (p : Position) (name : String)
    {depth : Nat} (hd : depth ≤ 1) :
    step ⟨set, recorder, p.inObject, depth⟩ (.field name) =
      match set.decision (p.inField name) with
      | .error failure => (⟨set, recorder.record [.field name], p.inField name, 0⟩, .error failure)
      | .ok none => (⟨set, recorder.record [.field name], p.inField name, 0⟩, .ok ())
      | .ok (some mask) =>
        (⟨set, recorder.record [.field name, .scalar mask.toScalar], p.inField name, 1⟩, .ok ()) := by
  rw [step_field set recorder p name hd, forward_recorder, Outcome.andThen_ok, maskField,
    MaskerSet.fieldMask_eq]
  cases set.decision (p.inField name) with
  | error failure => rfl
  | ok answer =>
    cases answer with
    | none => rfl
    | some mask =>
      simp only [forward_recorder, Outcome.andThen_ok, Recorder.record_record, List.cons_append,
        List.nil_append]

/-! ## Whole values -/

mutual

theorem writeAll_events (set : MaskerSet) (recorder : Recorder) {p : Position} (hp : p.Ready) :
    ∀ tree : Tree, Sink.writeAll (Masking.mk set recorder p 0) tree.events =
      (tree.masked set set.changed p).onto set recorder p.complete
  | .scalar value => by
    rw [Tree.events, Sink.writeAll_cons, write_eq_step, step_scalar_recorder set recorder hp value]
    generalize ((Tree.scalar value).masked set set.changed p).onto set recorder p.complete = outcome
    obtain ⟨stream, _ | _⟩ := outcome <;> rfl
  | .array hint items => by
    rw [Tree.events, List.cons_append, Sink.writeAll_cons, write_eq_step,
      (step_begin set recorder hp hint).1, forward_recorder, Outcome.andThen_ok, Sink.writeAll_append,
      writeAll_itemEvents set _ p 0 items, Tree.masked, Emission.append_assoc,
      Emission.onto_prepend]
    refine Emission.onto_andThen fun recorder => ?_
    rw [Sink.writeAll_cons, write_eq_step, step_endArray, forward_recorder]
    rfl
  | .object hint fields => by
    rw [Tree.events, List.cons_append, Sink.writeAll_cons, write_eq_step,
      (step_begin set recorder hp hint).2, forward_recorder, Outcome.andThen_ok,
      writeAll_fieldEvents set _ p (Nat.zero_le 1) fields, Tree.masked, Emission.append_assoc,
      Emission.onto_prepend]

theorem writeAll_itemEvents (set : MaskerSet) (recorder : Recorder) (p : Position) (index : Nat) :
    ∀ items : List Tree,
      Sink.writeAll (Masking.mk set recorder (p.inItem index) 0) (Tree.itemEvents items) =
        (Tree.maskedItems set set.changed p index items).onto set recorder
          (p.inItem (index + items.length))
  | [] => by simp [Tree.itemEvents, Tree.maskedItems, Emission.onto]
  | item :: items => by
    have hlen : index + (item :: items).length = index + 1 + items.length := by
      rw [List.length_cons]; omega
    rw [Tree.itemEvents, Sink.writeAll_append, Tree.maskedItems, hlen,
      writeAll_events set recorder (p.ready_inItem index) item]
    exact Emission.onto_andThen fun recorder => writeAll_itemEvents set recorder p (index + 1) items

/-- The fields of an object up to its end. The last of the fields before them may have been masked,
so something may still be held back for it. -/
theorem writeAll_fieldEvents (set : MaskerSet) (recorder : Recorder) (p : Position) {depth : Nat}
    (hd : depth ≤ 1) : ∀ fields : List (String × Tree),
      Sink.writeAll (Masking.mk set recorder p.inObject depth)
          (Tree.fieldEvents fields ++ [.endObject]) =
        (Tree.maskedFields set set.changed p fields ++ ⟨[.endObject], none⟩).onto set recorder
          p.complete
  | [] => by
    rw [Tree.fieldEvents, List.nil_append, Sink.writeAll_cons, write_eq_step,
      step_endObject set recorder p hd, forward_recorder]
    rfl
  | (name, value) :: fields => by
    rw [Tree.fieldEvents, List.cons_append, List.cons_append, List.append_assoc, Sink.writeAll_cons,
      write_eq_step, step_field_recorder set recorder p name hd, Tree.maskedFields, Emission.append_assoc,
      Emission.append_assoc, Emission.onto_prepend]
    cases set.decision (p.inField name) with
    | error failure => rfl
    | ok answer =>
      cases answer with
      | none =>
        rw [Outcome.andThen_ok, Sink.writeAll_append,
          writeAll_events set _ (p.ready_inField name) value]
        exact Emission.onto_andThen fun recorder =>
          writeAll_fieldEvents set recorder p (Nat.zero_le 1) fields
      | some mask =>
        rw [Outcome.andThen_ok, Sink.writeAll_append,
          writeAll_hidden set _ 0 (p.ready_inField name) value, Outcome.andThen_ok,
          Position.complete_inField, writeAll_fieldEvents set _ p (Nat.le_refl 1) fields,
          Emission.onto_prepend, Recorder.record_record]
        rfl

end

/-- **Streams are masked as trees are.** Where a value may come next, a stream that forwards records
the masked events of the tree at its place, and one that holds back records nothing; elsewhere the
tree is refused and nothing changes. -/
theorem writeAll_eq_masked (stream : Masking Recorder) (tree : Tree) :
    Sink.writeAll stream tree.events =
      match stream.position.checkValue tree.container? with
      | .error fault => (stream, .error (.unbalanced fault))
      | .ok () =>
        if 0 < stream.depth then ({ stream with position := stream.position.complete }, .ok ())
        else
          (tree.masked stream.set stream.set.changed stream.position).onto stream.set stream.sink
            stream.position.complete := by
  obtain ⟨set, recorder, p, depth⟩ := stream
  rcases p.checkValue_cases tree.container? with ⟨hp, hc⟩ | ⟨-, hc⟩
  · rw [hc]
    cases depth with
    | zero => exact writeAll_events set recorder hp tree
    | succ k => exact writeAll_hidden set recorder k hp tree
  · rw [hc]
    exact writeAll_refused hc

/-- The maskers may turn a zero into the other zero, and the two are equal as numbers, so what is
written is not always what the value maskers make of a scalar. -/
theorem folded_zero_not_recorded :
    let set : MaskerSet := { valueMaskers := [.custom fun _ value =>
      .ok (if value.kind = "float" then some (.float Binary64.zero.neg) else none)] }
    let tree := Tree.scalar (.float .zero)
    (Sink.writeAll (Masking.start set Recorder.empty) tree.events).1.sink.events.toList ≠
      (tree.masked set set.folded .root).events := by
  decide

end Masking
end StreamMask
