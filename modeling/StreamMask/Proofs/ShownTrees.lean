/-
What is shown of a document, where masking it does not fail: a tree again.

`Tree.Shows` is masking as a relation between trees. A stream that masks a tree to its
end gives the sink the events of the tree that is shown (`Masking.start_writeAll_shows`), and
something is shown of every tree for which that happens (`Masking.shows_of_start_writeAll`).
-/
import StreamMask.Proofs.AcceptingFacts
import StreamMask.Proofs.PrintingFacts
import StreamMask.Proofs.TreeMasking

namespace StreamMask

open Json

namespace Tree

mutual

/-- Whether a tree at a place is shown as another tree. -/
inductive Shows (set : MaskerSet) : Position → Tree → Tree → Prop where
  | scalar {place : Position} {value masked : Scalar} (answer : set.maskScalar place value = .ok masked) :
    Shows set place (.scalar value) (.scalar masked)
  | array {place : Position} {hint : Option Nat} {items shown : List Tree}
      (members : ShowsItems set place 0 items shown) :
    Shows set place (.array hint items) (.array hint shown)
  | object {place : Position} {hint : Option Nat} {fields shown : List (String × Tree)}
      (members : ShowsFields set place fields shown) :
    Shows set place (.object hint fields) (.object hint shown)

/-- The same for items of the array at a place, the first of them with this index. -/
inductive ShowsItems (set : MaskerSet) : Position → Nat → List Tree → List Tree → Prop where
  | nil {place : Position} {index : Nat} : ShowsItems set place index [] []
  | cons {place : Position} {index : Nat} {item first : Tree} {items others : List Tree}
      (head : Shows set (place.inItem index) item first)
      (tail : ShowsItems set place (index + 1) items others) :
    ShowsItems set place index (item :: items) (first :: others)

/-- The same for fields of the object at a place. Nothing is known of a value that is masked. -/
inductive ShowsFields (set : MaskerSet) :
    Position → List (String × Tree) → List (String × Tree) → Prop where
  | nil {place : Position} : ShowsFields set place [] []
  | masked {place : Position} {name : String} {value : Tree} {mask : Mask}
      {fields others : List (String × Tree)}
      (answer : set.fieldMask (place.inField name) = .ok (some mask))
      (tail : ShowsFields set place fields others) :
    ShowsFields set place ((name, value) :: fields) ((name, .scalar mask.toScalar) :: others)
  | passed {place : Position} {name : String} {value first : Tree}
      {fields others : List (String × Tree)}
      (answer : set.fieldMask (place.inField name) = .ok none)
      (head : Shows set (place.inField name) value first)
      (tail : ShowsFields set place fields others) :
    ShowsFields set place ((name, value) :: fields) ((name, first) :: others)

end

variable {set : MaskerSet}

/-! ## Emissions that go to the end -/

theorem stop_append (first second : Emission) : (first ++ second).stop = first.stop.or second.stop := by
  obtain ⟨xs, _ | stop⟩ := first <;> rfl

theorem stop_append_eq_none {first second : Emission} :
    (first ++ second).stop = none ↔ first.stop = none ∧ second.stop = none := by
  rw [stop_append, Option.or_eq_none_iff]

mutual

/-- What is shown of a tree is what is emitted for it. -/
theorem Shows.masked_eq {place : Position} {tree shown : Tree} (h : Shows set place tree shown) :
    tree.masked set set.changed place = ⟨shown.events, none⟩ := by
  match h with
  | .scalar answer =>
    rw [Tree.masked, ← MaskerSet.maskScalar_eq, answer]
    rfl
  | .array members =>
    rw [Tree.masked, members.masked_eq]
    rfl
  | .object members =>
    rw [Tree.masked, members.masked_eq]
    rfl

theorem ShowsItems.masked_eq {place : Position} {index : Nat} {items shown : List Tree}
    (h : ShowsItems set place index items shown) :
    maskedItems set set.changed place index items = ⟨itemEvents shown, none⟩ := by
  match h with
  | .nil => rfl
  | .cons head tail =>
    rw [maskedItems, head.masked_eq, tail.masked_eq]
    rfl

theorem ShowsFields.masked_eq {place : Position} {fields shown : List (String × Tree)}
    (h : ShowsFields set place fields shown) :
    maskedFields set set.changed place fields = ⟨fieldEvents shown, none⟩ := by
  match h with
  | .nil => rfl
  | .masked answer tail =>
    rw [maskedFields, ← MaskerSet.fieldMask_eq, answer, tail.masked_eq]
    rfl
  | .passed answer head tail =>
    rw [maskedFields, ← MaskerSet.fieldMask_eq, answer, tail.masked_eq]
    simp only [head.masked_eq]
    rfl

end

mutual

/-- **Where masking does not fail, a tree is shown.** -/
theorem shows_of_stop (place : Position) (tree : Tree)
    (h : (tree.masked set set.changed place).stop = none) :
    ∃ shown, Shows set place tree shown := by
  match tree with
  | scalar value =>
    rw [Tree.masked, ← MaskerSet.maskScalar_eq] at h
    cases hanswer : set.maskScalar place value with
    | error failure => rw [hanswer] at h; contradiction
    | ok masked => exact ⟨_, .scalar hanswer⟩
  | array hint items =>
    rw [Tree.masked] at h
    obtain ⟨hopened, -⟩ := stop_append_eq_none.mp h
    obtain ⟨shown, hshown⟩ := showsItems_of_stop place 0 items (stop_append_eq_none.mp hopened).2
    exact ⟨_, .array hshown⟩
  | object hint fields =>
    rw [Tree.masked] at h
    obtain ⟨hopened, -⟩ := stop_append_eq_none.mp h
    obtain ⟨shown, hshown⟩ := showsFields_of_stop place fields (stop_append_eq_none.mp hopened).2
    exact ⟨_, .object hshown⟩

theorem showsItems_of_stop (place : Position) (index : Nat) (items : List Tree)
    (h : (maskedItems set set.changed place index items).stop = none) :
    ∃ shown, ShowsItems set place index items shown := by
  match items with
  | [] => exact ⟨[], .nil⟩
  | item :: items =>
    rw [maskedItems] at h
    obtain ⟨hitem, hitems⟩ := stop_append_eq_none.mp h
    obtain ⟨first, hfirst⟩ := shows_of_stop _ item hitem
    obtain ⟨others, hothers⟩ := showsItems_of_stop place (index + 1) items hitems
    exact ⟨_, .cons hfirst hothers⟩

theorem showsFields_of_stop (place : Position) (fields : List (String × Tree))
    (h : (maskedFields set set.changed place fields).stop = none) :
    ∃ shown, ShowsFields set place fields shown := by
  match fields with
  | [] => exact ⟨[], .nil⟩
  | (name, value) :: fields =>
    rw [maskedFields, ← MaskerSet.fieldMask_eq] at h
    obtain ⟨hhead, hfields⟩ := stop_append_eq_none.mp h
    obtain ⟨others, hothers⟩ := showsFields_of_stop place fields hfields
    have hvalue := (stop_append_eq_none.mp hhead).2
    cases hanswer : set.fieldMask (place.inField name) with
    | error failure => rw [hanswer] at hvalue; contradiction
    | ok answer =>
      rw [hanswer] at hvalue
      cases answer with
      | some mask => exact ⟨_, .masked hanswer hothers⟩
      | none =>
        obtain ⟨first, hfirst⟩ := shows_of_stop _ value hvalue
        exact ⟨_, .passed hanswer hfirst hothers⟩

end

end Tree

/-! ## What is shown is legible -/

/-- What holds of every mask holds of what a chain of maskers makes of a scalar. -/
theorem ValueMasker.chain_holds {P : Scalar → Prop} (hmask : ∀ mask : Mask, P mask.toScalar)
    {place : Position} {maskers : List ValueMasker} {value masked : Scalar} (hvalue : P value)
    (h : chain maskers place value = .ok masked) : P masked := by
  induction maskers generalizing value with
  | nil =>
    cases h
    exact hvalue
  | cons masker maskers ih =>
    rw [chain] at h
    split at h
    · contradiction
    · exact ih hvalue h
    · exact ih (hmask _) h

theorem MaskerSet.maskScalar_holds {P : Scalar → Prop} (hmask : ∀ mask : Mask, P mask.toScalar)
    {set : MaskerSet} {place : Position} {value masked : Scalar} (hvalue : P value)
    (h : set.maskScalar place value = .ok masked) : P masked := by
  rw [maskScalar] at h
  split at h
  · cases hchain : ValueMasker.chain set.valueMaskers place value with
    | error failure => rw [hchain] at h; contradiction
    | ok result =>
      rw [hchain] at h
      cases h
      show P (if result.agrees value then value else result)
      split
      · exact hvalue
      · exact ValueMasker.chain_holds hmask hvalue hchain
  · cases h
    exact hvalue

namespace Tree

variable {set : MaskerSet}

mutual

/-- **What is shown of a legible tree is legible.** -/
theorem Shows.legible {place : Position} {tree shown : Tree} (h : Shows set place tree shown)
    (hlegible : tree.Legible) : shown.Legible := by
  match h with
  | .scalar answer => exact MaskerSet.maskScalar_holds Scalar.legible_mask hlegible answer
  | .array members => exact members.legible hlegible
  | .object members => exact members.legible hlegible

theorem ShowsItems.legible {place : Position} {index : Nat} {items shown : List Tree}
    (h : ShowsItems set place index items shown) (hlegible : ItemsLegible items) :
    ItemsLegible shown := by
  match h with
  | .nil => trivial
  | .cons head tail => exact ⟨head.legible hlegible.1, tail.legible hlegible.2⟩

theorem ShowsFields.legible {place : Position} {fields shown : List (String × Tree)}
    (h : ShowsFields set place fields shown) (hlegible : FieldsLegible fields) :
    FieldsLegible shown := by
  match h with
  | .nil => trivial
  | .masked answer tail => exact ⟨Scalar.legible_mask _, tail.legible hlegible.2⟩
  | .passed answer head tail => exact ⟨head.legible hlegible.1, tail.legible hlegible.2⟩

end

end Tree

/-! ## Streams of trees -/

namespace Masking

variable {σ : Type} [Sink σ] {set : MaskerSet}

/-- A stream into a sink that takes every event gives it the events of what is shown. -/
theorem start_writeAll_shows (haccepts : Sink.Accepts σ) {tree shown : Tree}
    (h : tree.Shows set .root shown) (sink : σ) :
    Sink.writeAll (start set sink) tree.events =
      (start set (Sink.writeAll sink shown.events).1, .ok ()) := by
  have hrecorded := writeAll_events set Recorder.empty Position.ready_root tree
  rw [h.masked_eq] at hrecorded
  have hinto := writeAll_into haccepts (start set Recorder.empty) sink tree.events
  rw [show Sink.writeAll (start set Recorder.empty) tree.events = _ from hrecorded] at hinto
  refine hinto.trans ?_
  simp only [outcomeInto, into, start, Emission.onto, Recorder.record_events, haccepts.writeAll]
  rfl

/-- If such a stream goes to the end of a tree, something is shown of it. -/
theorem shows_of_start_writeAll (haccepts : Sink.Accepts σ) {tree : Tree} {sink : σ}
    (h : (Sink.writeAll (start set sink) tree.events).2 = .ok ()) :
    ∃ shown, tree.Shows set .root shown := by
  have hrecorded := writeAll_events set Recorder.empty Position.ready_root tree
  have hinto := writeAll_into haccepts (start set Recorder.empty) sink tree.events
  have hresult : (Sink.writeAll (start set Recorder.empty) tree.events).2 = .ok () :=
    (congrArg Prod.snd hinto).symm.trans h
  rw [show Sink.writeAll (start set Recorder.empty) tree.events = _ from hrecorded] at hresult
  refine Tree.shows_of_stop .root tree ?_
  generalize tree.masked set set.changed .root = emission at hresult ⊢
  obtain ⟨events, _ | stop⟩ := emission
  · rfl
  · contradiction

end Masking

end StreamMask
