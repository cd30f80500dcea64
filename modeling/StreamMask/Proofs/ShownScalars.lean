/-
Where the scalars of a document are in what is shown of it.

A scalar outside all masked fields is shown at its own place, as the value maskers make
it, and a stream that has taken the events before it has passed on what is shown before
it (`Tree.HasScalar.shown`). In JSON it stands right after what has been written then,
with at most a comma between, and what is written later comes after it.
-/
import StreamMask.Proofs.MaskedText
import StreamMask.Proofs.WithheldScalars

namespace StreamMask

/-! ## Streams inside a document -/

namespace Masking

variable {set : MaskerSet} {p : Position}

theorem writeAll_showsItems {index : Nat} {items shown : List Tree}
    (h : Tree.ShowsItems set p index items shown) (recorder : Recorder) :
    Sink.writeAll (Masking.mk set recorder (p.inItem index) 0) (Tree.itemEvents items) =
      (⟨set, recorder.record (Tree.itemEvents shown), p.inItem (index + items.length), 0⟩, .ok ()) := by
  rw [writeAll_itemEvents, h.masked_eq]
  rfl

/-- From between two fields of an object to a later field that is not masked. -/
theorem writeAll_toField {fields shown : List (String × Tree)} (h : Tree.ShowsFields set p fields shown)
    {name : String} (hname : set.fieldMask (p.inField name) = .ok none) (recorder : Recorder)
    {depth : Nat} (hd : depth ≤ 1) :
    Sink.writeAll (Masking.mk set recorder p.inObject depth) (Tree.fieldEvents fields ++ [.field name]) =
      (⟨set, recorder.record (Tree.fieldEvents shown ++ [.field name]), p.inField name, 0⟩,
        .ok ()) := by
  induction fields generalizing shown recorder depth with
  | nil =>
    cases h
    rw [MaskerSet.fieldMask_eq] at hname
    rw [Tree.fieldEvents, List.nil_append, Sink.writeAll_cons, write_eq_step,
      step_field_recorder set recorder p name hd, hname]
    rfl
  | cons field fields ih =>
    obtain ⟨other, value⟩ := field
    rw [Tree.fieldEvents, List.cons_append, List.cons_append, List.append_assoc, Sink.writeAll_cons,
      write_eq_step, step_field_recorder set recorder p other hd]
    cases h with
    | masked answer tail =>
      rw [← MaskerSet.fieldMask_eq, answer]
      dsimp only
      rw [Outcome.andThen_ok, Sink.writeAll_append, writeAll_hidden set _ 0 (p.ready_inField other) value,
        Outcome.andThen_ok, Position.complete_inField, ih tail _ (Nat.le_refl 1),
        Recorder.record_record]
      rfl
    | passed answer head tail =>
      rw [← MaskerSet.fieldMask_eq, answer]
      dsimp only
      rw [Outcome.andThen_ok, Sink.writeAll_append,
        writeAll_events set _ (p.ready_inField other) value, head.masked_eq]
      simp only [Emission.onto, Outcome.andThen_ok]
      rw [Position.complete_inField, ih tail _ (Nat.zero_le 1), Recorder.record_record,
        Recorder.record_record, Tree.fieldEvents]
      simp

end Masking

namespace Tree

variable {set : MaskerSet} {place inner : Position}

/-! ## One member among others -/

theorem ShowsItems.split {index : Nat} {before after shown : List Tree} {item : Tree}
    (h : ShowsItems set place index (before ++ item :: after) shown) :
    ∃ before' item' after', shown = before' ++ item' :: after' ∧ before'.length = before.length ∧
      ShowsItems set place index before before' ∧
      Shows set (place.inItem (index + before.length)) item item' := by
  induction before generalizing index shown with
  | nil =>
    cases h with
    | cons head tail => exact ⟨[], _, _, rfl, rfl, .nil, head⟩
  | cons first before ih =>
    cases h with
    | cons head tail =>
      obtain ⟨before', item', after', rfl, hlength, hbefore, hitem⟩ := ih tail
      refine ⟨_ :: before', item', after', rfl, congrArg (· + 1) hlength, .cons head hbefore, ?_⟩
      rwa [List.length_cons, Nat.add_comm before.length, ← Nat.add_assoc]

theorem ShowsFields.split {before after shown : List (String × Tree)} {name : String} {value : Tree}
    (h : ShowsFields set place (before ++ (name, value) :: after) shown)
    (hname : ∀ mask, set.fieldMask (place.inField name) ≠ .ok (some mask)) :
    ∃ before' value' after', shown = before' ++ (name, value') :: after' ∧
      ShowsFields set place before before' ∧ set.fieldMask (place.inField name) = .ok none ∧
      Shows set (place.inField name) value value' := by
  induction before generalizing shown with
  | nil =>
    cases h with
    | masked answer tail => exact absurd answer (hname _)
    | passed answer head tail => exact ⟨[], _, _, rfl, .nil, answer, head⟩
  | cons first before ih =>
    cases h with
    | masked answer tail =>
      obtain ⟨before', value', after', rfl, hbefore, hvalue⟩ := ih tail
      exact ⟨_ :: before', value', after', rfl, .masked answer hbefore, hvalue⟩
    | passed answer head tail =>
      obtain ⟨before', value', after', rfl, hbefore, hvalue⟩ := ih tail
      exact ⟨_ :: before', value', after', rfl, .passed answer head hbefore, hvalue⟩

/-! ## Scalars at their places -/

variable {tree out : Tree} {events : List Event} {value : Scalar}

/-- A scalar is at the place of its document or inside it. -/
theorem HasScalar.frames_suffix (h : HasScalar place tree events inner value) :
    place.frames <:+ inner.frames := by
  induction h with
  | here => exact List.suffix_rfl
  | item before h ih => exact (List.suffix_cons ..).trans ih
  | field before h ih => exact (List.suffix_cons ..).trans ih

/-- No field on the way to a scalar outside all masked fields is masked. -/
theorem HasScalar.fieldMask_ne {name : String} (h : HasScalar (place.inField name) tree events inner value)
    (hcovers : ¬set.Covers inner) (mask : Mask) : set.fieldMask (place.inField name) ≠ .ok (some mask) := by
  intro hmask
  obtain ⟨masker, hmem, hmasker⟩ := FieldMasker.firstMask_eq_some hmask
  exact hcovers ⟨place, name, h.frames_suffix, masker, hmem, mask, hmasker⟩

/-- **A scalar outside all masked fields is shown at its own place**, after what is shown of all that
comes before it. -/
theorem HasScalar.shown (hscalar : HasScalar place tree events inner value)
    (h : Shows set place tree out) (hp : place.Ready) (hcovers : ¬set.Covers inner)
    (recorder : Recorder) :
    ∃ before masked, set.maskScalar inner value = .ok masked ∧
      HasScalar place out before inner masked ∧
      Sink.writeAll (Masking.mk set recorder place 0) events =
        (⟨set, recorder.record before, inner, 0⟩, .ok ()) := by
  induction hscalar generalizing out recorder with
  | here =>
    cases h with
    | scalar answer => exact ⟨[], _, answer, .here, by simp⟩
  | @item place inner hint before after item events value hscalar ih =>
    cases h with
    | array members =>
      obtain ⟨before', item', after', rfl, hlength, hbefore, hitem⟩ := members.split
      rw [Nat.zero_add] at hitem
      obtain ⟨inside, masked, hmasked, hinside, hrun⟩ :=
        ih hitem (place.ready_inItem _) hcovers
          (recorder.record (.beginArray hint :: itemEvents before'))
      rw [← hlength] at hinside
      refine ⟨_, masked, hmasked, .item before' hinside, ?_⟩
      rw [Sink.writeAll_cons, Masking.write_eq_step, (Masking.step_begin set recorder hp hint).1,
        Masking.forward_recorder, Outcome.andThen_ok, Sink.writeAll_append,
        Masking.writeAll_showsItems hbefore, Outcome.andThen_ok, Nat.zero_add, Recorder.record_record,
        List.singleton_append, hrun, Recorder.record_record]
      rfl
  | @field place inner hint before after name field events value hscalar ih =>
    cases h with
    | object members =>
      obtain ⟨before', value', after', rfl, hbefore, hname, hvalue⟩ :=
        members.split (hscalar.fieldMask_ne hcovers)
      obtain ⟨inside, masked, hmasked, hinside, hrun⟩ :=
        ih hvalue (place.ready_inField name) hcovers
          (recorder.record (.beginObject hint :: (fieldEvents before' ++ [.field name])))
      refine ⟨_, masked, hmasked, .field before' hinside, ?_⟩
      rw [Sink.writeAll_cons, Masking.write_eq_step, (Masking.step_begin set recorder hp hint).2,
        Masking.forward_recorder, Outcome.andThen_ok, List.append_cons, Sink.writeAll_append,
        Masking.writeAll_toField hbefore hname _ (Nat.zero_le 1),
        Outcome.andThen_ok, Recorder.record_record, List.singleton_append, hrun, Recorder.record_record]
      simp

end Tree

/-! ## Scalars in what is written -/

namespace Writer

/-- What has been written is the beginning of what is written after some more. -/
def Grows (writer later : Writer String) : Prop :=
  ∃ more, later.output = writer.output ++ more

theorem Grows.refl (writer : Writer String) : writer.Grows writer :=
  ⟨"", String.append_empty.symm⟩

theorem Grows.trans {first second third : Writer String} (h : first.Grows second)
    (h' : second.Grows third) : first.Grows third := by
  obtain ⟨more, hmore⟩ := h
  obtain ⟨still, hstill⟩ := h'
  exact ⟨more ++ still, by rw [hstill, hmore, String.append_assoc]⟩

/-- What separates a value from what came before it. -/
theorem separated_output (writer : Writer String) :
    ∃ separator ∈ ["", ",", "\n"], writer.separated.output = writer.output ++ separator := by
  obtain ⟨output, started, afterName, begun⟩ := writer
  cases afterName with
  | true => exact ⟨"", by simp, String.append_empty.symm⟩
  | false =>
    cases started with
    | nil => cases begun <;> exact ⟨_, by simp, rfl⟩
    | cons isStarted outer => cases isStarted <;> exact ⟨_, by simp [Tree.comma], rfl⟩

/-- What has been written stays written. -/
theorem write_grows (writer : Writer String) (event : Event) :
    writer.Grows (Sink.write writer event).1 := by
  obtain ⟨separator, -, hseparated⟩ := writer.separated_output
  cases event with
  | beginObject hint =>
    refine ⟨separator ++ "\x7b", ?_⟩
    show (writer.beginContainer "\x7b").1.output = _
    rw [beginContainer, beforeValue_eq, ← String.append_assoc, ← hseparated]
    rfl
  | beginArray hint =>
    refine ⟨separator ++ "[", ?_⟩
    show (writer.beginContainer "[").1.output = _
    rw [beginContainer, beforeValue_eq, ← String.append_assoc, ← hseparated]
    rfl
  | endObject => exact ⟨"\x7d", rfl⟩
  | endArray => exact ⟨"]", rfl⟩
  | field name =>
    obtain ⟨output, started, afterName, begun⟩ := writer
    cases started with
    | nil => exact ⟨Json.quote name ++ ":", by rw [← String.append_assoc]; rfl⟩
    | cons isStarted outer =>
      refine ⟨Tree.comma isStarted ++ (Json.quote name ++ ":"), ?_⟩
      show (field _ name).1.output = _
      unfold field
      simp only [separate_eq, ← String.append_assoc]
      rfl
  | scalar value =>
    refine ⟨separator ++ value.json, ?_⟩
    show (writer.scalar value).1.output = _
    rw [scalar, beforeValue_eq, ← String.append_assoc, ← hseparated]
    rfl
  | flush => exact Grows.refl writer

theorem feed_grows (writer : Writer String) (events : List Event) :
    writer.Grows (Sink.feed writer events) := by
  induction events generalizing writer with
  | nil => exact Grows.refl writer
  | cons event events ih => exact (write_grows writer event).trans (ih _)

/-- A scalar is written after its separator. -/
theorem write_scalar (writer : Writer String) (value : Scalar) :
    (Sink.write writer (.scalar value)).1 = writer.separated.text value.json := by
  have hwritten := congrArg Prod.fst (writer.writeAll_tree (.scalar value))
  rwa [Tree.events, Sink.Accepts.writeAll write_ok] at hwritten

/-- A scalar of a document is written after all that comes before it and before all that comes
after. -/
theorem json_of_hasScalar {tree : Tree} {before : List Event} {place inner : Position} {value : Scalar}
    (h : tree.HasScalar place before inner value) :
    let written := Sink.feed (fresh "") before
    ∃ separator ∈ ["", ",", "\n"], ∃ rest,
      (Sink.write written (.scalar value)).1.output = written.output ++ separator ++ value.json ∧
        tree.json = written.output ++ separator ++ value.json ++ rest := by
  intro written
  obtain ⟨separator, hseparator, houtput⟩ := written.separated_output
  have hscalar : (Sink.write written (.scalar value)).1.output =
      written.output ++ separator ++ value.json := by
    rw [write_scalar, ← houtput]
    rfl
  obtain ⟨after, hevents⟩ := h.events_eq
  obtain ⟨rest, hrest⟩ := feed_grows (Sink.write written (.scalar value)).1 after
  have htree : tree.json = (Sink.feed (fresh "") tree.events).output := by
    have hwritten := congrArg (·.1.output) ((fresh "").writeAll_tree tree)
    rw [Sink.Accepts.writeAll write_ok] at hwritten
    refine Eq.symm (hwritten.trans ?_)
    show "" ++ "" ++ tree.json = tree.json
    rw [String.empty_append, String.empty_append]
  refine ⟨separator, hseparator, rest, hscalar, ?_⟩
  rw [htree, hevents, Sink.feed_append, Sink.feed_cons, hrest, hscalar]

end Writer

/-- What is shown of a scalar of a text, in the masked text: it stands behind what has been written
when the scalar comes, with at most a comma between. -/
theorem maskText_shows_scalar {set : MaskerSet} {text out : String} {value : Json.Value}
    {events : List Event} {place : Position} {scalar : Scalar}
    (hspells : Json.SpellsElement value text.toList) (h : maskText set text = .ok out)
    (hscalar : value.tree.HasScalar .root events place scalar) (hcovers : ¬set.Covers place) :
    let stream := (Sink.writeAll (Masking.start set (Writer.fresh "")) events).1
    ∃ masked, set.maskScalar place scalar = .ok masked ∧
      ∃ separator ∈ ["", ","], ∃ rest,
        (stream.step (.scalar scalar)).1.sink.output =
            stream.sink.output ++ separator ++ masked.json ∧
          out = stream.sink.output ++ separator ++ masked.json ++ rest := by
  obtain ⟨value', shown, hspells', -, hshown, rfl⟩ := maskText_eq_ok.mp h
  obtain rfl : value' = value := Json.SpellsElement.unique hspells' hspells
  obtain ⟨before, masked, hmasked, hinside, hrun⟩ :=
    hscalar.shown hshown Position.ready_root hcovers Recorder.empty
  have hready := (hscalar.follow Position.ready_root).2
  have hstream := Masking.writeAll_into Writer.write_ok (Masking.start set Recorder.empty)
    (Writer.fresh "") events
  rw [show Sink.writeAll (Masking.start set Recorder.empty) events = _ from hrun] at hstream
  obtain ⟨separator, hseparator, rest, hwrite, hout⟩ := Writer.json_of_hasScalar hinside
  have hline : separator ≠ "\n" := by
    rintro rfl
    have hvisible := maskText_visible h
    rw [hout] at hvisible
    exact absurd (hvisible '\n' (by simp)) (by decide)
  intro stream
  obtain ⟨hsink, hstep⟩ : stream.sink = Sink.feed (Writer.fresh "") before ∧
      (stream.step (.scalar scalar)).1.sink = (Sink.write stream.sink (.scalar masked)).1 := by
    have hfst : stream = ⟨set, Sink.feed (Writer.fresh "") before, place, 0⟩ := by
      refine (congrArg Prod.fst hstream).trans ?_
      simp only [Masking.outcomeInto, Masking.into, Recorder.record_events]
      rfl
    rw [hfst]
    refine ⟨rfl, ?_⟩
    rw [Masking.step_scalar set _ hready, hmasked]
    dsimp only
    rw [Masking.forward, Sink.Accepts.write_eq Writer.write_ok]
    rfl
  rw [hstep, hsink]
  refine ⟨masked, hmasked, separator, by simp_all, rest, hwrite, hout⟩

end StreamMask
