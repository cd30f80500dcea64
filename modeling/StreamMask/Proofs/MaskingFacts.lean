/-
What a masking stream does with each kind of event, where it forwards and where
it holds back, and with the events of a whole value that is held back: nothing
is written, and only the place in the document moves on. So the depth is after
the value what it was before, whatever the value is.
-/
import StreamMask.Masking
import StreamMask.Proofs.PositionFacts
import StreamMask.Proofs.SinkFacts

namespace StreamMask.Masking

variable {σ : Type} [Sink σ]

@[simp] theorem write_eq_step (stream : Masking σ) (event : Event) :
    Sink.write stream event = stream.step event := rfl

/-- What follows an event that is passed on follows only if the sink takes it. -/
theorem forward_andThen_cases (set : MaskerSet) (sink : σ) (p : Position) (depth : Nat) (event : Event)
    (next : Masking σ → Outcome (Masking σ)) :
    (∃ sink', Sink.write sink event = (sink', .ok ()) ∧
        Outcome.andThen (forward ⟨set, sink, p, depth⟩ event) next = next ⟨set, sink', p, depth⟩) ∨
      ∃ sink' failure, Sink.write sink event = (sink', .error failure) ∧
        Outcome.andThen (forward ⟨set, sink, p, depth⟩ event) next =
          (⟨set, sink', p, depth⟩, .error failure) := by
  rcases hw : Sink.write sink event with ⟨sink', failure | _⟩
  · exact .inr ⟨sink', failure, rfl, by simp [forward, hw]⟩
  · exact .inl ⟨sink', rfl, by simp only [forward, hw]; rfl⟩

/-! ## Single events that are passed on -/

theorem step_begin (set : MaskerSet) (sink : σ) {p : Position} (hp : p.Ready) (hint : Option Nat) :
    step ⟨set, sink, p, 0⟩ (.beginArray hint) =
        forward ⟨set, sink, p.inItem 0, 0⟩ (.beginArray hint) ∧
      step ⟨set, sink, p, 0⟩ (.beginObject hint) =
        forward ⟨set, sink, p.inObject, 0⟩ (.beginObject hint) := by
  simp [step, enter, hp.enter_array, hp.enter_object, Container.opening]

theorem step_endArray (set : MaskerSet) (sink : σ) (p : Position) (index : Nat) :
    step ⟨set, sink, p.inItem index, 0⟩ .endArray = forward ⟨set, sink, p.complete, 0⟩ .endArray := by
  simp [step, leave, Container.closing]

/-- The end of an object releases what was held back for its last field. -/
theorem step_endObject (set : MaskerSet) (sink : σ) (p : Position) {depth : Nat} (hd : depth ≤ 1) :
    step ⟨set, sink, p.inObject, depth⟩ .endObject = forward ⟨set, sink, p.complete, 0⟩ .endObject := by
  have h0 : depth - 1 = 0 := by omega
  simp [step, leave, Container.closing, h0]

theorem step_scalar (set : MaskerSet) (sink : σ) {p : Position} (hp : p.Ready) (value : Scalar) :
    step ⟨set, sink, p, 0⟩ (.scalar value) =
      match set.maskScalar p value with
      | .error failure => (⟨set, sink, p, 0⟩, .error failure)
      | .ok masked =>
        Outcome.andThen (forward ⟨set, sink, p, 0⟩ (.scalar masked)) fun stream =>
          ({ stream with position := stream.position.complete }, .ok ()) := by
  show scalar ⟨set, sink, p, 0⟩ value = _
  rw [scalar, hp.checkValue]
  cases set.maskScalar p value with
  | error failure => rfl
  | ok masked => rfl

/-- A field name releases what was held back for the field before it, and is decided afresh. -/
theorem step_field (set : MaskerSet) (sink : σ) (p : Position) (name : String) {depth : Nat}
    (hd : depth ≤ 1) :
    step ⟨set, sink, p.inObject, depth⟩ (.field name) =
      Outcome.andThen (forward ⟨set, sink, p.inField name, 0⟩ (.field name)) maskField := by
  simp only [step, field, Position.enterField_inObject]
  rw [if_neg (by omega)]

/-! ## Single events that are held back -/

theorem step_begin_hidden (set : MaskerSet) (sink : σ) {p : Position} (k : Nat) (hp : p.Ready)
    (hint : Option Nat) :
    step ⟨set, sink, p, k + 1⟩ (.beginArray hint) = (⟨set, sink, p.inItem 0, k + 2⟩, .ok ()) ∧
      step ⟨set, sink, p, k + 1⟩ (.beginObject hint) = (⟨set, sink, p.inObject, k + 2⟩, .ok ()) := by
  simp [step, enter, hp.enter_array, hp.enter_object]

theorem step_end_hidden (set : MaskerSet) (sink : σ) (p : Position) (k index : Nat) :
    step ⟨set, sink, p.inItem index, k + 2⟩ .endArray = (⟨set, sink, p.complete, k + 1⟩, .ok ()) ∧
      step ⟨set, sink, p.inObject, k + 2⟩ .endObject = (⟨set, sink, p.complete, k + 1⟩, .ok ()) := by
  simp [step, leave]

theorem step_field_hidden (set : MaskerSet) (sink : σ) (p : Position) (k : Nat) (name : String) :
    step ⟨set, sink, p.inObject, k + 2⟩ (.field name) =
      (⟨set, sink, p.inField name, k + 2⟩, .ok ()) := by
  simp [step, field]

theorem step_scalar_hidden (set : MaskerSet) (sink : σ) {p : Position} (k : Nat) (hp : p.Ready)
    (value : Scalar) :
    step ⟨set, sink, p, k + 1⟩ (.scalar value) = (⟨set, sink, p.complete, k + 1⟩, .ok ()) := by
  simp [step, scalar, hp.checkValue]

/-! ## Whole values -/

mutual

/-- **A value that is held back leaves no trace but its end.** -/
theorem writeAll_hidden (set : MaskerSet) (sink : σ) {p : Position} (k : Nat) (hp : p.Ready) :
    ∀ tree : Tree, Sink.writeAll (Masking.mk set sink p (k + 1)) tree.events =
      (⟨set, sink, p.complete, k + 1⟩, .ok ())
  | .scalar value => by
    rw [Tree.events, Sink.writeAll_cons, write_eq_step, step_scalar_hidden set sink k hp value]
    rfl
  | .array hint items => by
    rw [Tree.events, List.cons_append, Sink.writeAll_cons, write_eq_step,
      (step_begin_hidden set sink k hp hint).1, Outcome.andThen_ok, Sink.writeAll_append,
      writeAll_hidden_items set sink p (k + 1) 0 items, Outcome.andThen_ok, Sink.writeAll_cons,
      write_eq_step, (step_end_hidden set sink p k _).1]
    rfl
  | .object hint fields => by
    rw [Tree.events, List.cons_append, Sink.writeAll_cons, write_eq_step,
      (step_begin_hidden set sink k hp hint).2, Outcome.andThen_ok, Sink.writeAll_append,
      writeAll_hidden_fields set sink p k fields, Outcome.andThen_ok, Sink.writeAll_cons,
      write_eq_step, (step_end_hidden set sink p k 0).2]
    rfl

theorem writeAll_hidden_items (set : MaskerSet) (sink : σ) (p : Position) (k index : Nat) :
    ∀ items : List Tree,
      Sink.writeAll (Masking.mk set sink (p.inItem index) (k + 1)) (Tree.itemEvents items) =
        (⟨set, sink, p.inItem (index + items.length), k + 1⟩, .ok ())
  | [] => rfl
  | item :: items => by
    rw [Tree.itemEvents, Sink.writeAll_append,
      writeAll_hidden set sink k (p.ready_inItem index) item, Outcome.andThen_ok,
      Position.complete_inItem, writeAll_hidden_items set sink p k (index + 1) items,
      List.length_cons, Nat.add_assoc, Nat.add_comm 1]

theorem writeAll_hidden_fields (set : MaskerSet) (sink : σ) (p : Position) (k : Nat) :
    ∀ fields : List (String × Tree),
      Sink.writeAll (Masking.mk set sink p.inObject (k + 2)) (Tree.fieldEvents fields) =
        (⟨set, sink, p.inObject, k + 2⟩, .ok ())
  | [] => rfl
  | (name, value) :: fields => by
    rw [Tree.fieldEvents, List.cons_append, Sink.writeAll_cons, write_eq_step,
      step_field_hidden set sink p k name, Outcome.andThen_ok, Sink.writeAll_append,
      writeAll_hidden set sink (k + 1) (p.ready_inField name) value, Outcome.andThen_ok,
      Position.complete_inField, writeAll_hidden_fields set sink p k fields]

end

/-- A value that may not stand at the place is refused at its first event, and nothing moves. -/
theorem writeAll_refused {stream : Masking σ} {tree : Tree} {fault : Imbalance}
    (h : stream.position.checkValue tree.container? = .error fault) :
    Sink.writeAll stream tree.events = (stream, .error (.unbalanced fault)) := by
  cases tree with
  | scalar value =>
    rw [Tree.container?] at h
    simp [Tree.events, Sink.writeAll_cons, step, scalar, h]
  | array hint items =>
    rw [Tree.container?] at h
    simp [Tree.events, Sink.writeAll_cons, step, enter, Position.enter, h]
  | object hint fields =>
    rw [Tree.container?] at h
    simp [Tree.events, Sink.writeAll_cons, step, enter, Position.enter, h]

end StreamMask.Masking
