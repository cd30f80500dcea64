/-
Writing several events to a sink: up to the first that fails (`writeAll`), or
one by one whatever comes of them (`feed`).
-/
import StreamMask.Sink

namespace StreamMask

/-- A result can be decided that need not be compared with failures. -/
theorem ok_of_toOption {ε α : Type} {result : Except ε α} {value : α}
    (h : result.toOption = some value) : result = .ok value := by
  cases result with
  | error failure => contradiction
  | ok found => exact congrArg Except.ok (Option.some.inj h)

namespace Outcome

variable {σ : Type}

@[simp] theorem andThen_ok (state : σ) (next : σ → Outcome σ) :
    andThen (state, .ok ()) next = next state := rfl

@[simp] theorem andThen_error (state : σ) (failure : Failure) (next : σ → Outcome σ) :
    andThen (state, .error failure) next = (state, .error failure) := rfl

theorem andThen_assoc (outcome : Outcome σ) (f g : σ → Outcome σ) :
    andThen (andThen outcome f) g = andThen outcome fun state => andThen (f state) g := by
  obtain ⟨state, _ | _⟩ := outcome <;> rfl

end Outcome

namespace Sink

variable {σ : Type} [Sink σ]

@[simp] theorem writeAll_nil (sink : σ) : writeAll sink [] = (sink, .ok ()) := rfl

theorem writeAll_cons (sink : σ) (event : Event) (events : List Event) :
    writeAll sink (event :: events) =
      Outcome.andThen (write sink event) fun sink => writeAll sink events := rfl

theorem writeAll_single (sink : σ) (event : Event) : writeAll sink [event] = write sink event := by
  rw [writeAll_cons]
  obtain ⟨next, _ | _⟩ := write sink event <;> rfl

theorem writeAll_append (sink : σ) (xs ys : List Event) :
    writeAll sink (xs ++ ys) = Outcome.andThen (writeAll sink xs) fun sink => writeAll sink ys := by
  induction xs generalizing sink with
  | nil => rfl
  | cons event xs ih =>
    rw [List.cons_append, writeAll_cons, writeAll_cons, Outcome.andThen_assoc]
    congr 1
    funext sink
    exact ih sink

/-- Write events one by one, going on after those that fail. -/
def feed (sink : σ) (events : List Event) : σ :=
  events.foldl (fun sink event => (write sink event).1) sink

@[simp] theorem feed_nil (sink : σ) : feed sink [] = sink := rfl

theorem feed_cons (sink : σ) (event : Event) (events : List Event) :
    feed sink (event :: events) = feed (write sink event).1 events := rfl

/-- What holds of a sink and is kept by every event holds after any events. -/
theorem feed_invariant (P : σ → Prop) (step : ∀ sink event, P sink → P (write sink event).1)
    {sink : σ} (h : P sink) (events : List Event) : P (feed sink events) := by
  induction events generalizing sink with
  | nil => exact h
  | cons event events ih => exact ih (step sink event h)

/-- What holds of a sink and is kept by every event holds wherever writing ends. -/
theorem writeAll_invariant (P : σ → Prop) (step : ∀ sink event, P sink → P (write sink event).1)
    {sink : σ} (h : P sink) (events : List Event) : P (writeAll sink events).1 := by
  induction events generalizing sink with
  | nil => exact h
  | cons event events ih =>
    have hwrite := step sink event h
    rw [writeAll_cons]
    generalize write sink event = outcome at hwrite
    obtain ⟨next, _ | _⟩ := outcome
    · exact hwrite
    · exact ih hwrite

end Sink

namespace Recorder

/-- The recorder after some more events. -/
def record (recorder : Recorder) (events : List Event) : Recorder :=
  ⟨recorder.events ++ events.toArray⟩

@[simp] theorem record_nil (recorder : Recorder) : recorder.record [] = recorder := by
  simp [record]

theorem record_record (recorder : Recorder) (xs ys : List Event) :
    (recorder.record xs).record ys = recorder.record (xs ++ ys) := by
  simp [record]

theorem record_events (recorder : Recorder) (events : List Event) :
    (recorder.record events).events.toList = recorder.events.toList ++ events := by
  simp [record]

theorem write_eq_record (recorder : Recorder) (event : Event) :
    Sink.write recorder event = (recorder.record [event], .ok ()) := by
  simp [record]

end Recorder
end StreamMask
