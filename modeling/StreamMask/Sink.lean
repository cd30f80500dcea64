/-
Where events go.

A sink is a state that takes events one at a time. Writing gives the next state
whether or not it succeeded, since a failure may come after part of the work.
-/
import StreamMask.Failure

namespace StreamMask

/-- The state after a step, and whether the step succeeded. -/
abbrev Outcome (σ : Type) := σ × Except Failure Unit

/-- A state that takes events. -/
class Sink (σ : Type) where
  write : σ → Event → Outcome σ

/-- Go on with the state after a step that succeeded. -/
def Outcome.andThen {σ : Type} (outcome : Outcome σ) (next : σ → Outcome σ) : Outcome σ :=
  match outcome with
  | (state, .ok ()) => next state
  | (state, .error failure) => (state, .error failure)

namespace Sink

variable {σ : Type} [Sink σ]

/-- Write events up to the first that fails. -/
def writeAll (sink : σ) : List Event → Outcome σ
  | [] => (sink, .ok ())
  | event :: rest => Outcome.andThen (write sink event) fun sink => writeAll sink rest

end Sink

/-! ## Keeping the events -/

/-- A sink that keeps every event. -/
structure Recorder where
  events : Array Event
deriving DecidableEq, Repr

namespace Recorder

def empty : Recorder := ⟨#[]⟩

instance : Inhabited Recorder := ⟨empty⟩

instance : Sink Recorder where
  write recorder event := (⟨recorder.events.push event⟩, .ok ())

/-- The scalars among the events. -/
def scalars (recorder : Recorder) : List Scalar :=
  recorder.events.toList.filterMap fun
    | .scalar value => some value
    | _ => none

/-- The field names among the events. -/
def fieldNames (recorder : Recorder) : List String :=
  recorder.events.toList.filterMap fun
    | .field name => some name
    | _ => none

@[simp] theorem write_eq (recorder : Recorder) (event : Event) :
    Sink.write recorder event = (⟨recorder.events.push event⟩, .ok ()) := rfl

end Recorder
end StreamMask
