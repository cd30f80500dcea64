/-
Masking of a stream of events on its way to a sink.

The depth tells how much is held back at present. At zero, events are passed on.
At one, a field of the innermost open object has been masked, and its own value
is still to come or has come; the next name in that object, or its end, leads
back to zero. Above one, events are inside a container that belongs to the value
of a masked field. So nothing need be known about a value before it is over.

A step that fails leaves everything as it was up to the point of failure, and
nothing is put right by guesswork.
-/
import StreamMask.Masker.Set
import StreamMask.Sink

namespace StreamMask

/-- A stream that is being masked. -/
structure Masking (σ : Type) where
  set : MaskerSet
  sink : σ
  /-- The place in the document itself, held back or not. -/
  position : Position
  depth : Nat

namespace Masking

variable {σ : Type} [Sink σ]

/-- A stream that has not begun. -/
def start (set : MaskerSet) (sink : σ) : Masking σ := ⟨set, sink, .root, 0⟩

def isMasking (stream : Masking σ) : Bool := 0 < stream.depth

/-- Pass an event on. -/
def forward (stream : Masking σ) (event : Event) : Outcome (Masking σ) :=
  let (sink, result) := Sink.write stream.sink event
  ({ stream with sink := sink }, result)

/-- Write events to the sink, past all masking and without moving. -/
def forwardAll (stream : Masking σ) (events : List Event) : Outcome (Masking σ) :=
  let (sink, result) := Sink.writeAll stream.sink events
  ({ stream with sink := sink }, result)

/-- A container begins. -/
def enter (stream : Masking σ) (kind : Container) (hint : Option Nat) : Outcome (Masking σ) :=
  match stream.position.enter kind with
  | .error fault => (stream, .error (.unbalanced fault))
  | .ok position =>
    let stream := { stream with position := position }
    if 0 < stream.depth then ({ stream with depth := stream.depth + 1 }, .ok ())
    else stream.forward (kind.opening hint)

/-- A container ends. -/
def leave (stream : Masking σ) (kind : Container) : Outcome (Masking σ) :=
  match stream.position.leave kind with
  | .error fault => (stream, .error (.unbalanced fault))
  | .ok position =>
    let stream := { stream with position := position, depth := stream.depth - 1 }
    if 0 < stream.depth then (stream, .ok ()) else stream.forward kind.closing

/-- Write the mask of the field whose name has just been passed on, if it has one. -/
def maskField (stream : Masking σ) : Outcome (Masking σ) :=
  match stream.set.fieldMask stream.position with
  | .error failure => (stream, .error failure)
  | .ok none => (stream, .ok ())
  | .ok (some mask) =>
    Outcome.andThen (stream.forward (.scalar mask.toScalar)) fun stream =>
      ({ stream with depth := 1 }, .ok ())

/-- A field begins. -/
def field (stream : Masking σ) (name : String) : Outcome (Masking σ) :=
  match stream.position.enterField name with
  | .error fault => (stream, .error (.unbalanced fault))
  | .ok position =>
    let stream := { stream with position := position }
    if 1 < stream.depth then (stream, .ok ())
    else
      Outcome.andThen ({ stream with depth := 0 }.forward (.field name)) fun stream =>
        stream.maskField

/-- A scalar comes. -/
def scalar (stream : Masking σ) (value : Scalar) : Outcome (Masking σ) :=
  match stream.position.checkValue none with
  | .error fault => (stream, .error (.unbalanced fault))
  | .ok () =>
    if 0 < stream.depth then ({ stream with position := stream.position.complete }, .ok ())
    else
      match stream.set.maskScalar stream.position value with
      | .error failure => (stream, .error failure)
      | .ok masked =>
        Outcome.andThen (stream.forward (.scalar masked)) fun stream =>
          ({ stream with position := stream.position.complete }, .ok ())

/-- Take one event. -/
def step (stream : Masking σ) : Event → Outcome (Masking σ)
  | .beginObject hint => stream.enter .object hint
  | .beginArray hint => stream.enter .array hint
  | .endObject => stream.leave .object
  | .endArray => stream.leave .array
  | .field name => stream.field name
  | .scalar value => stream.scalar value
  | .flush => stream.forward .flush

instance : Sink (Masking σ) where
  write := step

/-- Check that the document is complete, and flush the sink. -/
def finish (stream : Masking σ) : Outcome (Masking σ) :=
  if !stream.position.isRoot then
    (stream, .error (.unbalanced
      (.openAtEnd stream.position.depth stream.position.pointer)))
  else if stream.depth ≠ 0 then (stream, .error (.unbalanced (.maskedAtEnd stream.depth)))
  else stream.forward .flush

end Masking
end StreamMask
