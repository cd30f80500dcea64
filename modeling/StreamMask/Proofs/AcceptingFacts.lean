/-
Masking streams into sinks that take every event.

Such a sink is told what a recorder records, and nothing else about the stream
depends on it (`into`). So what is known of streams into recorders is known of
streams into all of them.
-/
import StreamMask.Proofs.InStep
import StreamMask.Proofs.MaskingFacts

namespace StreamMask

/-- Whether the sinks of a type take every event. -/
def Sink.Accepts (σ : Type) [Sink σ] : Prop :=
  ∀ (sink : σ) (event : Event), (Sink.write sink event).2 = .ok ()

theorem Recorder.accepts : Sink.Accepts Recorder := fun _ _ => rfl

variable {σ : Type} [Sink σ]

theorem Sink.feed_append (sink : σ) (xs ys : List Event) :
    feed sink (xs ++ ys) = feed (feed sink xs) ys := by
  simp only [feed, List.foldl_append]

theorem Sink.Accepts.write_eq (h : Accepts σ) (sink : σ) (event : Event) :
    write sink event = ((write sink event).1, .ok ()) := Prod.ext rfl (h sink event)

theorem Sink.Accepts.writeAll (h : Accepts σ) (sink : σ) (events : List Event) :
    writeAll sink events = (feed sink events, .ok ()) := by
  induction events generalizing sink with
  | nil => rfl
  | cons event events ih =>
    rw [writeAll_cons, h.write_eq, Outcome.andThen_ok, ih, feed_cons]

/-- A sink that takes every event, told what a recorder records, stays in step with it. -/
theorem Sink.Accepts.tells (h : Accepts σ) (sink : σ) :
    InStep fun (recorder : Recorder) (told : σ) => told = feed sink recorder.events.toList := by
  rintro recorder told rfl event
  refine ⟨?_, (h _ event).symm⟩
  show (write (feed sink recorder.events.toList) event).1 =
    feed sink (write recorder event).1.events.toList
  rw [Recorder.write_eq_record, Recorder.record_events, feed_append]
  rfl

namespace Masking

/-- The same stream over another sink, which has been given all that was recorded. -/
def into (stream : Masking Recorder) (sink : σ) : Masking σ :=
  ⟨stream.set, Sink.feed sink stream.sink.events.toList, stream.position, stream.depth⟩

/-- What happens to a stream into a recorder, for the same stream over another sink. -/
def outcomeInto (sink : σ) (outcome : Outcome (Masking Recorder)) : Outcome (Masking σ) :=
  (outcome.1.into sink, outcome.2)

omit [Sink σ] in
theorem into_beside {set : MaskerSet} {stream : Masking Recorder} {other : Masking σ}
    {told : Recorder → σ} (h : Beside set set (fun recorder sink => sink = told recorder) stream other) :
    other = ⟨stream.set, told stream.sink, stream.position, stream.depth⟩ := by
  cases h with
  | intro p depth hsink => rw [hsink]

/-- **What is written over another sink is written over the recorder.** -/
theorem writeAll_into (h : Sink.Accepts σ) (stream : Masking Recorder) (sink : σ)
    (events : List Event) :
    Sink.writeAll (stream.into sink) events = outcomeInto sink (Sink.writeAll stream events) := by
  have hsinks := inStep (h.tells sink) (MaskerSet.Agrees.refl stream.set)
  have hbeside := Beside.intro (R := fun recorder told => told = Sink.feed sink recorder.events.toList)
    (a := stream.set) (b := stream.set) stream.position stream.depth (s := stream.sink) rfl
  obtain ⟨hstates, hresult⟩ := hsinks.writeAll hbeside events
  exact Prod.ext (into_beside hstates) hresult.symm

end Masking
end StreamMask
