/-
The place of a masking stream is that of its events, whatever is masked.

Events are followed one after the other, and those that may not come are passed
over (`Position.past`). A stream in which nothing fails stands where its events
lead in this way, and finds of each event what its position finds
(`Masking.step_past`), whether it passes the event on or holds it back. So what is
held back by one stream and not by another shows in neither their places nor
their results.
-/
import StreamMask.Proofs.EventGrammar

namespace StreamMask

namespace Position

/-- The position past an event; one that may not come is passed over. -/
def past (p : Position) (event : Event) : Position :=
  match p.advance event with
  | .ok q => q
  | .error _ => p

/-- What there is to say of an event at a position. -/
def finding (p : Position) (event : Event) : Except Failure Unit :=
  match p.advance event with
  | .ok _ => .ok ()
  | .error fault => .error (.unbalanced fault)

theorem finding_cases (p : Position) (event : Event) :
    p.finding event = .ok () ∨
      ∃ fault, p.advance event = .error fault ∧ p.finding event = .error (.unbalanced fault) := by
  unfold finding
  cases p.advance event with
  | ok q => exact .inl rfl
  | error fault => exact .inr ⟨fault, rfl, rfl⟩

end Position

namespace Masking

variable {σ : Type} [Sink σ]

/-- **One event**: a stream in which nothing fails goes past it as its position does, and finds what
its position finds. -/
theorem step_past (h : Sink.Accepts σ) {stream : Masking σ} (hset : stream.set.NeverFails)
    (hsteady : stream.Steady fun _ _ => True) (event : Event) :
    (stream.step event).1.position = stream.position.past event ∧
      (stream.step event).2 = stream.position.finding event := by
  unfold Position.past Position.finding
  cases hadv : stream.position.advance event with
  | error fault =>
    rw [step_refused hadv]
    exact ⟨rfl, rfl⟩
  | ok q =>
    obtain ⟨next, hstep, hposition⟩ := step_ok h hset hsteady hadv
    rw [hstep]
    exact ⟨hposition, rfl⟩

/-- **Any events.** The place is found from the events alone, and nothing of what is needed for the
next event is lost. -/
theorem feed_past (h : Sink.Accepts σ) {stream : Masking σ} (hset : stream.set.NeverFails)
    (hsteady : stream.Steady fun _ _ => True) (events : List Event) :
    let after := Sink.feed stream events
    after.position = events.foldl Position.past stream.position ∧ after.set = stream.set ∧
      after.Steady fun _ _ => True := by
  induction events generalizing stream with
  | nil => exact ⟨rfl, rfl, hsteady⟩
  | cons event events ih =>
    have hsame : (stream.step event).1.set = stream.set := (step_shifts stream event).set
    have hnext := (step_keeps h.follows hsteady event).steady
    obtain ⟨hposition, hrest⟩ := ih (hsame ▸ hset) hnext
    rw [(step_past h hset hsteady event).1] at hposition
    rw [hsame] at hrest
    exact ⟨hposition, hrest⟩

/-- What a stream into a recorder finds of an event after any others. -/
theorem start_past {set : MaskerSet} (hset : set.NeverFails) (events : List Event) :
    let stream := Sink.feed (start set Recorder.empty) events
    let place := events.foldl Position.past .root
    stream.position = place ∧ ∀ event, (stream.step event).2 = place.finding event := by
  intro stream place
  have hstart : (start set Recorder.empty).Steady fun _ _ => True := start_steady trivial
  obtain ⟨hposition, hsame, hsteady⟩ := feed_past Recorder.accepts hset hstart events
  refine ⟨hposition, fun event => ?_⟩
  rw [(step_past Recorder.accepts (hsame ▸ hset) hsteady event).2, hposition]
  rfl

/-- **The place in the document does not depend on what is masked.** With maskers that do not fail,
two streams that are given the same events stand at the same place after them, frame by frame: where
the events lead by themselves, those passed over that may not come. Any next event has the same
result in both: it is taken, or else refused because it does not nest, and for the same reason. -/
theorem same_place_whatever_masked (a b : MaskerSet) (ha : a.NeverFails) (hb : b.NeverFails)
    (events : List Event) :
    let s := Sink.feed (start a Recorder.empty) events
    let t := Sink.feed (start b Recorder.empty) events
    s.position = t.position ∧ s.position = events.foldl Position.past .root ∧
      ∀ event, (s.step event).2 = (t.step event).2 ∧
        ((s.step event).2 = .ok () ∨ ∃ fault, s.position.advance event = .error fault ∧
          (s.step event).2 = .error (.unbalanced fault)) := by
  intro s t
  obtain ⟨hs, hsresult⟩ := start_past ha events
  obtain ⟨ht, htresult⟩ := start_past hb events
  refine ⟨hs.trans ht.symm, hs, fun event => ⟨(hsresult event).trans (htresult event).symm, ?_⟩⟩
  rw [hsresult event, show s.position = _ from hs]
  exact Position.finding_cases _ event

/-- An array in a masked field that is left open: a stream that masks the field and one that masks
nothing refuse the end of its object for the same reason. -/
theorem same_place_in_masked_array :
    let set : MaskerSet := { fieldMaskers := [.names ⟨["pin"], .null⟩] }
    let events : List Event :=
      [.beginObject none, .field "pin", .beginArray none, .field "x", .scalar (.integer 1)]
    let s := Sink.feed (start set Recorder.empty) events
    let t := Sink.feed (start .empty Recorder.empty) events
    set.NeverFails ∧ MaskerSet.empty.NeverFails ∧ s.depth = 2 ∧ t.depth = 0 ∧
      s.position = t.position ∧ (s.step .endObject).2 = (t.step .endObject).2 := by
  intro set events s t
  have hset : set.NeverFails :=
    .of_no_custom (fun decide h => by simp [set] at h) (fun decide h => by simp [set] at h)
  have hempty : MaskerSet.empty.NeverFails :=
    .of_no_custom (fun decide => List.not_mem_nil) (fun decide => List.not_mem_nil)
  obtain ⟨hplace, -, hresult⟩ := same_place_whatever_masked set .empty hset hempty events
  exact ⟨hset, hempty, rfl, rfl, hplace, (hresult .endObject).1⟩

end Masking
end StreamMask
