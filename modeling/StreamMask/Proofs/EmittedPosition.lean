/-
What a masking stream passes on nests, whatever it is given and whatever fails,
and the place it has come to is known at each step (`Masking.shown`): while
nothing is held back it is the place in the document itself; while something is
held back it is the object of the masked field, between two fields.

A sink is said to follow positions (`Sink.Follows`) if every event that may come
at its position leads it on as a position, and if it fails for such an event in
certain ways only. A recorder follows the positions of what it has recorded, and
a masking stream over a sink that follows them follows those of the document,
and fails as the sink does or as one of its maskers. So streams may be stacked,
and the uppermost alone finds an imbalance: whatever else is reported, as an
imbalance or not, is what a masker has reported (`Masking.Cause`).
-/
import StreamMask.Proofs.AskedMaskers
import StreamMask.Proofs.Nesting
import StreamMask.Proofs.MaskingFacts

namespace StreamMask

namespace Position

/-- The position between two fields of the innermost object. -/
def cleared (p : Position) : Position :=
  match p.frames with
  | .object _ :: outer => ⟨.object none :: outer⟩
  | _ => p

/-- The place that the passed on events have come to, by the place in the document and the depth. -/
def shown (p : Position) : (depth : Nat) → Position
  | 0 => p
  | k + 1 => cleared ⟨p.frames.drop k⟩

/-- While something is held back, the frame that owns the masked field is an object. -/
def Owned (p : Position) : (depth : Nat) → Prop
  | 0 => True
  | k + 1 => ∃ pending outer, p.frames.drop k = .object pending :: outer

/-- Where a stream that goes by `advance` stands after an event with this result: a scalar that
failed is not complete, and what may not come at all moves nothing. -/
def after (p : Position) (event : Event) (result : Except Failure Unit) : Position :=
  match p.advance event, event, result with
  | .error _, _, _ => p
  | .ok _, .scalar _, .error _ => p
  | .ok q, _, _ => q

theorem after_refused {p : Position} {event : Event} {fault : Imbalance}
    (h : p.advance event = .error fault) (result : Except Failure Unit) : p.after event result = p := by
  unfold after
  rw [h]

theorem after_ok {p q : Position} {event : Event} (h : p.advance event = .ok q) :
    p.after event (.ok ()) = q := by
  unfold after
  rw [h]
  cases event <;> rfl

theorem after_of_not_scalar {p q : Position} {event : Event} (h : p.advance event = .ok q)
    (hs : ∀ value, event ≠ .scalar value) (result : Except Failure Unit) :
    p.after event result = q := by
  unfold after
  rw [h]
  cases event with
  | scalar value => exact absurd rfl (hs value)
  | _ => rfl

theorem after_scalar_error {p : Position} (value : Scalar) (failure : Failure) :
    p.after (.scalar value) (.error failure) = p := by
  unfold after
  cases p.advance (.scalar value) <;> rfl

theorem Owned.complete {p : Position} {k : Nat} (h : p.Owned (k + 1)) :
    p.complete.Owned (k + 1) ∧ p.complete.shown (k + 1) = p.shown (k + 1) := by
  obtain ⟨_ | ⟨frame, frames⟩⟩ := p
  · exact ⟨h, rfl⟩
  · cases k with
    | succ k => exact ⟨h, rfl⟩
    | zero =>
      obtain ⟨pending, outer, hframe⟩ := h
      cases hframe
      exact ⟨⟨none, frames, rfl⟩, rfl⟩

end Position

/-! ## Sinks that follow positions -/

/-- Whether every event that may come at a position which a sink stands at leads it on as a position, and
the sink fails for such an event in no other ways than these. -/
structure Sink.Follows {σ : Type} [Sink σ] (At : σ → Position → Prop) (ways : Failure → Prop) : Prop where
  leads {sink : σ} {p q : Position} {event : Event} : At sink p → p.advance event = .ok q →
    At (write sink event).1 (p.after event (write sink event).2)
  fails {sink : σ} {p q : Position} {event : Event} {failure : Failure} : At sink p →
    p.advance event = .ok q → (write sink event).2 = .error failure → ways failure

/-- The recorded events lead from the root to the position. -/
def Recorder.At (recorder : Recorder) (p : Position) : Prop :=
  recorder.events.toList.foldlM Position.advance .root = .ok p

theorem Recorder.follows : Sink.Follows Recorder.At fun _ => False where
  leads {recorder p q event} h hq := by
    rw [write_eq_record, Position.after_ok hq]
    unfold At at h ⊢
    rw [record_events, List.foldlM_append, h]
    show (p.advance event >>= fun p => pure p) = .ok q
    rw [hq]
    rfl
  fails _ _ hfails := by cases hfails

namespace Masking

variable {σ : Type} [Sink σ]

/-- The place that what has been passed on has come to. -/
def shown (stream : Masking σ) : Position := stream.position.shown stream.depth

/-- A stream whose sink stands where the stream shows. -/
structure Steady (At : σ → Position → Prop) (stream : Masking σ) : Prop where
  owned : stream.position.Owned stream.depth
  sink : At stream.sink stream.shown

/-- Where a failure for an event comes from that is given to a stream with these maskers at a place:
the event may not come there, or a masker that is asked has failed in this way, or else the sink has
failed in one of the ways in which it may. -/
inductive Cause (set : MaskerSet) (place : Position) (ways : Failure → Prop) (event : Event) :
    Failure → Prop where
  | refused {fault : Imbalance} (h : place.advance event = .error fault) :
    Cause set place ways event (.unbalanced fault)
  | masker {failure : Failure} (h : set.FailsAt place event failure) : Cause set place ways event failure
  | sink {failure : Failure} (h : ways failure) : Cause set place ways event failure

/-- What a step of a steady stream keeps: the stream is steady again and has its maskers, it has moved as
its position says, and it has a cause for what it reports. -/
structure Keeps (At : σ → Position → Prop) (ways : Failure → Prop) (stream : Masking σ) (event : Event)
    (outcome : Outcome (Masking σ)) : Prop where
  steady : outcome.1.Steady At
  set : outcome.1.set = stream.set
  position : outcome.1.position = stream.position.after event outcome.2
  cause : ∀ failure, outcome.2 = .error failure →
    Cause stream.set stream.position ways event failure

variable {At : σ → Position → Prop} {ways : Failure → Prop} {set : MaskerSet} {sink : σ}
  {p q : Position} {event : Event}

/-! ## One step -/

theorem step_refused {stream : Masking σ} {fault : Imbalance}
    (h : stream.position.advance event = .error fault) :
    stream.step event = (stream, .error (.unbalanced fault)) := by
  cases event with
  | beginObject hint | beginArray hint => simp only [Position.advance] at h; simp [step, enter, h]
  | endObject | endArray => simp only [Position.advance] at h; simp [step, leave, h]
  | field name => simp only [Position.advance] at h; simp [step, field, h]
  | scalar value =>
    simp only [Position.advance] at h
    cases hc : stream.position.checkValue none with
    | ok _ => rw [hc] at h; cases h
    | error other => rw [hc] at h; cases h; simp [step, scalar, hc]
  | flush => cases h

omit [Sink σ] in
/-- An event other than a scalar that may come leads to its place, whatever fails after it. -/
theorem Keeps.of_position (hq : p.advance event = .ok q) (hs : ∀ value, event ≠ .scalar value)
    {depth : Nat} {outcome : Outcome (Masking σ)} (hsteady : outcome.1.Steady At)
    (hset : outcome.1.set = set) (hposition : outcome.1.position = q)
    (hcause : ∀ failure, outcome.2 = .error failure → Cause set p ways event failure) :
    Keeps At ways ⟨set, sink, p, depth⟩ event outcome where
  steady := hsteady
  set := hset
  position := by rw [hposition, Position.after_of_not_scalar hq hs]
  cause := hcause

/-- An event that is passed on from a place that is shown as it is. -/
theorem Keeps.of_forward (hAt : Sink.Follows At ways) (h : At sink p) (hq : p.advance event = .ok q)
    (hs : ∀ value, event ≠ .scalar value) (depth : Nat) :
    Keeps At ways ⟨set, sink, p, depth⟩ event (forward ⟨set, sink, q, 0⟩ event) := by
  have hat := hAt.leads h hq
  rw [Position.after_of_not_scalar hq hs] at hat
  exact .of_position hq hs ⟨trivial, hat⟩ rfl rfl fun failure hf => .sink (hAt.fails h hq hf)

omit [Sink σ] in
/-- An event that is held back changes nothing of what is shown. -/
theorem Keeps.of_hidden {depth depth' : Nat} (h : At sink (p.shown depth))
    (hq : p.advance event = .ok q) (howned : q.Owned depth')
    (hshown : q.shown depth' = p.shown depth) :
    Keeps At ways ⟨set, sink, p, depth⟩ event (⟨set, sink, q, depth'⟩, .ok ()) where
  steady := ⟨howned, by show At sink (q.shown depth'); rwa [hshown]⟩
  set := rfl
  position := (Position.after_ok hq).symm
  cause failure hf := by cases hf

/-! ## Every event keeps a stream steady -/

theorem maskField_steady (set : MaskerSet) (hAt : Sink.Follows At ways) {name : String}
    (h : At sink (p.inField name)) :
    let outcome := maskField ⟨set, sink, p.inField name, 0⟩
    outcome.1.Steady At ∧ outcome.1.set = set ∧ outcome.1.position = p.inField name ∧
      ∀ failure, outcome.2 = .error failure → Cause set p.inObject ways (.field name) failure := by
  simp only [maskField]
  split
  next failure hmask =>
    refine ⟨⟨trivial, h⟩, rfl, rfl, ?_⟩
    rintro reported ⟨⟩
    exact .masker (.field (p.enterField_inObject name) hmask)
  · exact ⟨⟨trivial, h⟩, rfl, rfl, by simp⟩
  next mask hmask =>
    have hq : (p.inField name).advance (.scalar mask.toScalar) = .ok p.inObject := rfl
    have hat := hAt.leads h hq
    rcases forward_andThen_cases set sink (p.inField name) 0 (.scalar mask.toScalar)
      (fun stream => ({ stream with depth := 1 }, .ok ())) with ⟨sink', hw, hc⟩ | ⟨sink', failure, hw, hc⟩
    · rw [hw, Position.after_ok hq] at hat
      rw [hc]
      exact ⟨⟨⟨some name, p.frames, rfl⟩, hat⟩, rfl, rfl, by simp⟩
    · rw [hw, Position.after_scalar_error] at hat
      rw [hc]
      refine ⟨⟨trivial, hat⟩, rfl, rfl, ?_⟩
      rintro reported ⟨⟩
      exact .sink (hAt.fails h hq (congrArg Prod.snd hw))

theorem keeps_field (hAt : Sink.Follows At ways) (h : At sink p.inObject) {name : String} {depth : Nat}
    (hd : depth ≤ 1) :
    Keeps At ways ⟨set, sink, p.inObject, depth⟩ (.field name)
      (step ⟨set, sink, p.inObject, depth⟩ (.field name)) := by
  have hq : p.inObject.advance (.field name) = .ok (p.inField name) := p.enterField_inObject name
  have hat := hAt.leads h hq
  rw [Position.after_of_not_scalar hq (by simp)] at hat
  rw [step_field set sink p name hd]
  rcases forward_andThen_cases set sink (p.inField name) 0 (.field name) maskField
    with ⟨sink', hw, hc⟩ | ⟨sink', failure, hw, hc⟩
  · rw [hw] at hat
    rw [hc]
    obtain ⟨hsteady, hset, hposition, hcause⟩ := maskField_steady set hAt hat
    exact .of_position hq (by simp) hsteady hset hposition hcause
  · rw [hw] at hat
    rw [hc]
    refine .of_position hq (by simp) ⟨trivial, hat⟩ rfl rfl ?_
    rintro reported ⟨⟩
    exact .sink (hAt.fails h hq (congrArg Prod.snd hw))

theorem keeps_scalar (hAt : Sink.Follows At ways) (h : At sink p) (hp : p.Ready) (value : Scalar) :
    Keeps At ways ⟨set, sink, p, 0⟩ (.scalar value) (step ⟨set, sink, p, 0⟩ (.scalar value)) := by
  have hq : ∀ value, p.advance (.scalar value) = .ok p.complete := fun value =>
    Position.advance_eq_ok.2 (.scalar hp)
  rw [step_scalar set sink hp]
  split
  next failure hmask =>
    refine ⟨⟨trivial, h⟩, rfl, (Position.after_scalar_error value failure).symm, ?_⟩
    rintro reported ⟨⟩
    exact .masker (.scalar hmask)
  next masked hmask =>
    have hat := hAt.leads h (hq masked)
    rcases forward_andThen_cases set sink p 0 (.scalar masked)
      (fun stream => ({ stream with position := stream.position.complete }, .ok ()))
      with ⟨sink', hw, hc⟩ | ⟨sink', failure, hw, hc⟩
    · rw [hw, Position.after_ok (hq masked)] at hat
      rw [hc]
      exact ⟨⟨trivial, hat⟩, rfl, (Position.after_ok (hq value)).symm, by simp⟩
    · rw [hw, Position.after_scalar_error] at hat
      rw [hc]
      refine ⟨⟨trivial, hat⟩, rfl, (Position.after_scalar_error value failure).symm, ?_⟩
      rintro reported ⟨⟩
      exact .sink (hAt.fails h (hq masked) (congrArg Prod.snd hw))

/-- **Every event keeps a stream steady**, whatever comes of it. -/
theorem step_keeps (hAt : Sink.Follows At ways) {stream : Masking σ} (h : stream.Steady At)
    (event : Event) : Keeps At ways stream event (stream.step event) := by
  obtain ⟨set, sink, p, depth⟩ := stream
  obtain ⟨howned, hat⟩ := h
  change At sink (p.shown depth) at hat
  change p.Owned depth at howned
  cases hadv : p.advance event with
  | error fault =>
    rw [step_refused hadv]
    refine ⟨⟨howned, hat⟩, rfl, (Position.after_refused hadv _).symm, ?_⟩
    rintro reported ⟨⟩
    exact .refused hadv
  | ok q =>
    have hmoves := Position.advance_eq_ok.1 hadv
    cases hmoves with
    | @beginArray _ hint hp =>
      cases depth with
      | zero =>
        rw [(step_begin set sink hp hint).1]
        exact .of_forward hAt hat hadv (by simp) 0
      | succ k =>
        rw [(step_begin_hidden set sink k hp hint).1]
        exact .of_hidden hat hadv howned rfl
    | @beginObject _ hint hp =>
      cases depth with
      | zero =>
        rw [(step_begin set sink hp hint).2]
        exact .of_forward hAt hat hadv (by simp) 0
      | succ k =>
        rw [(step_begin_hidden set sink k hp hint).2]
        exact .of_hidden hat hadv howned rfl
    | @endArray p index =>
      match depth with
      | 0 =>
        rw [step_endArray]
        exact .of_forward hAt hat hadv (by simp) 0
      | 1 =>
        obtain ⟨pending, outer, hframe⟩ := howned
        cases hframe
      | k + 2 =>
        rw [(step_end_hidden set sink p k index).1]
        have hcomplete := Position.Owned.complete (p := p) (k := k) howned
        exact .of_hidden hat hadv hcomplete.1 hcomplete.2
    | @endObject p =>
      match depth with
      | 0 =>
        rw [step_endObject set sink p (by omega)]
        exact .of_forward hAt hat hadv (by simp) 0
      | 1 =>
        rw [step_endObject set sink p (by omega)]
        exact .of_forward hAt hat hadv (by simp) 1
      | k + 2 =>
        rw [(step_end_hidden set sink p k 0).2]
        have hcomplete := Position.Owned.complete (p := p) (k := k) howned
        exact .of_hidden hat hadv hcomplete.1 hcomplete.2
    | @field p name =>
      match depth with
      | 0 => exact keeps_field hAt hat (by omega)
      | 1 => exact keeps_field hAt hat (by omega)
      | k + 2 =>
        rw [step_field_hidden set sink p k name]
        exact .of_hidden hat hadv howned rfl
    | @scalar _ value hp =>
      cases depth with
      | zero => exact keeps_scalar hAt hat hp value
      | succ k =>
        rw [step_scalar_hidden set sink k hp value]
        have hcomplete := howned.complete
        exact .of_hidden hat hadv hcomplete.1 hcomplete.2
    | flush =>
      have hflush : (p.shown depth).advance .flush = .ok (p.shown depth) := rfl
      have hnext := hAt.leads hat hflush
      refine .of_position hadv (by simp) ⟨howned, hnext⟩ rfl rfl fun failure hf => ?_
      exact .sink (hAt.fails hat hflush hf)

/-! ## Whole runs -/

omit [Sink σ] in
theorem start_steady (hsink : At sink .root) : (start set sink).Steady At := ⟨trivial, hsink⟩

/-- Whether a stream with these maskers stands at a place in the document, and its sink where it shows. -/
structure StandsAt (At : σ → Position → Prop) (set : MaskerSet) (stream : Masking σ) (p : Position) :
    Prop where
  set_eq : stream.set = set
  position_eq : stream.position = p
  steady : stream.Steady At

/-- A masking stream over a sink that follows positions follows positions itself, so streams can be
stacked on one another. It fails as its sink does, or as one of its maskers. -/
theorem follows (hAt : Sink.Follows At ways) (set : MaskerSet) :
    Sink.Follows (StandsAt At set) fun failure => set.FailsWith failure ∨ ways failure where
  leads {stream p q event} h hq := by
    obtain ⟨rfl, rfl, hsteady⟩ := h
    have hkeeps := step_keeps hAt hsteady event
    exact ⟨hkeeps.set, hkeeps.position, hkeeps.steady⟩
  fails {stream p q event failure} h hq hf := by
    obtain ⟨rfl, rfl, hsteady⟩ := h
    cases (step_keeps hAt hsteady event).cause failure hf with
    | refused hrefused =>
      rw [hrefused] at hq
      cases hq
    | masker hmasker => exact .inl hmasker.failsWith
    | sink hsink => exact .inr hsink

end Masking
end StreamMask
