/-
What an event that fails does to a masking stream into a recorder.

There are three ways to fail (`Masking.Fails`). An event that may not come, and a
scalar for which a value masker fails, change nothing, so a run is the same
without them (`Masking.feed_taken`). A field name for which a field masker fails
(`Masking.NameFails`) has been passed on by then, whatever the failure is, and
nothing is held back for its field: whoever goes on after the failure shows the
value as if it were not to be masked. Only if the stream ends with the failure is
the value kept back.
-/
import StreamMask.Proofs.EmittedPosition
import StreamMask.Proofs.TreeMasking

namespace StreamMask.Masking

/-! ## One event -/

/-- The ways in which an event fails, each with the failure and the stream after it. -/
inductive Fails : Masking Recorder → Event → Failure → Masking Recorder → Prop where
  /-- The event may not come. -/
  | refused {stream : Masking Recorder} {event : Event} {fault : Imbalance}
      (h : stream.position.advance event = .error fault) :
      Fails stream event (.unbalanced fault) stream
  /-- A value masker fails. -/
  | scalar {set : MaskerSet} {recorder : Recorder} {p : Position} {value : Scalar}
      {failure : Failure} (hp : p.Ready) (h : set.maskScalar p value = .error failure) :
      Fails ⟨set, recorder, p, 0⟩ (.scalar value) failure ⟨set, recorder, p, 0⟩
  /-- A field masker fails, after the name has been passed on. -/
  | field {set : MaskerSet} {recorder : Recorder} {p : Position} {depth : Nat} {name : String}
      {failure : Failure} (hd : depth ≤ 1) (h : set.decision (p.inField name) = .error failure) :
      Fails ⟨set, recorder, p.inObject, depth⟩ (.field name) failure
        ⟨set, recorder.record [.field name], p.inField name, 0⟩

variable {stream next : Masking Recorder} {event : Event} {failure : Failure}

theorem Fails.step_eq (h : Fails stream event failure next) :
    stream.step event = (next, .error failure) := by
  cases h with
  | refused h => exact step_refused h
  | @scalar set recorder p value failure hp h => rw [step_scalar set recorder hp, h]
  | @field set recorder p depth name failure hd h =>
    rw [step_field_recorder set recorder p name hd, h]

theorem enter_fails (kind : Container) {hint : Option Nat}
    (h : stream.enter kind hint = (next, .error failure)) :
    Fails stream (kind.opening hint) failure next := by
  unfold enter at h
  split at h
  next fault hfault =>
    cases h
    exact .refused ((Position.advance_opening ..).trans hfault)
  next q hq =>
    dsimp only at h
    split at h
    · cases h
    · cases h

theorem leave_fails (kind : Container) (h : stream.leave kind = (next, .error failure)) :
    Fails stream kind.closing failure next := by
  unfold leave at h
  split at h
  next fault hfault =>
    cases h
    exact .refused ((Position.advance_closing ..).trans hfault)
  next q hq =>
    dsimp only at h
    split at h
    · cases h
    · cases h

theorem field_fails {name : String} (h : stream.field name = (next, .error failure)) :
    Fails stream (.field name) failure next := by
  obtain ⟨set, recorder, p, depth⟩ := stream
  change step ⟨set, recorder, p, depth⟩ (.field name) = _ at h
  cases hadv : p.advance (.field name) with
  | error fault =>
    rw [step_refused hadv] at h
    cases h
    exact .refused hadv
  | ok q =>
    cases Position.advance_eq_ok.1 hadv with
    | @field p name =>
      match depth with
      | k + 2 =>
        rw [step_field_hidden set recorder p k name] at h
        cases h
      | 0 | 1 =>
        rw [step_field_recorder set recorder p name (by omega)] at h
        split at h
        next other hmask =>
          cases h
          exact .field (by omega) hmask
        · cases h
        · cases h

theorem scalar_fails {value : Scalar} (h : stream.scalar value = (next, .error failure)) :
    Fails stream (.scalar value) failure next := by
  obtain ⟨set, recorder, p, depth⟩ := stream
  unfold scalar at h
  split at h
  next fault hfault =>
    cases h
    refine .refused ?_
    rw [Position.advance, hfault]
    rfl
  next hready =>
    split at h
    · cases h
    next hdepth =>
      obtain rfl : depth = 0 := Nat.eq_zero_of_not_pos hdepth
      split at h
      next other hmask =>
        cases h
        exact .scalar (Position.checkValue_eq_ok.1 hready) hmask
      · cases h

/-- **An event fails in one of three ways.** -/
theorem step_eq_error :
    stream.step event = (next, .error failure) ↔ Fails stream event failure next := by
  refine ⟨fun h => ?_, Fails.step_eq⟩
  cases event with
  | beginObject hint => exact enter_fails .object h
  | beginArray hint => exact enter_fails .array h
  | endObject => exact leave_fails .object h
  | endArray => exact leave_fails .array h
  | field name => exact field_fails h
  | scalar value => exact scalar_fails h
  | flush => cases h

/-- Whether a field masker fails in this way for an event: the name of a field that may come and that
is passed on. -/
structure NameFails (stream : Masking Recorder) (event : Event) (failure : Failure) : Prop where
  isName : ∃ name, event = .field name
  depth_le_one : stream.depth ≤ 1
  fails : stream.set.FailsAt stream.position event failure

/-- Then just the name is recorded, the field waits for its value, and nothing is held back. -/
theorem NameFails.step_eq (h : stream.NameFails event failure) :
    ∃ (name : String) (outer : Position), event = .field name ∧ stream.position = outer.inObject ∧
      stream.step event =
        (⟨stream.set, stream.sink.record [.field name], outer.inField name, 0⟩, .error failure) := by
  obtain ⟨set, recorder, p, depth⟩ := stream
  obtain ⟨⟨name, rfl⟩, hdepth, hfails⟩ := h
  cases hfails with
  | field enters fails =>
    cases Position.advance_eq_ok.1 enters with
    | @field outer name =>
      rw [MaskerSet.fieldMask_eq] at fails
      exact ⟨name, outer, rfl, rfl, (Fails.field hdepth fails).step_eq⟩

/-- Whether an event is turned away: it may not come, or it is a scalar and fails. -/
def turnsAway (stream : Masking Recorder) (event : Event) : Bool :=
  match (stream.step event).2, event, stream.position.advance event with
  | .error _, .scalar _, _ => true
  | .error _, _, .error _ => true
  | _, _, _ => false

theorem turnsAway_refused {fault : Imbalance} (h : stream.position.advance event = .error fault) :
    stream.turnsAway event = true := by
  unfold turnsAway
  rw [step_refused h, h]
  cases event <;> rfl

theorem turnsAway_scalar {value : Scalar} (h : (stream.step (.scalar value)).2 = .error failure) :
    stream.turnsAway (.scalar value) = true := by
  unfold turnsAway
  rw [h]

theorem NameFails.not_turnsAway (h : stream.NameFails event failure) : ¬stream.turnsAway event = true := by
  obtain ⟨⟨name, rfl⟩, -, hfails⟩ := h
  cases hfails with
  | field enters fails =>
    unfold turnsAway
    rw [enters]
    cases (stream.step (.field name)).2 <;> exact Bool.false_ne_true

/-- **What fails is turned away and changes nothing**, unless a field masker fails for a name. -/
theorem Fails.turnsAway_or_nameFails (h : Fails stream event failure next) :
    stream.turnsAway event = true ∧ next = stream ∨ stream.NameFails event failure := by
  have hstep := h.step_eq
  cases h with
  | refused h => exact .inl ⟨turnsAway_refused h, rfl⟩
  | scalar hp h => exact .inl ⟨turnsAway_scalar (congrArg Prod.snd hstep), rfl⟩
  | @field set recorder p depth name failure hd h =>
    rw [← MaskerSet.fieldMask_eq] at h
    exact .inr ⟨⟨name, rfl⟩, hd, .field (p.enterField_inObject name) h⟩

theorem turnsAway_or_nameFails (h : (stream.step event).2 = .error failure) :
    stream.turnsAway event = true ∧ (stream.step event).1 = stream ∨ stream.NameFails event failure :=
  (step_eq_error.1 (Prod.ext rfl h)).turnsAway_or_nameFails

/-- What is turned away is what fails as a scalar, or with an imbalance that no field masker reports. -/
theorem turnsAway_iff : stream.turnsAway event = true ↔
    (∃ fault, (stream.step event).2 = .error (.unbalanced fault) ∧
        ¬stream.NameFails event (.unbalanced fault)) ∨
      ∃ value failure, event = .scalar value ∧ (stream.step event).2 = .error failure := by
  constructor
  · intro h
    have hname {failure : Failure} : ¬stream.NameFails event failure := fun hname => hname.not_turnsAway h
    unfold turnsAway at h
    split at h
    next failure value hresult => exact .inr ⟨value, failure, rfl, hresult⟩
    next fault _ hresult hrefused =>
      rw [step_refused hrefused]
      exact .inl ⟨fault, rfl, hname⟩
    · cases h
  · rintro (⟨fault, hresult, hname⟩ | ⟨value, failure, rfl, hresult⟩)
    · exact ((turnsAway_or_nameFails hresult).resolve_right hname).1
    · exact turnsAway_scalar hresult

theorem step_of_turnsAway (h : stream.turnsAway event = true) : (stream.step event).1 = stream := by
  have hname {failure : Failure} : ¬stream.NameFails event failure := fun hname => hname.not_turnsAway h
  rcases turnsAway_iff.1 h with ⟨fault, hresult, -⟩ | ⟨value, failure, -, hresult⟩
  · exact ((turnsAway_or_nameFails hresult).resolve_right hname).2
  · exact ((turnsAway_or_nameFails hresult).resolve_right hname).2

/-! ## Runs without the events that are turned away -/

/-- The events of a run, given one by one, that are not turned away. -/
def taken (stream : Masking Recorder) : List Event → List Event
  | [] => []
  | event :: events =>
    let rest := taken (stream.step event).1 events
    if stream.turnsAway event then rest else event :: rest

theorem feed_taken (stream : Masking Recorder) (events : List Event) :
    Sink.feed stream (stream.taken events) = Sink.feed stream events := by
  induction events generalizing stream with
  | nil => rfl
  | cons event events ih =>
    rw [taken, Sink.feed_cons]
    split
    next h => rw [write_eq_step, step_of_turnsAway h, ih]
    next h => rw [Sink.feed_cons, write_eq_step, ih]

/-- Of the events that are taken none is turned away when they are given alone. -/
theorem taken_taken (stream : Masking Recorder) (events : List Event) :
    stream.taken (stream.taken events) = stream.taken events := by
  induction events generalizing stream with
  | nil => rfl
  | cons event events ih =>
    rw [taken]
    split
    next h => rw [step_of_turnsAway h, ih]
    next h => rw [taken, if_neg h, ih]

/-- **What is turned away leaves no trace.** Whatever the state of a stream, an event that it reports
as an imbalance and a scalar that fails leave it as it is, unless the imbalance is reported by a field
masker. If a field masker fails for the name of a field, in whatever way, just this name has been
recorded, the field waits for its value and nothing is held back. Nothing else fails. So a run ends as
the run without all that is turned away, of which nothing is turned away. -/
theorem turned_away_leaves_no_trace (stream : Masking Recorder) :
    (∀ event fault, (stream.step event).2 = .error (.unbalanced fault) →
        ¬stream.NameFails event (.unbalanced fault) → (stream.step event).1 = stream) ∧
      (∀ value failure, (stream.step (.scalar value)).2 = .error failure →
        (stream.step (.scalar value)).1 = stream) ∧
      (∀ event failure, stream.NameFails event failure →
        ∃ (name : String) (outer : Position), event = .field name ∧ stream.position = outer.inObject ∧
          stream.step event =
            (⟨stream.set, stream.sink.record [.field name], outer.inField name, 0⟩, .error failure)) ∧
      (∀ event failure, (stream.step event).2 = .error failure →
        stream.turnsAway event = true ∨ stream.NameFails event failure) ∧
      (∀ event, stream.turnsAway event = true ↔
        (∃ fault, (stream.step event).2 = .error (.unbalanced fault) ∧
            ¬stream.NameFails event (.unbalanced fault)) ∨
          ∃ value failure, event = .scalar value ∧ (stream.step event).2 = .error failure) ∧
      ∀ events, Sink.feed stream (stream.taken events) = Sink.feed stream events ∧
        stream.taken (stream.taken events) = stream.taken events := by
  refine ⟨fun event fault h hname => ((turnsAway_or_nameFails h).resolve_right hname).2,
    fun value failure h => step_of_turnsAway (turnsAway_scalar h), fun event failure h => h.step_eq,
    fun event failure h => (turnsAway_or_nameFails h).imp_left And.left, fun event => turnsAway_iff,
    fun events => ⟨feed_taken stream events, taken_taken stream events⟩⟩

/-- A field masker that reports an imbalance leaves a trace: the name has been recorded, and the run is
another one without it. -/
theorem imbalance_of_masker_leaves_trace :
    let set : MaskerSet := { fieldMaskers := [.custom fun _ => .error (.unbalanced .endWhilePending)] }
    let stream := Sink.feed (start set Recorder.empty) [.beginObject none]
    (stream.step (.field "pin")).2 = .error (.unbalanced .endWhilePending) ∧
      stream.sink.events.toList = [.beginObject none] ∧
      (stream.step (.field "pin")).1.sink.events.toList = [.beginObject none, .field "pin"] ∧
      (Sink.feed stream [.field "pin", .scalar .null]).sink.events.toList =
        [.beginObject none, .field "pin", .scalar .null] ∧
      (Sink.feed stream [.scalar .null]).sink.events.toList = [.beginObject none] := by
  exact ⟨rfl, rfl, rfl, rfl, rfl⟩

/-! ## Names for which a field masker fails -/

/-- **A value is shown after a failure of a field masker.** The failure is reported, and a caller that
ends the stream there has recorded the name and nothing after it. But the stream is left as one with
the same value maskers for which no field masker has an answer, so a caller that goes on records the
value as if it were not to be masked. -/
theorem field_failure_shows_value {set : MaskerSet} {p : Position} {name : String}
    {failure : Failure} (h : set.decision (p.inField name) = .error failure) (recorder : Recorder)
    {depth : Nat} (hd : depth ≤ 1) :
    let stream : Masking Recorder := ⟨set, recorder, p.inObject, depth⟩
    let after : Masking Recorder := ⟨set, recorder.record [.field name], p.inField name, 0⟩
    stream.step (.field name) = (after, .error failure) ∧
      (∀ events, Sink.writeAll stream (.field name :: events) = (after, .error failure)) ∧
      (∀ other : MaskerSet, other.decision (p.inField name) = .ok none →
        step ⟨other, recorder, p.inObject, depth⟩ (.field name) =
          ({ after with set := other }, .ok ())) ∧
      ∀ tree : Tree, Sink.writeAll after tree.events =
        (tree.masked set set.changed (p.inField name)).onto set after.sink p.inObject := by
  intro stream after
  have hstep : stream.step (.field name) = (after, .error failure) := (Fails.field hd h).step_eq
  refine ⟨hstep, fun events => ?_, fun other hother => ?_, fun tree => ?_⟩
  · rw [Sink.writeAll_cons, write_eq_step, hstep, Outcome.andThen_error]
  · rw [step_field_recorder other recorder p name hd, hother]
  · exact writeAll_events set after.sink (p.ready_inField name) tree

/-- The numbers in a list are recorded after the failure for the name of their field. -/
theorem card_shown_after_failure :
    let set : MaskerSet := { fieldMaskers := [.custom fun _ => .error (.masker "lookup failed")] }
    let card : Tree := .array none [.scalar (.integer 4111), .scalar (.integer 1111)]
    let after : Masking Recorder :=
      ⟨set, Recorder.empty.record [.field "card"], Position.root.inField "card", 0⟩
    set.decision (Position.root.inField "card") = .error (.masker "lookup failed") ∧
      step ⟨set, Recorder.empty, Position.root.inObject, 0⟩ (.field "card") =
        (after, .error (.masker "lookup failed")) ∧
      (Sink.writeAll after card.events).1.sink.events.toList = .field "card" :: card.events := by
  intro set card after
  have hfails : set.decision (Position.root.inField "card") = .error (.masker "lookup failed") := rfl
  obtain ⟨hstep, -, -, hshown⟩ :=
    field_failure_shows_value hfails Recorder.empty (Nat.zero_le 1)
  refine ⟨hfails, hstep, ?_⟩
  rw [hshown card]
  rfl

/-- A masker that fails for `password` does not keep the password from being recorded. -/
theorem password_shown_after_failure :
    let set : MaskerSet := { fieldMaskers := [.custom fun _ => .error (.masker "lookup failed")] }
    let stream := Sink.feed (start set Recorder.empty) [.beginObject none]
    (stream.step (.field "password")).2 = .error (.masker "lookup failed") ∧
      (Sink.feed stream
          [.field "password", .scalar (.string "hunter2"), .endObject]).sink.events.toList =
        [.beginObject none, .field "password", .scalar (.string "hunter2"), .endObject] := by
  exact ⟨rfl, rfl⟩

end StreamMask.Masking
