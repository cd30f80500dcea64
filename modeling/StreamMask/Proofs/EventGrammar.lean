/-
The grammar of event streams: a stream of events is accepted as far as it begins
some whole values, and complete if it is some whole values.

A position advances over a whole value from one end to the other, so over the
beginning of any values; and where it has advanced, what is open can be
completed. So positions tell just the streams that the grammar tells
(`Position.follow_iff_begins`). With maskers that do not fail, a masking stream
refuses what its position refuses and nothing else, held back or not.
-/
import StreamMask.Proofs.AcceptingFacts
import StreamMask.Proofs.DepthFacts
import StreamMask.Proofs.UnfailingMaskers

namespace StreamMask

/-! ## Positions over whole values -/

namespace Position

theorem follow_cons {p q : Position} {event : Event} (h : p.advance event = .ok q)
    (events : List Event) : (event :: events).foldlM advance p = events.foldlM advance q := by
  rw [List.foldlM_cons, h]
  rfl

theorem follow_append {p q : Position} {xs : List Event} (h : xs.foldlM advance p = .ok q)
    (ys : List Event) : (xs ++ ys).foldlM advance p = ys.foldlM advance q := by
  rw [List.foldlM_append, h]
  rfl

/-- A flush does not move a position. -/
theorem follow_content (p : Position) (events : List Event) :
    (Event.content events).foldlM advance p = events.foldlM advance p := by
  induction events generalizing p with
  | nil => rfl
  | cons event events ih =>
    by_cases hflush : event = .flush
    · subst hflush
      exact ih p
    · rw [Event.content, List.filter_cons_of_pos (by simpa using hflush), List.foldlM_cons,
        List.foldlM_cons]
      cases p.advance event with
      | error fault => rfl
      | ok q => exact ih q

mutual

/-- A position advances over a whole value from one end to the other. -/
theorem follow_events {p : Position} (hp : p.Ready) :
    ∀ tree : Tree, tree.events.foldlM advance p = .ok p.complete
  | .scalar value => follow_cons (advance_eq_ok.2 (.scalar hp)) []
  | .array hint items => by
    rw [Tree.events, List.cons_append, follow_cons (advance_eq_ok.2 (.beginArray hp)),
      follow_append (follow_itemEvents p 0 items), follow_cons (advance_eq_ok.2 .endArray)]
    rfl
  | .object hint fields => by
    rw [Tree.events, List.cons_append, follow_cons (advance_eq_ok.2 (.beginObject hp)),
      follow_append (follow_fieldEvents p fields), follow_cons (advance_eq_ok.2 .endObject)]
    rfl

theorem follow_itemEvents (p : Position) (index : Nat) : ∀ items : List Tree,
    (Tree.itemEvents items).foldlM advance (p.inItem index) = .ok (p.inItem (index + items.length))
  | [] => rfl
  | item :: items => by
    rw [Tree.itemEvents, follow_append (follow_events (p.ready_inItem index) item),
      complete_inItem, follow_itemEvents p (index + 1) items, List.length_cons, Nat.add_assoc,
      Nat.add_comm 1]

theorem follow_fieldEvents (p : Position) : ∀ fields : List (String × Tree),
    (Tree.fieldEvents fields).foldlM advance p.inObject = .ok p.inObject
  | [] => rfl
  | (name, value) :: fields => by
    rw [Tree.fieldEvents, List.cons_append, follow_cons (advance_eq_ok.2 .field),
      follow_append (follow_events (p.ready_inField name) value), complete_inField,
      follow_fieldEvents p fields]

end

theorem follow_values (trees : List Tree) :
    (trees.flatMap Tree.events).foldlM advance .root = .ok .root := by
  induction trees with
  | nil => rfl
  | cons tree trees ih =>
    rw [List.flatMap_cons, follow_append (follow_events ready_root tree)]
    exact ih

end Position

/-! ## Completing what is open -/

@[simp] theorem Position.length_complete (p : Position) :
    p.complete.frames.length = p.frames.length := by
  obtain ⟨_ | ⟨frame, frames⟩⟩ := p
  · rfl
  · rfl

/-- What is open can be completed to whole values. The containers are closed from the innermost on,
each after a null if a field still has no value. -/
theorem Opened.completes {frames : List Frame} {before : List Event} (h : Opened frames before) :
    ∃ trees : List Tree, before <+: trees.flatMap Tree.events := by
  induction hlength : frames.length generalizing frames before with
  | zero =>
    obtain rfl := List.length_eq_zero_iff.1 hlength
    cases h with
    | values trees => exact ⟨trees, List.prefix_rfl⟩
  | succ n ih =>
    have closes {outer : List Frame} {start : List Event} (hlength : outer.length = n)
        (houter : Opened outer start) (hready : Position.Ready ⟨outer⟩) (tree : Tree)
        {sofar : List Event} (hsofar : sofar <+: tree.events) :
        ∃ trees : List Tree, start ++ sofar <+: trees.flatMap Tree.events := by
      obtain ⟨trees, htrees⟩ := ih (houter.value (p := ⟨outer⟩) hready tree) (by simpa using hlength)
      exact ⟨trees, ((List.prefix_append_right_inj start).2 hsofar).trans htrees⟩
    cases h with
    | values trees => cases hlength
    | array hint items houter hready =>
      refine closes (Nat.succ.inj hlength) houter hready (.array hint items) ?_
      rw [Tree.events]
      exact List.prefix_append ..
    | object hint fields houter hready =>
      refine closes (Nat.succ.inj hlength) houter hready (.object hint fields) ?_
      rw [Tree.events]
      exact List.prefix_append ..
    | field hint fields name houter hready =>
      refine closes (Nat.succ.inj hlength) houter hready
        (.object hint (fields ++ [(name, .scalar .null)])) ?_
      rw [Tree.events, Tree.fieldEvents_append, List.cons_append, List.append_assoc]
      refine List.cons_prefix_cons.2 ⟨rfl, (List.prefix_append_right_inj _).2 ?_⟩
      exact List.cons_prefix_cons.2 ⟨rfl, List.nil_prefix⟩

namespace Position

/-- **Positions advance over the beginnings of values.** -/
theorem follow_iff_begins (events : List Event) :
    (∃ p, events.foldlM advance .root = .ok p) ↔
      ∃ trees : List Tree, Event.content events <+: trees.flatMap Tree.events := by
  constructor
  · rintro ⟨p, hp⟩
    have hopened : Opened root.frames [] := .values []
    exact (hopened.follow hp).completes
  · rintro ⟨trees, rest, hrest⟩
    have hall := follow_values trees
    rw [← hrest, List.foldlM_append, follow_content] at hall
    cases hp : events.foldlM advance .root with
    | ok p => exact ⟨p, rfl⟩
    | error fault => rw [hp] at hall; cases hall

/-- **Positions come back to the root over whole values.** -/
theorem follow_root_iff_values (events : List Event) :
    events.foldlM advance .root = .ok .root ↔
      ∃ trees : List Tree, Event.content events = trees.flatMap Tree.events := by
  constructor
  · exact values_of_follow
  · rintro ⟨trees, htrees⟩
    rw [← follow_content, htrees, follow_values]

end Position

/-! ## Streams that accept them -/

theorem Sink.Accepts.follows {σ : Type} [Sink σ] (h : Accepts σ) :
    Follows (fun (_ : σ) (_ : Position) => True) fun _ => False where
  leads _ _ := trivial
  fails {sink p q event failure} _ _ hfails := by
    rw [h sink event] at hfails
    cases hfails

namespace Masking

variable {σ : Type} [Sink σ]

/-- A stream in which nothing fails takes an event just when its position does. -/
theorem step_ok (h : Sink.Accepts σ) {stream : Masking σ} (hset : stream.set.NeverFails)
    (hsteady : stream.Steady fun _ _ => True) {event : Event} {q : Position}
    (hq : stream.position.advance event = .ok q) :
    ∃ next : Masking σ, stream.step event = (next, .ok ()) ∧ next.position = q := by
  have hkeeps := step_keeps h.follows hsteady event
  have hresult : (stream.step event).2 = .ok () := by
    cases hstep : (stream.step event).2 with
    | ok _ => rfl
    | error failure =>
      cases hkeeps.cause failure hstep with
      | refused hrefused =>
        rw [hrefused] at hq
        cases hq
      | masker hmasker => exact absurd hmasker hset.not_failsAt
      | sink hnever => cases hnever
  refine ⟨_, Prod.ext rfl hresult, ?_⟩
  rw [hkeeps.position, hresult, Position.after_ok hq]

/-- So it takes events as far as its position advances over them. -/
theorem writeAll_follows (h : Sink.Accepts σ) {stream : Masking σ} (hset : stream.set.NeverFails)
    (hsteady : stream.Steady fun _ _ => True) (events : List Event) :
    let outcome := Sink.writeAll stream events
    (∃ q, events.foldlM Position.advance stream.position = .ok q ∧ outcome.2 = .ok () ∧
        outcome.1.position = q) ∨
      ∃ fault, events.foldlM Position.advance stream.position = .error fault ∧
        outcome.2 = .error (.unbalanced fault) := by
  induction events generalizing stream with
  | nil => exact .inl ⟨_, rfl, rfl, rfl⟩
  | cons event events ih =>
    rw [List.foldlM_cons, Sink.writeAll_cons, write_eq_step]
    cases hadv : stream.position.advance event with
    | error fault =>
      rw [step_refused hadv]
      exact .inr ⟨fault, rfl, rfl⟩
    | ok q =>
      obtain ⟨next, hstep, rfl⟩ := step_ok h hset hsteady hadv
      have hnext := (step_keeps h.follows hsteady event).steady
      have hsame := (step_shifts stream event).set
      rw [hstep] at hnext hsame ⊢
      exact ih (hsame ▸ hset) hnext

theorem writeAll_balanced {stream : Masking σ} (h : stream.Balanced) (events : List Event) :
    (Sink.writeAll stream events).1.Balanced :=
  Sink.writeAll_invariant Balanced (fun stream event hb => (step_shifts stream event).balanced hb) h
    events

theorem finish_of_accepts (h : Sink.Accepts σ) {stream : Masking σ} (hb : stream.Balanced) :
    (stream.position = .root ∧ stream.finish.2 = .ok ()) ∨
      stream.position ≠ .root ∧ ∃ fault, stream.finish.2 = .error (.unbalanced fault) := by
  rw [finish_eq hb]
  split
  next hroot => exact .inl ⟨hroot, h _ _⟩
  next hroot => exact .inr ⟨hroot, _, rfl⟩

theorem unbalanced_of_finish (h : Sink.Accepts σ) {stream : Masking σ} (hb : stream.Balanced)
    {failure : Failure} (hfinish : stream.finish.2 = .error failure) :
    ∃ fault, failure = .unbalanced fault := by
  rcases finish_of_accepts h hb with ⟨-, hok⟩ | ⟨-, fault, hfault⟩
  · rw [hok] at hfinish
    cases hfinish
  · rw [hfault] at hfinish
    cases hfinish
    exact ⟨fault, rfl⟩

/-- **The grammar of events is accepted, and nothing else.** With maskers that do not fail, events are
taken to the last one if and only if, apart from flushes, they begin some whole values; the document
then ends well if and only if they are whole values. All that is ever refused is refused because it
does not nest. -/
theorem writeAll_accepts_values (set : MaskerSet) (hset : set.NeverFails) (recorder : Recorder)
    (events : List Event) :
    let outcome := Sink.writeAll (start set recorder) events
    (outcome.2 = .ok () ↔
        ∃ trees : List Tree, Event.content events <+: trees.flatMap Tree.events) ∧
      (outcome.2 = .ok () → (outcome.1.finish.2 = .ok () ↔
        ∃ trees : List Tree, Event.content events = trees.flatMap Tree.events)) ∧
      ∀ failure, outcome.2 = .error failure ∨ outcome.1.finish.2 = .error failure →
        ∃ fault, failure = .unbalanced fault := by
  intro outcome
  have haccepts : Sink.Accepts Recorder := fun _ _ => rfl
  have hsteady : (start set recorder).Steady fun _ _ => True := start_steady trivial
  have hbalanced : outcome.1.Balanced := writeAll_balanced (start_balanced set recorder) events
  rw [← Position.follow_iff_begins, ← Position.follow_root_iff_values]
  have hfinish := finish_of_accepts haccepts hbalanced
  have hrefused : ∀ failure, outcome.1.finish.2 = .error failure → _ :=
    fun _ => unbalanced_of_finish haccepts hbalanced
  rcases writeAll_follows haccepts hset hsteady events with
    ⟨q, hq, hok, hposition⟩ | ⟨fault, hfault, herror⟩
  · change events.foldlM Position.advance .root = .ok q at hq
    change outcome.2 = .ok () at hok
    change outcome.1.position = q at hposition
    refine ⟨⟨fun _ => ⟨q, hq⟩, fun _ => hok⟩, fun _ => ?_, fun failure hfailure => ?_⟩
    · rw [hq, Except.ok.injEq, ← hposition]
      rcases hfinish with ⟨hroot, hend⟩ | ⟨hroot, fault, hend⟩
      · exact ⟨fun _ => hroot, fun _ => hend⟩
      · refine ⟨fun h => ?_, fun h => absurd h hroot⟩
        rw [hend] at h
        cases h
    · rw [hok] at hfailure
      exact hrefused failure (hfailure.resolve_left nofun)
  · change events.foldlM Position.advance .root = .error fault at hfault
    change outcome.2 = .error (.unbalanced fault) at herror
    refine ⟨⟨fun h => ?_, fun ⟨p, hp⟩ => ?_⟩, fun h => ?_, fun failure hfailure => ?_⟩
    · rw [herror] at h
      cases h
    · rw [hfault] at hp
      cases hp
    · rw [herror] at h
      cases h
    · rcases hfailure with hfailure | hfailure
      · rw [herror] at hfailure
        cases hfailure
        exact ⟨fault, rfl⟩
      · exact hrefused failure hfailure

/-- A masked field of an open object is accepted, as the beginning of a value and not as a value. -/
theorem writeAll_accepts_open_object :
    let set : MaskerSet := {
      fieldMaskers := [.names ⟨["pin"], .null⟩]
      valueMaskers := [.custom fun _ value =>
        .ok (if value.kind = "integer" then some (.bool true) else none)] }
    let events : List Event :=
      [.scalar (.integer 7), .beginObject none, .field "pin", .beginArray (some 1), .flush]
    set.NeverFails ∧
      (∃ trees : List Tree, Event.content events <+: trees.flatMap Tree.events) ∧
      ¬∃ trees : List Tree, Event.content events = trees.flatMap Tree.events := by
  intro set events
  have hset : set.NeverFails := by
    refine ⟨fun decide h => ?_, fun decide h => ?_⟩
    · simp [set] at h
    · cases List.mem_singleton.mp h
      exact fun _ _ _ h => nomatch h
  obtain ⟨hbegins, hvalues, -⟩ := writeAll_accepts_values set hset Recorder.empty events
  have hok : (Sink.writeAll (start set Recorder.empty) events).2 = .ok () := rfl
  have hopen : (Sink.writeAll (start set Recorder.empty) events).1.finish.2.isOk = false := by decide
  refine ⟨hset, hbegins.mp hok, fun h => ?_⟩
  rw [(hvalues hok).mpr h] at hopen
  cases hopen

end Masking
end StreamMask
