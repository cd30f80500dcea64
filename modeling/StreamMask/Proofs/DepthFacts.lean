/-
How far a masking stream holds back, whatever its sink does and whatever fails.

A step moves the place as its event does, or not at all, and the depth with it
(`Masking.Shifts`); that is all that a sink and the maskers can bring about. So
the depth always belongs to the open containers: it never exceeds their number,
and it counts them from the innermost out to the object of the masked field.
It is given back when that object ends, so a document that has ended holds
nothing back.
-/
import StreamMask.Proofs.EmittedPosition

namespace StreamMask

/-! ## The place and the depth after an event -/

/-- The depths that an event which may come can lead to. A beginning adds one to what is held back,
an end takes one off; a field name inside something that is held back changes nothing, and any
other is decided afresh. -/
def Event.Spends (depth : Nat) : Event → Nat → Prop
  | .beginObject _, after | .beginArray _, after => after = if 0 < depth then depth + 1 else 0
  | .endObject, after | .endArray, after => after = depth - 1
  | .field _, after => if 1 < depth then after = depth else after ≤ 1
  | .scalar _, after | .flush, after => after = depth

theorem Container.spends_opening (kind : Container) (hint : Option Nat) (depth : Nat) :
    (kind.opening hint).Spends depth (if 0 < depth then depth + 1 else 0) := by
  cases kind <;> rfl

theorem Container.spends_closing (kind : Container) (depth : Nat) :
    kind.closing.Spends depth (depth - 1) := by
  cases kind <;> rfl

namespace Masking

variable {σ : Type}

/-- Whether one stream is another one after an event, its sink apart: the maskers are the same, and
the place and the depth have not changed, or both have gone where the event leads. -/
structure Shifts (stream : Masking σ) (event : Event) (after : Masking σ) : Prop where
  set : after.set = stream.set
  place : after.position = stream.position ∧ after.depth = stream.depth ∨
    stream.position.Moves event after.position ∧ event.Spends stream.depth after.depth

variable {set : MaskerSet} {sink sink' : σ} {p q : Position} {depth depth' : Nat} {event : Event}

theorem Shifts.stays : Shifts ⟨set, sink, p, depth⟩ event ⟨set, sink', p, depth⟩ :=
  ⟨rfl, .inl ⟨rfl, rfl⟩⟩

theorem Shifts.of_moves (hm : p.Moves event q) (hd : event.Spends depth depth') :
    Shifts ⟨set, sink, p, depth⟩ event ⟨set, sink', q, depth'⟩ := ⟨rfl, .inr ⟨hm, hd⟩⟩

variable [Sink σ]

theorem enter_shifts (stream : Masking σ) (kind : Container) (hint : Option Nat) :
    Shifts stream (kind.opening hint) (stream.enter kind hint).1 := by
  obtain ⟨set, sink, p, depth⟩ := stream
  simp only [enter]
  split
  · exact .stays
  next q hq =>
    have hm := Position.moves_of_enter hq hint
    have hspends := kind.spends_opening hint depth
    split
    next hd => exact .of_moves hm (by rwa [if_pos hd] at hspends)
    next hd =>
      obtain rfl : depth = 0 := by omega
      exact .of_moves hm hspends

theorem leave_shifts (stream : Masking σ) (kind : Container) :
    Shifts stream kind.closing (stream.leave kind).1 := by
  obtain ⟨set, sink, p, depth⟩ := stream
  simp only [leave]
  split
  · exact .stays
  next q hq =>
    have hm := Position.moves_of_leave hq
    split
    · exact .of_moves hm (kind.spends_closing depth)
    · exact .of_moves hm (kind.spends_closing depth)

/-- The mask of a field holds back its value, and nothing else changes but the sink. -/
theorem maskField_cases (set : MaskerSet) (sink : σ) (p : Position) :
    ∃ sink' depth, depth ≤ 1 ∧ (maskField ⟨set, sink, p, 0⟩).1 = ⟨set, sink', p, depth⟩ := by
  simp only [maskField]
  split
  · exact ⟨sink, 0, Nat.zero_le 1, rfl⟩
  · exact ⟨sink, 0, Nat.zero_le 1, rfl⟩
  next mask hmask =>
    rcases forward_andThen_cases set sink p 0 (.scalar mask.toScalar)
      (fun stream => ({ stream with depth := 1 }, .ok ())) with ⟨sink', -, h⟩ | ⟨sink', failure, -, h⟩
    · exact ⟨sink', 1, Nat.le_refl 1, congrArg Prod.fst h⟩
    · exact ⟨sink', 0, Nat.zero_le 1, congrArg Prod.fst h⟩

theorem field_shifts (stream : Masking σ) (name : String) :
    Shifts stream (.field name) (stream.field name).1 := by
  obtain ⟨set, sink, p, depth⟩ := stream
  simp only [field]
  split
  · exact .stays
  next q hq =>
    have hm := Position.moves_of_enterField hq
    split
    next hd => exact .of_moves hm (by simp [Event.Spends, hd])
    next hd =>
      have hspends {after : Nat} (h : after ≤ 1) : (Event.field name).Spends depth after := by
        simp [Event.Spends, hd, h]
      rcases forward_andThen_cases set sink q 0 (.field name) maskField
        with ⟨sink', -, h⟩ | ⟨sink', failure, -, h⟩
      · obtain ⟨last, depth', hdepth, hmask⟩ := maskField_cases set sink' q
        rw [h, hmask]
        exact .of_moves hm (hspends hdepth)
      · rw [h]
        exact .of_moves hm (hspends (Nat.zero_le 1))

theorem scalar_shifts (stream : Masking σ) (value : Scalar) :
    Shifts stream (.scalar value) (stream.scalar value).1 := by
  obtain ⟨set, sink, p, depth⟩ := stream
  simp only [scalar]
  split
  · exact .stays
  next hc =>
    have hm : p.Moves (.scalar value) p.complete := .scalar (Position.checkValue_eq_ok.1 hc)
    split
    · exact .of_moves hm rfl
    · split
      · exact .stays
      next masked hmask =>
        rcases forward_andThen_cases set sink p depth (.scalar masked)
          (fun stream => ({ stream with position := stream.position.complete }, .ok ()))
          with ⟨sink', -, h⟩ | ⟨sink', failure, -, h⟩
        · rw [h]
          exact .of_moves hm rfl
        · rw [h]
          exact .stays

/-- **A step moves the place and the depth as its event does, or not at all**, over any sink. -/
theorem step_shifts (stream : Masking σ) (event : Event) :
    Shifts stream event (stream.step event).1 := by
  cases event with
  | beginObject hint => exact enter_shifts stream .object hint
  | beginArray hint => exact enter_shifts stream .array hint
  | endObject => exact leave_shifts stream .object
  | endArray => exact leave_shifts stream .array
  | field name => exact field_shifts stream name
  | scalar value => exact scalar_shifts stream value
  | flush => exact .stays

end Masking

/-! ## What the depth says about the open containers -/

namespace Position

/-- Whether every container that has another one open inside it is at a field or an item. -/
def Nested (p : Position) : Prop := ∀ frame ∈ p.frames.tail, frame.hasPosition = true

theorem Ready.hasPosition {p : Position} (hp : p.Ready) (hn : p.Nested) :
    ∀ frame ∈ p.frames, frame.hasPosition = true := by
  obtain ⟨_ | ⟨head, frames⟩⟩ := p
  · intro frame hmem
    cases hmem
  · rw [List.forall_mem_cons]
    refine ⟨?_, hn⟩
    match head with
    | .array index => rfl
    | .object (some name) => rfl
    | .object none => exact absurd rfl (hp frames)

theorem Nested.complete {p : Position} (hn : p.Nested) : p.complete.Nested := by
  obtain ⟨_ | ⟨head, frames⟩⟩ := p
  · exact hn
  · exact hn

theorem Nested.outer {p q : Position} {frame : Frame} (hn : p.Nested)
    (hframes : p.frames = frame :: q.frames) : q.complete.Nested := by
  refine Nested.complete fun outer hmem => hn outer ?_
  rw [hframes]
  exact List.mem_of_mem_tail hmem

/-- An event that may come keeps containers at their fields and items. -/
theorem Moves.nested {p q : Position} {event : Event} (hm : p.Moves event q) (hn : p.Nested) :
    q.Nested := by
  cases hm with
  | beginArray hp => exact hp.hasPosition hn
  | beginObject hp => exact hp.hasPosition hn
  | endArray => exact hn.outer rfl
  | endObject => exact hn.outer rfl
  | field => exact hn
  | scalar hp => exact hn.complete
  | flush => exact hn

/-- An event that may come keeps the object of the masked field where the depth says. -/
theorem Moves.owned {p q : Position} {event : Event} {depth after : Nat} (hm : p.Moves event q)
    (hd : event.Spends depth after) (ho : p.Owned depth) : q.Owned after := by
  cases hm with
  | beginArray hp | beginObject hp =>
    subst hd
    cases depth with
    | zero => trivial
    | succ k => exact ho
  | endArray =>
    subst hd
    match depth with
    | 0 => trivial
    | 1 => trivial
    | k + 2 => exact (Owned.complete (k := k) ho).1
  | endObject =>
    subst hd
    match depth with
    | 0 => trivial
    | 1 => trivial
    | k + 2 => exact (Owned.complete (k := k) ho).1
  | field =>
    simp only [Event.Spends] at hd
    split at hd
    next hdepth =>
      subst hd
      match after with
      | k + 2 => exact ho
    next hdepth =>
      match after with
      | 0 => trivial
      | 1 => exact ⟨_, _, rfl⟩
  | scalar hp =>
    subst hd
    cases after with
    | zero => trivial
    | succ k => exact ho.complete.1
  | flush =>
    subst hd
    exact ho

/-- No more is held back than there are open containers. -/
theorem Owned.le_depth {p : Position} {depth : Nat} (h : p.Owned depth) : depth ≤ p.depth := by
  cases depth with
  | zero => exact Nat.zero_le _
  | succ k =>
    obtain ⟨pending, outer, hdrop⟩ := h
    have hlength := congrArg List.length hdrop
    rw [List.length_drop, List.length_cons] at hlength
    show k + 1 ≤ p.frames.length
    omega

/-- The object of the masked field is `depth - 1` containers out from the innermost one, and unless
it is the innermost one itself the field is still in progress. -/
theorem Owned.owner {p : Position} {depth : Nat} (h : p.Owned depth) (hn : p.Nested)
    (hd : 0 < depth) :
    ∃ pending, p.frames[depth - 1]? = some (.object pending) ∧ (1 < depth → pending.isSome = true) := by
  match depth with
  | k + 1 =>
    obtain ⟨pending, outer, hdrop⟩ := h
    have hget : p.frames[k]? = some (.object pending) := by
      have := congrArg List.head? hdrop
      rwa [List.head?_drop, List.head?_cons] at this
    refine ⟨pending, hget, fun hk => hn (.object pending) ?_⟩
    match k with
    | k + 1 =>
      rw [← List.getElem?_tail] at hget
      exact List.mem_of_getElem? hget

theorem Owned.eq_zero {depth : Nat} (h : root.Owned depth) : depth = 0 :=
  Nat.le_zero.1 h.le_depth

end Position

/-! ## Whole runs -/

namespace Masking

variable {σ : Type}

/-- A stream whose depth belongs to its open containers. -/
structure Balanced (stream : Masking σ) : Prop where
  nested : stream.position.Nested
  owned : stream.position.Owned stream.depth

theorem Shifts.balanced {stream after : Masking σ} {event : Event} (h : stream.Shifts event after)
    (hb : stream.Balanced) : after.Balanced := by
  rcases h.place with ⟨hposition, hdepth⟩ | ⟨hm, hd⟩
  · exact ⟨by rw [hposition]; exact hb.nested, by rw [hposition, hdepth]; exact hb.owned⟩
  · exact ⟨hm.nested hb.nested, hm.owned hd hb.owned⟩

theorem start_balanced (set : MaskerSet) (sink : σ) : (start set sink).Balanced :=
  ⟨fun _ hmem => (List.not_mem_nil hmem).elim, trivial⟩

variable [Sink σ]

theorem feed_set (stream : Masking σ) (events : List Event) :
    (Sink.feed stream events).set = stream.set :=
  Sink.feed_invariant (fun after : Masking σ => after.set = stream.set)
    (fun after event h => (step_shifts after event).set.trans h) rfl events

theorem feed_balanced {stream : Masking σ} (h : stream.Balanced) (events : List Event) :
    (Sink.feed stream events).Balanced :=
  Sink.feed_invariant Balanced (fun stream event hb => (step_shifts stream event).balanced hb) h events

/-- The depth falls to zero at an end just when the object of the masked field ends. -/
theorem leave_releases {stream : Masking σ} (h : stream.Balanced) (kind : Container) :
    0 < stream.depth ∧ (stream.step kind.closing).1.depth = 0 ↔
      kind = .object ∧ stream.depth = 1 ∧ ∃ outer : Position, stream.position = outer.inObject := by
  obtain ⟨set, sink, p, depth⟩ := stream
  constructor
  · rintro ⟨hpos, hzero⟩
    change 0 < depth at hpos
    rcases (step_shifts ⟨set, sink, p, depth⟩ kind.closing).place with ⟨-, hdepth⟩ | ⟨hm, hd⟩
    · rw [hzero] at hdepth
      exact absurd hdepth.symm (Nat.ne_of_gt hpos)
    · have hone : depth = 1 := by
        rw [hzero] at hd
        cases kind <;> (simp only [Container.closing, Event.Spends] at hd; omega)
      subst hone
      -- The innermost container is the object of the masked field, so no array ends here.
      obtain ⟨pending, outer, hframes⟩ := h.owned
      generalize (step (Masking.mk set sink p 1) kind.closing).1.position = q at hm
      cases kind with
      | array => cases hm; cases hframes
      | object => cases hm; exact ⟨rfl, rfl, _, rfl⟩
  · rintro ⟨rfl, hone, outer, hp⟩
    subst hone hp
    refine ⟨Nat.one_pos, ?_⟩
    show (step ⟨set, sink, outer.inObject, 1⟩ .endObject).1.depth = 0
    rw [step_endObject set sink outer (Nat.le_refl 1)]
    rfl

/-- A document that has ended holds nothing back, so only an open container is ever in the way. -/
theorem finish_eq {stream : Masking σ} (h : stream.Balanced) :
    stream.finish =
      if stream.position = .root then stream.forward .flush
      else (stream, .error (.unbalanced (.openAtEnd stream.position.depth stream.position.pointer))) := by
  obtain ⟨set, sink, ⟨_ | ⟨frame, frames⟩⟩, depth⟩ := stream
  · obtain rfl : depth = 0 := h.owned.eq_zero
    rfl
  · rfl

/-- **What is held back belongs to an open object.** After any events, over any sink and whatever
failed, an end outside every container is refused and moves nothing; every container around another
one is at a field or an item; and the depth counts open containers from the innermost out to the
object of the masked field, whose field is in progress unless the object is the innermost one. So
nothing is held back outside every container, only the end of that object gives back the last of the
depth, and a document is refused at its end just when a container is open. -/
theorem depth_counts_to_masked_object (set : MaskerSet) (sink : σ) (events : List Event) :
    let stream := Sink.feed (start set sink) events
    (stream.position = .root → ∀ kind : Container,
        stream.step kind.closing = (stream, .error (.unbalanced (.endOutside kind)))) ∧
      (∀ frame ∈ stream.position.frames.tail, frame.hasPosition = true) ∧
      stream.depth ≤ stream.position.depth ∧
      (0 < stream.depth → ∃ pending,
        stream.position.frames[stream.depth - 1]? = some (.object pending) ∧
          (1 < stream.depth → pending.isSome = true)) ∧
      (stream.position = .root → stream.depth = 0) ∧
      (∀ kind : Container, 0 < stream.depth ∧ (stream.step kind.closing).1.depth = 0 ↔
        kind = .object ∧ stream.depth = 1 ∧ ∃ outer : Position, stream.position = outer.inObject) ∧
      (stream.finish = if stream.position = .root then stream.forward .flush
        else (stream, .error (.unbalanced
          (.openAtEnd stream.position.depth stream.position.pointer)))) ∧
      ((Sink.write stream.sink .flush).2 = .ok () →
        ((∃ failure, stream.finish.2 = .error failure) ↔ 0 < stream.position.depth)) := by
  intro stream
  have h : stream.Balanced := feed_balanced (start_balanced set sink) events
  refine ⟨fun hroot kind => ?_, h.nested, h.owned.le_depth, h.owned.owner h.nested, fun hroot => ?_,
    leave_releases h, finish_eq h, fun hflush => ?_⟩
  · refine step_refused ?_
    rw [hroot]
    cases kind <;> rfl
  · have howned := h.owned
    rw [hroot] at howned
    exact howned.eq_zero
  · rw [finish_eq h]
    split
    next hroot => simp [forward, hflush, hroot, Position.depth, Position.root]
    next hroot =>
      refine ⟨fun _ => List.length_pos_iff.2 fun hnil => hroot ?_, fun _ => ⟨_, rfl⟩⟩
      exact congrArg Position.mk hnil

end Masking
end StreamMask
