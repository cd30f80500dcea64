/-
Streams that go in step: whatever they are given, they take it with the same
result.

Two masking streams go in step if their sinks do and their maskers agree
(`Masking.inStep`). Field maskers are asked at fields and nowhere else, so they
need to agree there only (`MaskerSet.Agrees`).
-/
import StreamMask.Masking
import StreamMask.Proofs.PositionFacts
import StreamMask.Proofs.SinkFacts

namespace StreamMask

variable {σ τ : Type}

/-! ## Sinks in step -/

/-- Whether two outcomes have the same result, and states that are related. -/
def Outcome.Beside (R : σ → τ → Prop) (a : Outcome σ) (b : Outcome τ) : Prop := R a.1 b.1 ∧ a.2 = b.2

theorem Outcome.Beside.andThen {R : σ → τ → Prop} {a : Outcome σ} {b : Outcome τ}
    (h : Beside R a b) {f : σ → Outcome σ} {g : τ → Outcome τ}
    (hnext : ∀ s t, R s t → Beside R (f s) (g t)) :
    Beside R (Outcome.andThen a f) (Outcome.andThen b g) := by
  obtain ⟨s, result⟩ := a
  obtain ⟨t, result'⟩ := b
  obtain ⟨hstates, rfl⟩ := h
  cases result with
  | ok _ => exact hnext s t hstates
  | error failure => exact ⟨hstates, rfl⟩

/-- Whether sinks that are related take every event with the same result, and are related again. -/
def Sink.InStep [Sink σ] [Sink τ] (R : σ → τ → Prop) : Prop :=
  ∀ s t, R s t → ∀ event, Outcome.Beside R (write s event) (write t event)

namespace Sink.InStep

variable [Sink σ] [Sink τ] {R : σ → τ → Prop}

theorem refl : InStep (@Eq σ) := by
  rintro s t rfl event
  exact ⟨rfl, rfl⟩

theorem writeAll (h : InStep R) {s : σ} {t : τ} (hR : R s t) (events : List Event) :
    Outcome.Beside R (Sink.writeAll s events) (Sink.writeAll t events) := by
  induction events generalizing s t with
  | nil => exact ⟨hR, rfl⟩
  | cons event events ih =>
    rw [writeAll_cons, writeAll_cons]
    exact (h s t hR event).andThen fun s t hR => ih hR

theorem feed (h : InStep R) {s : σ} {t : τ} (hR : R s t) (events : List Event) :
    R (Sink.feed s events) (Sink.feed t events) := by
  induction events generalizing s t with
  | nil => exact hR
  | cons event events ih => exact ih (h s t hR event).1

end Sink.InStep

/-! ## Masking streams in step -/

/-- Whether the maskers of two sets come to the same wherever a stream asks them. -/
structure MaskerSet.Agrees (a b : MaskerSet) : Prop where
  field : ∀ (place : Position) (name : String),
    a.fieldMask (place.inField name) = b.fieldMask (place.inField name)
  scalar : ∀ (place : Position) (value : Scalar), a.maskScalar place value = b.maskScalar place value

theorem MaskerSet.Agrees.refl (set : MaskerSet) : set.Agrees set := ⟨fun _ _ => rfl, fun _ _ => rfl⟩

namespace Masking

/-- Streams with these maskers, at one place and holding back as much as each other, over sinks that
are related. -/
inductive Beside (a b : MaskerSet) (R : σ → τ → Prop) : Masking σ → Masking τ → Prop where
  | intro {s : σ} {t : τ} (p : Position) (depth : Nat) :
    R s t → Beside a b R ⟨a, s, p, depth⟩ ⟨b, t, p, depth⟩

variable {R : σ → τ → Prop} {a b : MaskerSet} {s : σ} {t : τ}

theorem start_beside (h : R s t) : Beside a b R (start a s) (start b t) := .intro .root 0 h

variable [Sink σ] [Sink τ]

theorem forward_beside (hR : Sink.InStep R) (h : R s t) (p : Position) (depth : Nat) (event : Event) :
    Outcome.Beside (Beside a b R) (forward ⟨a, s, p, depth⟩ event) (forward ⟨b, t, p, depth⟩ event) := by
  obtain ⟨hsinks, hresult⟩ := hR s t h event
  exact ⟨.intro p depth hsinks, hresult⟩

theorem enter_beside (hR : Sink.InStep R) (h : R s t) (p : Position) (depth : Nat)
    (kind : Container) (hint : Option Nat) :
    Outcome.Beside (Beside a b R) (enter ⟨a, s, p, depth⟩ kind hint)
      (enter ⟨b, t, p, depth⟩ kind hint) := by
  simp only [enter]
  cases p.enter kind with
  | error fault => exact ⟨.intro p depth h, rfl⟩
  | ok q =>
    dsimp only
    split
    · exact ⟨.intro q (depth + 1) h, rfl⟩
    · exact forward_beside hR h q depth _

theorem leave_beside (hR : Sink.InStep R) (h : R s t) (p : Position) (depth : Nat)
    (kind : Container) :
    Outcome.Beside (Beside a b R) (leave ⟨a, s, p, depth⟩ kind) (leave ⟨b, t, p, depth⟩ kind) := by
  simp only [leave]
  cases p.leave kind with
  | error fault => exact ⟨.intro p depth h, rfl⟩
  | ok q =>
    dsimp only
    split
    · exact ⟨.intro q (depth - 1) h, rfl⟩
    · exact forward_beside hR h q (depth - 1) _

theorem maskField_beside (hR : Sink.InStep R) (hset : a.Agrees b) (h : R s t) (p : Position)
    (name : String) (depth : Nat) :
    Outcome.Beside (Beside a b R) (maskField ⟨a, s, p.inField name, depth⟩)
      (maskField ⟨b, t, p.inField name, depth⟩) := by
  simp only [maskField, hset.field]
  cases b.fieldMask (p.inField name) with
  | error failure => exact ⟨.intro _ depth h, rfl⟩
  | ok answer =>
    cases answer with
    | none => exact ⟨.intro _ depth h, rfl⟩
    | some mask =>
      refine (forward_beside hR h _ depth _).andThen ?_
      rintro _ _ ⟨q, -, h⟩
      exact ⟨.intro q 1 h, rfl⟩

/-- The name of a field is the one event after which field maskers are asked, and then the place is
at the field. -/
theorem field_beside (hR : Sink.InStep R) (hset : a.Agrees b) (h : R s t) (p : Position) (depth : Nat)
    (name : String) :
    Outcome.Beside (Beside a b R) (field ⟨a, s, p, depth⟩ name) (field ⟨b, t, p, depth⟩ name) := by
  simp only [field]
  cases hq : p.enterField name with
  | error fault => exact ⟨.intro p depth h, rfl⟩
  | ok q =>
    dsimp only
    split
    · exact ⟨.intro q depth h, rfl⟩
    · cases Position.moves_of_enterField hq with
      | field =>
        obtain ⟨hsinks, hresult⟩ := hR s t h (.field name)
        simp only [forward, ← hresult]
        cases (Sink.write s (.field name)).2 with
        | error failure => exact ⟨.intro _ 0 hsinks, rfl⟩
        | ok _ => exact maskField_beside hR hset hsinks _ name 0

theorem scalar_beside (hR : Sink.InStep R) (hset : a.Agrees b) (h : R s t) (p : Position) (depth : Nat)
    (value : Scalar) :
    Outcome.Beside (Beside a b R) (scalar ⟨a, s, p, depth⟩ value) (scalar ⟨b, t, p, depth⟩ value) := by
  simp only [scalar, hset.scalar]
  cases p.checkValue none with
  | error fault => exact ⟨.intro p depth h, rfl⟩
  | ok _ =>
    dsimp only
    split
    · exact ⟨.intro p.complete depth h, rfl⟩
    · cases b.maskScalar p value with
      | error failure => exact ⟨.intro p depth h, rfl⟩
      | ok masked =>
        refine (forward_beside hR h p depth _).andThen ?_
        rintro _ _ ⟨q, depth, h⟩
        exact ⟨.intro q.complete depth h, rfl⟩

/-- **Streams over sinks in step are in step**, if their maskers agree. -/
theorem inStep (hR : Sink.InStep R) (hset : a.Agrees b) : Sink.InStep (Beside a b R) := by
  rintro _ _ ⟨p, depth, h⟩ event
  cases event with
  | beginObject hint => exact enter_beside hR h p depth .object hint
  | beginArray hint => exact enter_beside hR h p depth .array hint
  | endObject => exact leave_beside hR h p depth .object
  | endArray => exact leave_beside hR h p depth .array
  | field name => exact field_beside hR hset h p depth name
  | scalar value => exact scalar_beside hR hset h p depth value
  | flush => exact forward_beside hR h p depth .flush

end Masking

/-! ## Sets in the place of each other -/

/-- Whether nothing can be told of two sets by streaming: after any events, whatever failed of them,
streams with one and the other have done the same to their sinks, are at the same place, hold back
the same, and take any next event with the same result. -/
def MaskerSet.Interchangeable (a b : MaskerSet) : Prop :=
  ∀ (σ : Type) [Sink σ] (sink : σ) (events : List Event),
    let s := Sink.feed (Masking.start a sink) events
    let t := Sink.feed (Masking.start b sink) events
    s.sink = t.sink ∧ s.position = t.position ∧ s.depth = t.depth ∧
      ∀ event, (s.step event).2 = (t.step event).2

theorem MaskerSet.Agrees.interchangeable {a b : MaskerSet} (h : a.Agrees b) : a.Interchangeable b := by
  intro σ _ sink events s t
  have hstep : Sink.InStep (Masking.Beside a b (@Eq σ)) := Masking.inStep .refl h
  have hbeside : Masking.Beside a b Eq s t := hstep.feed (Masking.start_beside rfl) events
  have hresult := fun event => (hstep s t hbeside event).2
  generalize s = s' at hbeside hresult
  generalize t = t' at hbeside hresult
  cases hbeside with
  | intro p depth hsink => exact ⟨hsink, rfl, rfl, hresult⟩

end StreamMask
