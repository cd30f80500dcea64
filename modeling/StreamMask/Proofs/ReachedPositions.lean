/-
The positions that a document can come to.

Items are counted in words of 64 bits, so a position is reached by events that may
come, one after the other, as long as a word holds the index of every item
(`Position.Reached`). Events that may not come, and all that sinks and maskers do, make
no difference: a masking stream that has been given fewer events than a word can count
stands at a reached position (`Masking.feed_reached`).
-/
import StreamMask.Proofs.DepthFacts

namespace StreamMask

namespace Position

/-- Whether a word of 64 bits holds the index of each item. -/
def Counted (p : Position) : Prop := ∀ index, .array index ∈ p.frames → index < twoTo 64

/-- The positions that events lead to. -/
inductive Reached : Position → Prop where
  | root : Reached root
  | next {p q : Position} {event : Event} (before : Reached p) (advances : p.advance event = .ok q)
      (counted : q.Counted) : Reached q

theorem Reached.counted {p : Position} (h : p.Reached) : p.Counted := by
  cases h with
  | root =>
    intro index hmem
    cases hmem
  | next before advances counted => exact counted

/-- Every container around another one is at a field or an item. -/
theorem Reached.nested {p : Position} (h : p.Reached) : p.Nested := by
  induction h with
  | root =>
    intro frame hmem
    cases hmem
  | next before advances counted ih => exact (advance_eq_ok.1 advances).nested ih

/-- The place of a field is reached if the place between the fields is. -/
theorem Reached.inField {p : Position} (h : p.inObject.Reached) (name : String) :
    (p.inField name).Reached := by
  have hadvances : p.inObject.advance (.field name) = .ok (p.inField name) := advance_eq_ok.2 .field
  refine .next h hadvances fun index hmem => h.counted index ?_
  rcases List.mem_cons.mp hmem with hframe | houter
  · cases hframe
  · exact List.mem_cons_of_mem _ houter

/-! ## Counting -/

/-- Whether no item has an index beyond `n`. -/
def IndexesUpTo (n : Nat) (p : Position) : Prop := ∀ index, .array index ∈ p.frames → index ≤ n

theorem IndexesUpTo.cons {n : Nat} {frame : Frame} {frames : List Frame}
    (hframe : ∀ index, frame = .array index → index ≤ n) (h : IndexesUpTo n ⟨frames⟩) :
    IndexesUpTo n ⟨frame :: frames⟩ := by
  intro index hmem
  rcases List.mem_cons.mp hmem with heq | hmem
  · exact hframe index heq.symm
  · exact h index hmem

theorem IndexesUpTo.tail {n : Nat} {frame : Frame} {frames : List Frame}
    (h : IndexesUpTo n ⟨frame :: frames⟩) : IndexesUpTo n ⟨frames⟩ :=
  fun index hmem => h index (List.mem_cons_of_mem _ hmem)

theorem IndexesUpTo.succ {n : Nat} {p : Position} (h : p.IndexesUpTo n) : p.IndexesUpTo (n + 1) :=
  fun index hmem => Nat.le_succ_of_le (h index hmem)

theorem IndexesUpTo.complete {n : Nat} {p : Position} (h : p.IndexesUpTo n) :
    p.complete.IndexesUpTo (n + 1) := by
  obtain ⟨_ | ⟨frame, frames⟩⟩ := p
  · exact h.succ
  · refine .cons (fun index heq => ?_) h.tail.succ
    cases frame with
    | object pending => cases heq
    | array before =>
      cases heq
      exact Nat.succ_le_succ (h before List.mem_cons_self)

/-- An event goes on by one item at most. -/
theorem Moves.indexesUpTo {p q : Position} {event : Event} {n : Nat} (hm : p.Moves event q)
    (h : p.IndexesUpTo n) : q.IndexesUpTo (n + 1) := by
  cases hm with
  | beginArray hp => exact .cons (fun index heq => by cases heq; exact Nat.zero_le _) h.succ
  | beginObject hp => exact .cons (fun index heq => nomatch heq) h.succ
  | endArray => exact IndexesUpTo.complete h.tail
  | endObject => exact IndexesUpTo.complete h.tail
  | field => exact .cons (fun index heq => nomatch heq) h.tail.succ
  | scalar hp => exact h.complete
  | flush => exact h.succ

end Position

namespace Masking

variable {σ : Type} [Sink σ]

theorem feed_reached_from {stream : Masking σ} {n : Nat} (h : stream.position.Reached)
    (hindexes : stream.position.IndexesUpTo n) {events : List Event}
    (hcount : n + events.length < twoTo 64) : (Sink.feed stream events).position.Reached := by
  induction events generalizing stream n with
  | nil => exact h
  | cons event events ih =>
    have hnext : n + 1 + events.length < twoTo 64 := by
      rwa [List.length_cons, ← Nat.add_assoc, Nat.add_right_comm] at hcount
    rw [Sink.feed_cons]
    rcases (step_shifts stream event).place with ⟨hsame, -⟩ | ⟨hm, -⟩
    · rw [← hsame] at h hindexes
      exact ih h hindexes.succ hnext
    · have hindexes' := hm.indexesUpTo hindexes
      have hcounted : (stream.step event).1.position.Counted := fun index hmem => by
        have hle := hindexes' index hmem
        omega
      exact ih (.next h (Position.advance_eq_ok.2 hm) hcounted) hindexes' hnext

/-- **Events lead a stream to reached positions**, whatever is masked, wherever it is written and
whatever fails, if a word can count the events. -/
theorem feed_reached (set : MaskerSet) (sink : σ) {events : List Event}
    (hcount : events.length < twoTo 64) :
    (Sink.feed (start set sink) events).position.Reached := by
  have hroot : (start set sink).position.Reached := .root
  have hnone : (start set sink).position.IndexesUpTo 0 := fun index hmem => nomatch hmem
  exact feed_reached_from hroot hnone (by rwa [Nat.zero_add])

end Masking
end StreamMask
