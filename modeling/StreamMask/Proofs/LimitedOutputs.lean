/-
Streams that are written to a channel that takes only so many bytes.

Whatever is done with a writer adds some text to its output. With room for the text, what comes of
it does not depend on the limit. Otherwise the text is cut off at the limit, and there is a
failure; a flag may then be set or not, and a stream be anywhere (`Channel.Appends`). But a
channel that is full stays as it is, so what has been written at the end is the beginning of what
would have been written without a limit (`Masking.feed_truncates`).
-/
import StreamMask.Proofs.DepthFacts
import StreamMask.Proofs.MaskedLines

namespace StreamMask

open Channel (holding Allows put_fits put_closes allows_none allows_some)
open Text (encode)

/-- The failures that a closed output leads to, in the writer or in what it encodes with. -/
inductive Failure.OfClosed : Failure → Prop where
  | io : OfClosed (.io .closed)
  | json : OfClosed (.json (.io .closed))

/-! ## What is added to a channel -/

namespace Channel

variable {σ τ : Type} {refuses : Bool} {output : σ → Channel}

/-- Whether something that is done with an output adds these bytes to it. If there is room for them, it
leads to the same state and result whatever the limit is. If not, as many are added as there is
room for, and it fails. -/
structure Appends (refuses : Bool) (output : σ → Channel) (run : Channel → Outcome σ) (added : List UInt8)
    (after : Channel → σ) (result : Except Failure Unit) : Prop where
  fits {bytes : List UInt8} {limit : Option Nat} (room : Allows limit (bytes ++ added).length) :
    run (holding bytes limit refuses) = (after (holding (bytes ++ added) limit refuses), result)
  closes {bytes : List UInt8} {n : Nat} (room : bytes.length ≤ n) (beyond : n < (bytes ++ added).length) :
    ∃ state failure, run (holding bytes (some n) refuses) = (state, .error failure) ∧
      failure.OfClosed ∧ output state = holding ((bytes ++ added).take n) (some n) refuses

namespace Appends

variable {run : Channel → Outcome σ} {added more : List UInt8} {after later : Channel → σ}
  {result : Except Failure Unit}

theorem of_nothing (h : ∀ bytes limit, run (holding bytes limit refuses) =
      (after (holding bytes limit refuses), result)) : Appends refuses output run [] after result where
  fits room := by rw [List.append_nil, h]
  closes room beyond := by
    rw [List.append_nil] at beyond
    omega

theorem done (output : σ → Channel) (after : Channel → σ) (result : Except Failure Unit) :
    Appends refuses output (fun channel => (after channel, result)) [] after result :=
  of_nothing fun _ _ => rfl

/-- One thing after another: what both add is added. -/
theorem andThen {next : σ → Outcome σ} (h : Appends refuses output run added after (.ok ()))
    (hnext : Appends refuses output (fun channel => next (after channel)) more later result) :
    Appends refuses output (fun channel => Outcome.andThen (run channel) next) (added ++ more) later
      result where
  fits {bytes limit} room := by
    rw [← List.append_assoc] at room ⊢
    have hroom : Allows limit (bytes ++ added).length := by
      intro n hn
      have hall := room n hn
      rw [List.length_append] at hall
      omega
    rw [h.fits hroom, Outcome.andThen_ok]
    exact hnext.fits room
  closes {bytes n} room beyond := by
    rw [← List.append_assoc] at beyond ⊢
    by_cases hroom : (bytes ++ added).length ≤ n
    · obtain ⟨state, failure, hrun, hclosed, houtput⟩ := hnext.closes hroom beyond
      refine ⟨state, failure, ?_, hclosed, houtput⟩
      rw [h.fits (allows_some hroom), Outcome.andThen_ok]
      exact hrun
    · obtain ⟨state, failure, hrun, hclosed, houtput⟩ := h.closes room (by omega)
      have hcut : (bytes ++ added ++ more).take n = (bytes ++ added).take n :=
        List.take_append_of_le_length (by omega)
      exact ⟨state, failure, by rw [hrun, Outcome.andThen_error], hclosed, by rw [houtput, hcut]⟩

/-- The same within a larger state. -/
theorem within (h : Appends refuses output run added after result) (outer : τ → Channel) (place : σ → τ)
    (hplace : ∀ state, outer (place state) = output state) :
    Appends refuses outer (fun channel => (place (run channel).1, (run channel).2)) added
      (fun channel => place (after channel)) result where
  fits room := by rw [h.fits room]
  closes room beyond := by
    obtain ⟨state, failure, hrun, hclosed, houtput⟩ := h.closes room beyond
    exact ⟨place state, failure, by rw [hrun], hclosed, (hplace state).trans houtput⟩

/-- Whether there is room or not, the beginning is added. -/
theorem truncates (h : Appends refuses output run added after result)
    (hafter : ∀ channel, output (after channel) = channel) {bytes : List UInt8} {n : Nat}
    (room : bytes.length ≤ n) :
    output (run (holding bytes (some n) refuses)).1 =
      holding ((bytes ++ added).take n) (some n) refuses := by
  by_cases hfits : (bytes ++ added).length ≤ n
  · rw [h.fits (allows_some hfits), hafter, List.take_of_length_le hfits]
  · obtain ⟨state, failure, hrun, -, houtput⟩ := h.closes room (by omega)
    rw [hrun, houtput]

end Appends
end Channel

open Channel (Appends)

/-! ## The writer -/

namespace Writer

variable {refuses : Bool}

/-- The same writer with another channel. -/
def onto (writer : Writer Channel) (channel : Channel) : Writer Channel :=
  { writer with output := channel }

theorem put_appends (writer : Writer Channel) {failure : IoFault → Failure}
    (hfailure : (failure .closed).OfClosed) (piece : String) :
    Appends refuses output (fun channel => (writer.onto channel).put failure piece) (encode piece.toList)
      writer.onto (.ok ()) where
  fits {bytes limit} room := by
    rw [List.length_append] at room
    have hput : Output.put (holding bytes limit refuses) piece = _ := put_fits room
    simp only [put, onto, hput]
  closes {bytes n} room beyond := by
    rw [List.length_append] at beyond
    have hput : Output.put (holding bytes (some n) refuses) piece = _ := put_closes room beyond
    exact ⟨_, failure .closed, by simp only [put, onto, hput]; rfl, hfailure, rfl⟩

/-- Whether a writer, whatever it writes to, adds something to it and succeeds. -/
def Adds (refuses : Bool) (run : Writer Channel → Outcome (Writer Channel)) : Prop :=
  ∀ writer : Writer Channel, ∃ (added : List UInt8) (next : Writer Channel),
    Appends refuses output (fun channel => run (writer.onto channel)) added next.onto (.ok ())

theorem adds_put {failure : IoFault → Failure} (hfailure : (failure .closed).OfClosed) (piece : String) :
    Adds refuses fun writer => writer.put failure piece :=
  fun writer => ⟨_, writer, writer.put_appends hfailure piece⟩

theorem Adds.andThen {run next : Writer Channel → Outcome (Writer Channel)} (h : Adds refuses run)
    (hnext : Adds refuses next) : Adds refuses fun writer => Outcome.andThen (run writer) next := by
  intro writer
  obtain ⟨added, after, hadded⟩ := h writer
  obtain ⟨more, later, hmore⟩ := hnext after
  exact ⟨added ++ more, later, hadded.andThen hmore⟩

theorem adds_flags (change : Writer Channel → Writer Channel)
    (hchange : ∀ writer channel, change (onto writer channel) = (change writer).onto channel) :
    Adds refuses fun writer => (change writer, .ok ()) := by
  intro writer
  refine ⟨[], change writer, ?_⟩
  simp only [hchange]
  exact .done output _ _

theorem adds_separate (isStarted : Bool) (outer : List Bool) :
    Adds refuses fun writer => writer.separate isStarted outer := by
  have hmark : Adds refuses fun writer => ({ writer with started := true :: outer }, .ok ()) :=
    adds_flags _ fun _ _ => rfl
  cases isStarted with
  | true => exact (adds_put .io ",").andThen hmark
  | false => exact hmark

theorem adds_beforeValue : Adds refuses beforeValue := by
  intro writer
  obtain ⟨channel, started, afterName, begun⟩ := writer
  cases afterName with
  | true => exact ⟨[], ⟨channel, started, false, begun⟩, .done output _ _⟩
  | false =>
    cases started with
    | cons isStarted outer =>
      exact adds_separate isStarted outer ⟨channel, isStarted :: outer, false, begun⟩
    | nil =>
      have hbegin : Adds refuses fun writer => ({ writer with begun := true }, .ok ()) :=
        adds_flags _ fun _ _ => rfl
      cases begun with
      | true => exact (adds_put .io "\n").andThen hbegin ⟨channel, [], false, true⟩
      | false => exact hbegin ⟨channel, [], false, false⟩

theorem adds_beginContainer (bracket : String) : Adds refuses fun writer => writer.beginContainer bracket :=
  adds_beforeValue.andThen ((adds_put .io bracket).andThen (adds_flags _ fun _ _ => rfl))

theorem adds_endContainer (bracket : String) : Adds refuses fun writer => writer.endContainer bracket :=
  fun writer => adds_put .io bracket { writer with started := writer.started.tail }

theorem adds_field (name : String) : Adds refuses fun writer => writer.field name := by
  have hname : Adds refuses fun writer => writer.put (.json ∘ .io) (Json.quote name) := adds_put .json _
  have hcolon : Adds refuses fun writer => writer.put .io ":" := adds_put .io _
  have hnamed := hname.andThen (hcolon.andThen (adds_flags (fun writer => { writer with afterName := true })
    fun _ _ => rfl))
  intro writer
  obtain ⟨channel, started, afterName, begun⟩ := writer
  cases started with
  | nil => exact hnamed ⟨channel, [], afterName, begun⟩
  | cons isStarted outer =>
    exact (adds_separate isStarted outer).andThen hnamed ⟨channel, isStarted :: outer, afterName, begun⟩

theorem adds_scalar (value : Scalar) : Adds refuses fun writer => writer.scalar value := by
  have hfailure : (scalarFailure value .closed).OfClosed := by
    cases value with
    | string _ | float _ | binary _ => exact .json
    | integer _ | bigInteger _ | bigDecimal _ | bool _ | null | raw _ => exact .io
  exact adds_beforeValue.andThen (adds_put hfailure value.json)

/-- **Every event adds something to the output**, if it is not a flush. -/
theorem adds_write {event : Event} (h : event ≠ .flush) :
    Adds refuses fun writer => Sink.write writer event := by
  cases event with
  | beginObject hint => exact adds_beginContainer "\x7b"
  | beginArray hint => exact adds_beginContainer "["
  | endObject => exact adds_endContainer "\x7d"
  | endArray => exact adds_endContainer "]"
  | field name => exact adds_field name
  | scalar value => exact adds_scalar value
  | flush => exact absurd rfl h

/-- What comes of a flush where flushes may be refused. -/
def flushed (refuses : Bool) : Except Failure Unit :=
  if refuses then .error (.io .flushRefused) else .ok ()

theorem flush_appends (refuses : Bool) (writer : Writer Channel) :
    Appends refuses output (fun channel => (writer.onto channel).flush) [] writer.onto
      (flushed refuses) := by
  cases refuses with
  | true => exact .of_nothing fun _ _ => rfl
  | false => exact .of_nothing fun _ _ => rfl

end Writer

/-! ## Streams -/

namespace Masking

/-- The same stream with another channel. -/
def onto (stream : Masking (Writer Channel)) (channel : Channel) : Masking (Writer Channel) :=
  { stream with sink := stream.sink.onto channel }

/-- The channel that a stream is written to. -/
def channel (stream : Masking (Writer Channel)) : Channel := stream.sink.output

variable {refuses : Bool}

/-- Whether a result of an event is a failure only for a cause that has to do with no limit: the event
may not come, or a masker that is asked fails, or the event is a flush and is refused. -/
def Unlimited (refuses : Bool) (stream : Masking (Writer Channel)) (event : Event)
    (result : Except Failure Unit) : Prop :=
  ∀ failure, result = .error failure → Cause stream.set stream.position
    (fun failure => event = .flush ∧ refuses = true ∧ failure = .io .flushRefused) event failure

/-- Whether an event, whatever a stream is written to, adds something to it, and fails only for a cause
that has to do with no limit. -/
def Adds (refuses : Bool) (event : Event) (stream : Masking (Writer Channel))
    (run : Masking (Writer Channel) → Outcome (Masking (Writer Channel))) : Prop :=
  ∃ (added : List UInt8) (next : Masking (Writer Channel)) (result : Except Failure Unit),
    Appends refuses channel (fun channel => run (stream.onto channel)) added next.onto result ∧
      Unlimited refuses stream event result

variable {stream : Masking (Writer Channel)} {event : Event}

theorem unlimited_ok : Unlimited refuses stream event (.ok ()) := fun _ h => nomatch h

theorem unlimited_refused {fault : Imbalance} (h : stream.position.advance event = .error fault) :
    Unlimited refuses stream event (.error (.unbalanced fault)) := by
  rintro failure ⟨⟩
  exact .refused h

theorem unlimited_masker {failure : Failure} (h : stream.set.FailsAt stream.position event failure) :
    Unlimited refuses stream event (.error failure) := by
  rintro reported ⟨⟩
  exact .masker h

theorem adds_forward (refuses : Bool) (h : event ≠ .flush) (stream : Masking (Writer Channel)) :
    ∃ (added : List UInt8) (next : Masking (Writer Channel)),
      Appends refuses channel (fun channel => (stream.onto channel).forward event) added next.onto
        (.ok ()) ∧
      next.set = stream.set ∧ next.position = stream.position := by
  have hadds : Writer.Adds refuses fun writer => Sink.write writer event := Writer.adds_write h
  obtain ⟨added, writer, hadded⟩ := hadds stream.sink
  have hwithin := hadded.within channel (fun sink => { stream with sink := sink }) fun _ => rfl
  exact ⟨added, { stream with sink := writer }, hwithin, rfl, rfl⟩

theorem adds_enter (kind : Container) (hint : Option Nat) (stream : Masking (Writer Channel)) :
    Adds refuses (kind.opening hint) stream fun stream => stream.enter kind hint := by
  unfold Adds enter
  simp only [onto]
  cases henter : stream.position.enter kind with
  | error fault =>
    have hrefused := (stream.position.advance_opening kind hint).trans henter
    exact ⟨[], stream, _, .done channel _ _, unlimited_refused hrefused⟩
  | ok position =>
    by_cases hdepth : 0 < stream.depth
    · simp only [hdepth, if_true]
      exact ⟨[], { stream with position, depth := stream.depth + 1 }, _, .done channel _ _, unlimited_ok⟩
    · have hopening : kind.opening hint ≠ .flush := by cases kind <;> simp [Container.opening]
      obtain ⟨added, next, hadded, -⟩ := adds_forward refuses hopening { stream with position }
      simp only [hdepth, if_false]
      exact ⟨added, next, _, hadded, unlimited_ok⟩

theorem adds_leave (kind : Container) (stream : Masking (Writer Channel)) :
    Adds refuses kind.closing stream fun stream => stream.leave kind := by
  unfold Adds leave
  simp only [onto]
  cases hleave : stream.position.leave kind with
  | error fault =>
    have hrefused := (stream.position.advance_closing kind).trans hleave
    exact ⟨[], stream, _, .done channel _ _, unlimited_refused hrefused⟩
  | ok position =>
    let left := { stream with position, depth := stream.depth - 1 }
    by_cases hdepth : 0 < stream.depth - 1
    · simp only [hdepth, if_true]
      exact ⟨[], left, _, .done channel _ _, unlimited_ok⟩
    · have hclosing : kind.closing ≠ .flush := by cases kind <;> simp [Container.closing]
      obtain ⟨added, next, hadded, -⟩ := adds_forward refuses hclosing left
      simp only [hdepth, if_false]
      exact ⟨added, next, _, hadded, unlimited_ok⟩

/-- The mask of a field is added, if there is one, and nothing else fails than the maskers. -/
theorem adds_maskField (refuses : Bool) (stream : Masking (Writer Channel)) :
    ∃ (added : List UInt8) (next : Masking (Writer Channel)) (result : Except Failure Unit),
      Appends refuses channel (fun channel => (stream.onto channel).maskField) added next.onto result ∧
      ∀ failure, result = .error failure → stream.set.fieldMask stream.position = .error failure := by
  unfold maskField
  cases hmask : stream.set.fieldMask stream.position with
  | error failure =>
    simp only [onto, hmask]
    exact ⟨[], stream, _, .done channel _ _, by simp⟩
  | ok answer =>
    cases answer with
    | none =>
      simp only [onto, hmask]
      exact ⟨[], stream, _, .done channel _ _, by simp⟩
    | some mask =>
      have hscalar : Event.scalar mask.toScalar ≠ .flush := by simp
      obtain ⟨added, next, hadded, -⟩ := adds_forward refuses hscalar stream
      let masked : Masking (Writer Channel) := { next with depth := 1 }
      simp only [onto, hmask]
      exact ⟨added ++ [], masked, _, hadded.andThen (.done channel masked.onto (.ok ())), by simp⟩

theorem adds_field (name : String) (stream : Masking (Writer Channel)) :
    Adds refuses (.field name) stream fun stream => stream.field name := by
  unfold Adds field
  simp only [onto]
  cases hfield : stream.position.enterField name with
  | error fault => exact ⟨[], stream, _, .done channel _ _, unlimited_refused hfield⟩
  | ok position =>
    by_cases hdepth : 1 < stream.depth
    · simp only [hdepth, if_true]
      exact ⟨[], { stream with position }, _, .done channel _ _, unlimited_ok⟩
    · have hname : Event.field name ≠ .flush := by simp
      obtain ⟨added, next, hadded, hset, hposition⟩ :=
        adds_forward refuses hname { stream with position, depth := 0 }
      obtain ⟨more, later, result, hmore, hmask⟩ := adds_maskField refuses next
      simp only [hdepth, if_false]
      refine ⟨added ++ more, later, result, hadded.andThen hmore, fun failure hf => ?_⟩
      have hfails := hmask failure hf
      rw [hset, hposition] at hfails
      exact .masker (.field hfield hfails)

theorem adds_scalar (value : Scalar) (stream : Masking (Writer Channel)) :
    Adds refuses (.scalar value) stream fun stream => stream.scalar value := by
  unfold Adds scalar
  simp only [onto]
  cases hvalue : stream.position.checkValue none with
  | error fault =>
    have hrefused : stream.position.advance (.scalar value) = .error fault := by
      rw [Position.advance, hvalue]
      rfl
    exact ⟨[], stream, _, .done channel _ _, unlimited_refused hrefused⟩
  | ok =>
    by_cases hdepth : 0 < stream.depth
    · simp only [hdepth, if_true]
      exact ⟨[], { stream with position := stream.position.complete }, _, .done channel _ _,
        unlimited_ok⟩
    · simp only [hdepth, if_false]
      cases hmask : stream.set.maskScalar stream.position value with
      | error failure => exact ⟨[], stream, _, .done channel _ _, unlimited_masker (.scalar hmask)⟩
      | ok masked =>
        have hscalar : Event.scalar masked ≠ .flush := by simp
        obtain ⟨added, next, hadded, -⟩ := adds_forward refuses hscalar stream
        let completed : Masking (Writer Channel) := { next with position := next.position.complete }
        exact ⟨added ++ [], completed, _, hadded.andThen (.done channel completed.onto (.ok ())),
          unlimited_ok⟩

theorem adds_flush (stream : Masking (Writer Channel)) :
    Adds refuses .flush stream fun stream => stream.forward .flush := by
  have hwithin := (stream.sink.flush_appends refuses).within channel
    (fun sink => { stream with sink := sink }) fun _ => rfl
  refine ⟨[], stream, Writer.flushed refuses, hwithin, fun failure hf => ?_⟩
  cases refuses with
  | true =>
    cases hf
    exact .sink ⟨rfl, rfl, rfl⟩
  | false => cases hf

/-- **Every event adds something to what a stream is written to.** -/
theorem adds_step (refuses : Bool) (event : Event) (stream : Masking (Writer Channel)) :
    ∃ (added : List UInt8) (next : Masking (Writer Channel)) (result : Except Failure Unit),
      Appends refuses channel (fun channel => Sink.write (stream.onto channel) event) added next.onto
        result ∧ Unlimited refuses stream event result := by
  cases event with
  | beginObject hint => exact adds_enter .object hint stream
  | beginArray hint => exact adds_enter .array hint stream
  | endObject => exact adds_leave .object stream
  | endArray => exact adds_leave .array stream
  | field name => exact adds_field name stream
  | scalar value => exact adds_scalar value stream
  | flush => exact adds_flush stream

/-! ## Runs -/

/-- A channel that is full stays as it is. -/
theorem full_stays {stream : Masking (Writer Channel)} {bytes : List UInt8} {n : Nat}
    (hchannel : stream.channel = holding bytes (some n) refuses) (hfull : bytes.length = n)
    (event : Event) :
    (Sink.write stream event).1.channel = holding bytes (some n) refuses := by
  obtain ⟨added, next, result, hadded, -⟩ := adds_step refuses event stream
  have hstream : stream.onto (holding bytes (some n) refuses) = stream := by
    rw [← hchannel]
    rfl
  have htruncated := hadded.truncates (fun _ => rfl) (Nat.le_of_eq hfull)
  have hsame : (bytes ++ added).take n = bytes := by rw [← hfull, List.take_left]
  rwa [hstream, hsame] at htruncated

theorem feed_full {stream : Masking (Writer Channel)} {bytes : List UInt8} {n : Nat}
    (hchannel : stream.channel = holding bytes (some n) refuses) (hfull : bytes.length = n)
    (events : List Event) : (Sink.feed stream events).channel = holding bytes (some n) refuses :=
  Sink.feed_invariant (fun stream => channel stream = holding bytes (some n) refuses)
    (fun _ event h => full_stays h hfull event) hchannel events

/-- **A limit only cuts off what is written.** As long as there is room, nothing else differs. -/
theorem feed_truncates (refuses : Bool) (events : List Event) (stream : Masking (Writer Channel))
    (bytes : List UInt8) :
    ∃ (added : List UInt8) (next : Masking (Writer Channel)),
      Sink.feed (stream.onto (holding bytes none refuses)) events =
        next.onto (holding (bytes ++ added) none refuses) ∧
      ∀ n, bytes.length ≤ n →
        ((bytes ++ added).length ≤ n → Sink.feed (stream.onto (holding bytes (some n) refuses)) events =
          next.onto (holding (bytes ++ added) (some n) refuses)) ∧
        (Sink.feed (stream.onto (holding bytes (some n) refuses)) events).channel =
          holding ((bytes ++ added).take n) (some n) refuses := by
  induction events generalizing stream bytes with
  | nil =>
    refine ⟨[], stream, by rw [List.append_nil]; rfl, fun n hroom => ?_⟩
    rw [List.append_nil, List.take_of_length_le hroom]
    exact ⟨fun _ => rfl, rfl⟩
  | cons event events ih =>
    obtain ⟨added, next, result, hadded, -⟩ := adds_step refuses event stream
    obtain ⟨more, last, hfree, hbound⟩ := ih next (bytes ++ added)
    simp only [Sink.feed_cons, hadded.fits (allows_none _)]
    refine ⟨added ++ more, last, by rw [hfree, List.append_assoc], fun n hroom => ?_⟩
    by_cases hfits : (bytes ++ added).length ≤ n
    · simp only [hadded.fits (allows_some hfits), ← List.append_assoc]
      exact hbound n hfits
    · -- The event goes beyond the limit: the channel is full, and what comes later does not matter.
      have hcut := hadded.truncates (fun _ => rfl) hroom
      have hfull : ((bytes ++ added).take n).length = n := by
        rw [List.length_take]
        omega
      have hsame : (bytes ++ added ++ more).take n = (bytes ++ added).take n :=
        List.take_append_of_le_length (by omega)
      rw [← List.append_assoc, feed_full hcut hfull, hsame, List.length_append]
      exact ⟨fun hall => by omega, rfl⟩

/-- **A channel that is closed after some bytes has the beginning of what it would have had.** Let
events be given to a stream one by one, whatever comes of each, and whether or not the channel refuses
to be flushed. With a limit, the channel gets the first bytes of what it gets without one, and all if
they are no more. As long as they are no more, the stream is at the same place and holds back as much;
and of the next event comes the same, unless what it writes goes beyond the limit. Then it fails
because the channel is closed. Before that, it fails only if it may not come, if a masker fails that is
asked for it, or if it is a flush and is refused. -/
theorem feed_limited (set : MaskerSet) (limit : Nat) (refuses : Bool) (events : List Event) :
    let free := Sink.feed (start set (Writer.fresh { refusesFlush := refuses })) events
    let bound := Sink.feed (start set (Writer.fresh { limit := some limit, refusesFlush := refuses })) events
    bound.channel.written = free.channel.written.take limit ∧
    (free.channel.written.length ≤ limit →
      bound.position = free.position ∧ bound.depth = free.depth ∧
      ∀ event,
        let freeNext := Sink.write free event
        let boundNext := Sink.write bound event
        (∀ failure, freeNext.2 = .error failure → Cause set free.position
          (fun failure => event = .flush ∧ refuses = true ∧ failure = .io .flushRefused) event failure) ∧
        (freeNext.1.channel.written.length ≤ limit → boundNext.2 = freeNext.2) ∧
        (limit < freeNext.1.channel.written.length →
          ∃ failure, boundNext.2 = .error failure ∧ failure.OfClosed)) := by
  intro free bound
  obtain ⟨added, next, hfree, hlimits⟩ :=
    feed_truncates refuses events (start set (Writer.fresh { refusesFlush := refuses })) []
  obtain ⟨hsame, hbound⟩ := hlimits limit (Nat.zero_le _)
  rw [List.nil_append] at hfree hsame hbound
  have hstartFree : free = next.onto (holding added none refuses) := hfree
  have hwritten : free.channel.written = added := by rw [hstartFree]; rfl
  have hcut : bound.channel = holding (added.take limit) (some limit) refuses := hbound
  have hset : free.set = set := feed_set _ events
  refine ⟨by rw [hcut, hwritten]; rfl, fun hroom => ?_⟩
  rw [hwritten] at hroom
  have hstartBound : bound = next.onto (holding added (some limit) refuses) := hsame hroom
  rw [hstartFree] at hset ⊢
  rw [hstartBound]
  refine ⟨rfl, rfl, fun event => ?_⟩
  obtain ⟨more, later, result, hadded, hcause⟩ := adds_step refuses event next
  simp only [hadded.fits (allows_none _)]
  refine ⟨fun failure hf => hset ▸ hcause failure hf, fun hfits => ?_, fun hover => ?_⟩
  · have hfits : (added ++ more).length ≤ limit := hfits
    rw [hadded.fits (allows_some hfits)]
  · obtain ⟨state, failure, hrun, hclosed, -⟩ := hadded.closes hroom hover
    exact ⟨failure, by rw [hrun], hclosed⟩

/-- A channel that is closed in the middle of a string, after an event that may not come. -/
theorem feed_limited_string :
    let set : MaskerSet := { fieldMaskers := [.names ⟨["pin"], .string "***"⟩] }
    let events := [.beginObject none, .field "pin", .scalar (.integer 1), .endArray, .field "a"]
    let stream := start set (Writer.fresh { limit := some 18 })
    let bound := Sink.feed stream events
    bound.position = ⟨[.object (some "a")]⟩ ∧ bound.depth = 0 ∧
      (∃ failure, (Sink.write bound (.scalar (.string "xyz"))).2 = .error failure ∧ failure.OfClosed) ∧
      (Sink.feed stream (events ++ [.scalar (.string "xyz"), .endObject])).channel.written =
        encode "\x7b\"pin\":\"***\",\"a\":\"".toList := by
  intro set events stream bound
  have hroom : (Sink.feed (start set (Writer.fresh {})) events).channel.written.length ≤ 18 := by
    decide +kernel
  obtain ⟨-, hsame⟩ := feed_limited set 18 false events
  obtain ⟨hposition, hdepth, hnext⟩ := hsame hroom
  obtain ⟨-, -, hcloses⟩ := hnext (.scalar (.string "xyz"))
  obtain ⟨hwritten, -⟩ := feed_limited set 18 false (events ++ [.scalar (.string "xyz"), .endObject])
  refine ⟨hposition.trans (by decide +kernel), hdepth.trans (by decide +kernel),
    hcloses (by decide +kernel), hwritten.trans (by decide +kernel)⟩

/-- A masker may fail as an output does, before anything is written beyond the limit; and a flush may be
refused then. -/
theorem output_failures_without_limit :
    let set : MaskerSet := { fieldMaskers := [.custom fun _ => .error (.json (.io .closed))] }
    let channel : Channel := { limit := some 9, refusesFlush := true }
    let inObject := Sink.feed (start set (Writer.fresh channel)) [.beginObject none]
    let inArray := Sink.feed (start .empty (Writer.fresh channel)) [.beginArray none]
    (Sink.write inObject (.field "pin")).2 = .error (.json (.io .closed)) ∧
      (Sink.write inObject (.field "pin")).1.channel.written = encode "\x7b\"pin\":".toList ∧
      (Sink.write inArray .flush).2 = .error (.io .flushRefused) ∧
      (Sink.write inArray .flush).1.channel.written = encode "[".toList := by
  decide +kernel

end Masking
end StreamMask
