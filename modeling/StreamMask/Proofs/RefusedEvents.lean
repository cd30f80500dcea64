/-
Walks into a sink that refuses an event.

A walk through a container puts a failure of its sink aside, and what the reader then reports
is a fault of the text with no more than the words of that failure (`Json.Visit`). `Visit.Reports`
tells what such a walk amounts to. At each level of nesting the failure comes back as it
was, so a text is walked as if its readers passed every failure on (`visitText_eq`). To count
the calls, a sink is overheard (`Overheard`).
-/
import StreamMask.Json.Visit
import StreamMask.Proofs.ScriptFacts
import StreamMask.Proofs.SlicedTexts

namespace StreamMask

namespace Json

variable {σ : Type} [Sink σ]

/-! ## Data -/

namespace Datum

mutual

/-- **A datum is written as its events.** -/
theorem emit_eq (datum : Datum) (sink : σ) : datum.emit sink = Sink.writeAll sink datum.events := by
  match datum with
  | null | bool value | number value | string text =>
    rw [emit, events, tree, Tree.events, Sink.writeAll_single]
  | array items =>
    rw [emit, events, tree, Tree.events, List.cons_append, Sink.writeAll_cons]
    simp only [Sink.writeAll_append, Sink.writeAll_single, emitItems_eq items]
  | object fields =>
    rw [emit, events, tree, Tree.events, List.cons_append, Sink.writeAll_cons]
    simp only [Sink.writeAll_append, Sink.writeAll_single, emitFields_eq fields]

theorem emitItems_eq (items : List Datum) (sink : σ) :
    emitItems items sink = Sink.writeAll sink (Tree.itemEvents (itemTrees items)) := by
  match items with
  | [] => rfl
  | item :: items =>
    rw [emitItems, itemTrees, Tree.itemEvents, Sink.writeAll_append, item.emit_eq sink, events]
    simp only [emitItems_eq items]

theorem emitFields_eq (fields : List (String × Datum)) (sink : σ) :
    emitFields fields sink = Sink.writeAll sink (Tree.fieldEvents (fieldTrees fields)) := by
  match fields with
  | [] => rfl
  | (name, value) :: fields =>
    rw [emitFields, fieldTrees, Tree.fieldEvents, List.cons_append, Sink.writeAll_cons]
    simp only [Sink.writeAll_append, value.emit_eq, events, emitFields_eq fields]

end

end Datum

/-! ## Failures put aside -/

namespace Visit

omit [Sink σ]

/-- What a walk amounts to: it fails with what has been put aside, whatever the reader reports, and
with the fault that the reader reports if nothing has. -/
inductive Reports : Visited σ → Outcome σ → Prop where
  | taken {sink : σ} : Reports (⟨sink, none⟩, .ok ()) (sink, .ok ())
  | refused {sink : σ} {failure : Failure} {fault : Fault} :
    Reports (⟨sink, some failure⟩, .error fault) (sink, .error failure)
  | stopped {sink : σ} {fault : Fault} :
    Reports (⟨sink, none⟩, .error fault) (sink, .error (.json fault))

namespace Reports

variable {visited : Visited σ} {outcome : Outcome σ}

theorem finish (h : Reports visited outcome) : Visit.finish visited = outcome := by
  cases h <;> rfl

theorem check (sink : σ) (outcome : Outcome σ) : Reports (Visit.check ⟨sink, none⟩ outcome) outcome := by
  obtain ⟨next, failure | _⟩ := outcome
  · exact .refused
  · exact .taken

/-- A walk goes on only while nothing has been put aside. -/
theorem andThen {next : Visit σ → Visited σ} {next' : σ → Outcome σ} (h : Reports visited outcome)
    (hnext : ∀ sink, Reports (next ⟨sink, none⟩) (next' sink)) :
    Reports (Visit.andThen visited next) (Outcome.andThen outcome next') := by
  cases h with
  | @taken sink => exact hnext sink
  | refused => exact .refused
  | stopped => exact .stopped

end Reports
end Visit

open Visit (Reports)

mutual

/-- **A slice is walked as if its readers passed failures of the sink on.** -/
theorem visitSlice_eq (fuel : Nat) (slice : List Char) (sink : σ) :
    visitSlice fuel slice sink = replaySlice fuel slice sink := by
  match fuel with
  | 0 => rfl
  | fuel + 1 =>
    unfold visitSlice
    split
    · next text =>
      have hbegun := Reports.check sink (Sink.write sink (.beginArray none))
      rw [replaySlice]
      exact (hbegun.andThen (visitItems_reports fuel _ true text)).finish
    · next text =>
      have hbegun := Reports.check sink (Sink.write sink (.beginObject none))
      rw [replaySlice]
      exact (hbegun.andThen (visitFields_reports fuel _ true text)).finish
    · rw [replaySlice]
    · next hlist hobject hquote =>
      refine Eq.trans ?_ (replaySlice.eq_5 slice sink fuel hlist hobject hquote).symm
      cases readPlain slice <;> rfl

theorem visitItems_reports (fuel : Nat) (slice : List Char) (isFirst : Bool) (text : List Char)
    (sink : σ) :
    Reports (visitItems fuel slice isFirst text ⟨sink, none⟩)
      (replayItems fuel slice isFirst text sink) := by
  match fuel with
  | 0 => exact .stopped
  | fuel + 1 =>
    rw [visitItems, replayItems]
    cases Datum.nextItem isFirst text with
    | error stop => exact .stopped
    | ok next =>
      cases next with
      | none => exact .check sink _
      | some text =>
        dsimp only
        cases readSlice text with
        | error stop => exact .stopped
        | ok read =>
          obtain ⟨item, rest⟩ := read
          have hitem := Reports.check sink (visitSlice fuel item sink)
          rw [visitSlice_eq fuel item sink] at hitem
          dsimp only
          rw [visitSlice_eq fuel item sink]
          exact hitem.andThen (visitItems_reports fuel slice false rest)

theorem visitFields_reports (fuel : Nat) (slice : List Char) (isFirst : Bool) (text : List Char)
    (sink : σ) :
    Reports (visitFields fuel slice isFirst text ⟨sink, none⟩)
      (replayFields fuel slice isFirst text sink) := by
  match fuel with
  | 0 => exact .stopped
  | fuel + 1 =>
    rw [visitFields, replayFields]
    cases Datum.nextField isFirst text with
    | error stop => exact .stopped
    | ok next =>
      cases next with
      | none => exact .check sink _
      | some quoted =>
        dsimp only
        cases readString 0 quoted with
        | error stop => exact .stopped
        | ok read =>
          have hname := Reports.check sink (Sink.write sink (.field (String.ofList read.1)))
          refine hname.andThen fun sink => ?_
          cases Datum.readColon read.2 with
          | error stop => exact .stopped
          | ok rest =>
            dsimp only
            cases readSlice rest with
            | error stop => exact .stopped
            | ok read =>
              obtain ⟨value, rest⟩ := read
              have hvalue := Reports.check sink (visitSlice fuel value sink)
              rw [visitSlice_eq fuel value sink] at hvalue
              dsimp only
              rw [visitSlice_eq fuel value sink]
              exact hvalue.andThen (visitFields_reports fuel slice false rest)

end

/-- **A text is walked as it was read as a whole**, whatever the sink refuses. -/
theorem visitText_eq (text : String) (sink : σ) : visitText text sink = replayText text sink := by
  rw [← replaySlices_eq, visitText, replaySlices]
  cases readSlice text.toList with
  | error stop => rfl
  | ok read =>
    dsimp only
    cases readEnd read.2 with
    | error stop => rfl
    | ok => exact visitSlice_eq _ read.1 sink

end Json

/-! ## The first refusal -/

variable {σ : Type} [Sink σ]

/-- Whether a sink takes some events and fails at the one after them, which leaves it as `next`. -/
def Sink.Refuses (sink : σ) (before : List Event) (event : Event) (next : σ) (failure : Failure) : Prop :=
  ∃ middle, writeAll sink before = (middle, .ok ()) ∧ write middle event = (next, .error failure)

namespace Sink.Refuses

variable {sink next : σ} {before : List Event} {event : Event} {failure : Failure}

theorem of_results (sink : σ) (before : List Event) (event : Event) (failure : Failure)
    (hbefore : (writeAll sink before).2 = .ok ())
    (hevent : (write (writeAll sink before).1 event).2 = .error failure) :
    Refuses sink before event (write (writeAll sink before).1 event).1 failure :=
  ⟨(writeAll sink before).1, Prod.ext rfl hbefore, Prod.ext rfl hevent⟩

/-- Writing ends at the first refusal. -/
theorem writeAll_eq (h : Refuses sink before event next failure) (after : List Event) :
    writeAll sink (before ++ event :: after) = (next, .error failure) := by
  obtain ⟨middle, hbefore, hevent⟩ := h
  rw [writeAll_append, hbefore, Outcome.andThen_ok, writeAll_cons, hevent, Outcome.andThen_error]

theorem recites_eq (h : Refuses sink before event next failure) {after : List (Option Event)}
    {outcome : Outcome σ}
    (hrecites : Json.Recites (before.map some ++ some event :: after) sink outcome) :
    outcome = (next, .error failure) := by
  obtain ⟨middle, hbefore, hevent⟩ := h
  induction before generalizing sink with
  | nil =>
    cases hbefore
    cases hrecites with
    | refused hwrite => exact hwrite.symm.trans hevent
    | taken hwrite later => simp [hwrite] at hevent
  | cons first before ih =>
    rw [writeAll_cons] at hbefore
    cases hrecites with
    | refused hwrite => simp [hwrite] at hbefore
    | taken hwrite later =>
      rw [hwrite] at hbefore
      exact ih later hbefore

end Sink.Refuses

/-- A sink, and the events that it has been called with. -/
structure Overheard (σ : Type) where
  sink : σ
  calls : List Event := []

namespace Overheard

instance : Sink (Overheard σ) where
  write overheard event :=
    let (sink, result) := Sink.write overheard.sink event
    (⟨sink, overheard.calls ++ [event]⟩, result)

theorem write_eq {sink next : σ} {event : Event} {result : Except Failure Unit}
    (h : Sink.write sink event = (next, result)) (calls : List Event) :
    Sink.write (⟨sink, calls⟩ : Overheard σ) event = (⟨next, calls ++ [event]⟩, result) := by
  simp only [Sink.write] at h ⊢
  rw [h]

theorem writeAll_eq {sink next : σ} {events : List Event}
    (h : Sink.writeAll sink events = (next, .ok ())) (calls : List Event) :
    Sink.writeAll (⟨sink, calls⟩ : Overheard σ) events = (⟨next, calls ++ events⟩, .ok ()) := by
  induction events generalizing sink calls with
  | nil =>
    cases h
    simp
  | cons event events ih =>
    rw [Sink.writeAll_cons] at h ⊢
    cases hwrite : Sink.write sink event with
    | mk middle result =>
      rw [hwrite] at h
      cases result with
      | error failure => simp at h
      | ok =>
        rw [write_eq hwrite, Outcome.andThen_ok, ih h, List.append_assoc, List.singleton_append]

/-- A sink that is overheard refuses what it refuses alone, and the refused event is the last call. -/
theorem refuses {sink next : σ} {before : List Event} {event : Event} {failure : Failure}
    (h : Sink.Refuses sink before event next failure) :
    Sink.Refuses (⟨sink, []⟩ : Overheard σ) before event ⟨next, before ++ [event]⟩ failure := by
  obtain ⟨middle, hbefore, hevent⟩ := h
  exact ⟨⟨middle, before⟩, writeAll_eq hbefore [], write_eq hevent before⟩

end Overheard

open Json

/-- **The first failure of a sink ends a replay and comes out as it was.** Let a sink take the first
events of a document and fail at the next. Whatever the failure is and however deep in the document
it happens, the sink has then been called with these events, in order, and with no other; and the
replay fails with the failure itself, not with a fault of the text that has its words. The same
holds of a datum. -/
theorem refusal_ends_replay {sink next : σ} {before : List Event} {event : Event} {failure : Failure}
    (hrefuses : Sink.Refuses sink before event next failure) :
    (∀ (text : String) (value : Value) (after : List (Option Event)),
      SpellsElement value text.toList → value.spoken = before.map some ++ some event :: after →
      visitText text (⟨sink, []⟩ : Overheard σ) = (⟨next, before ++ [event]⟩, .error failure) ∧
        replayText text (⟨sink, []⟩ : Overheard σ) = (⟨next, before ++ [event]⟩, .error failure)) ∧
    ∀ (datum : Datum) (after : List Event), datum.events = before ++ event :: after →
      datum.emit (⟨sink, []⟩ : Overheard σ) = (⟨next, before ++ [event]⟩, .error failure) := by
  have hoverheard := Overheard.refuses hrefuses
  refine ⟨fun text value after hspells hspoken => ?_, fun datum after hevents => ?_⟩
  · have hrecites := replayText_recites hspells (⟨sink, []⟩ : Overheard σ)
    rw [hspoken] at hrecites
    have hreplayed := hoverheard.recites_eq hrecites
    rw [visitText_eq]
    exact ⟨hreplayed, hreplayed⟩
  · rw [datum.emit_eq, hevents]
    exact hoverheard.writeAll_eq after

/-- A masker that fails inside two containers, and a channel that is closed in the middle of a string. -/
theorem refusal_ends_replay_nested :
    (let set : MaskerSet := { fieldMaskers := [.custom fun _ => .error (.masker "backend down")] }
     let calls := [.beginArray none, .beginObject none, .field "a"]
     let after : Masking Recorder := ⟨set, .record .empty calls, ⟨[.object (some "a"), .array 0]⟩, 0⟩
     visitText "[\x7b\"a\":[null]\x7d]" (⟨.start set .empty, []⟩ : Overheard (Masking Recorder)) =
      (⟨after, calls⟩, .error (.masker "backend down"))) ∧
    let channel : Channel := { limit := some 3 }
    let calls := [.beginArray (some 2), .beginArray (some 1), .scalar (.string "ab")]
    ∃ after, after.output.bytes.data.toList = [0x5b, 0x5b, 0x22] ∧
      (Datum.array [.array [.string "ab"], .null]).emit
          (⟨.fresh channel, []⟩ : Overheard (Writer Channel)) =
        (⟨after, calls⟩, .error (.json (.io .closed))) := by
  refine ⟨?_, ?_⟩
  · intro set calls after
    have hrefuses : Sink.Refuses (Masking.start set Recorder.empty) [.beginArray none, .beginObject none]
        (.field "a") after (.masker "backend down") := ⟨_, rfl, rfl⟩
    have hnull : SpellsElement (.array [.null]) "[null]".toList :=
      (Spells.array (.last Spells.null.element)).element
    have hobject : Spells (.object [(some "a", .array [.null])]) "\x7b\"a\":[null]\x7d".toList :=
      .object (.last (@SpellsField.named [.plain 'a'] _ [] [] _ nofun (by simp [Part.Valid]) nofun hnull))
    have hspells : SpellsElement (.array [.object [(some "a", .array [.null])]])
        "[\x7b\"a\":[null]\x7d]".toList := (Spells.array (.last hobject.element)).element
    exact ((refusal_ends_replay hrefuses).1 _ _ _ hspells rfl).1
  · intro channel calls
    have hrefuses := Sink.Refuses.of_results (Writer.fresh channel)
      [.beginArray (some 2), .beginArray (some 1)] (.scalar (.string "ab"))
      (.json (.io .closed)) (by decide +kernel) (by decide +kernel)
    have hemit := (refusal_ends_replay hrefuses).2 (.array [.array [.string "ab"], .null])
      [.endArray, .scalar .null, .endArray] rfl
    exact ⟨_, by decide +kernel, hemit⟩

end StreamMask
