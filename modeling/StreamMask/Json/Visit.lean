/-
Walks that write what they come to at once: through data, and through texts by a reader
that knows no failures but its own.

A text is looked at slice by slice (`Json.Slices`). The reader that goes through a container
can break off, but only with a fault of the text. So a failure of the sink is put aside, and the
reader is told to break off; where the reader began with the container, what has been put aside
takes the place of what the reader reports. A member may be a container with a reader of its own, so
a failure is put aside again and again on its way out.
-/
import StreamMask.Json.Slices

namespace StreamMask.Json

variable {σ : Type} [Sink σ]

/-! ## Data -/

namespace Datum

mutual

/-- Write the events of a datum, up to the first that fails. -/
def emit : Datum → σ → Outcome σ
  | null, sink => Sink.write sink (.scalar .null)
  | bool value, sink => Sink.write sink (.scalar (.bool value))
  | number value, sink => Sink.write sink (.scalar value.toScalar)
  | string text, sink => Sink.write sink (.scalar (.string text))
  | array items, sink =>
    Outcome.andThen (Sink.write sink (.beginArray (some items.length))) fun sink =>
      Outcome.andThen (emitItems items sink) fun sink => Sink.write sink .endArray
  | object fields, sink =>
    Outcome.andThen (Sink.write sink (.beginObject (some fields.length))) fun sink =>
      Outcome.andThen (emitFields fields sink) fun sink => Sink.write sink .endObject

/-- Write the events of items. -/
def emitItems : List Datum → σ → Outcome σ
  | [], sink => (sink, .ok ())
  | item :: rest, sink => Outcome.andThen (item.emit sink) fun sink => emitItems rest sink

/-- Write the events of fields. -/
def emitFields : List (String × Datum) → σ → Outcome σ
  | [], sink => (sink, .ok ())
  | (name, value) :: rest, sink =>
    Outcome.andThen (Sink.write sink (.field name)) fun sink =>
      Outcome.andThen (value.emit sink) fun sink => emitFields rest sink

end

end Datum

/-! ## Texts -/

/-- A walk through a container: the sink, and a failure of it that has been put aside. -/
structure Visit (σ : Type) where
  sink : σ
  aside : Option Failure := none

/-- The walk after a step, and whether the reader goes on. -/
abbrev Visited (σ : Type) := Visit σ × Except Fault Unit

namespace Visit

omit [Sink σ]

/-- Go on with the walk, unless the reader has broken off. -/
def andThen (visited : Visited σ) (next : Visit σ → Visited σ) : Visited σ :=
  match visited with
  | (visit, .ok ()) => next visit
  | (visit, .error fault) => (visit, .error fault)

/-- Put a failure aside and break off, with no more than its text. -/
def check (visit : Visit σ) (outcome : Outcome σ) : Visited σ :=
  match outcome with
  | (sink, .ok ()) => ({ visit with sink := sink }, .ok ())
  | (sink, .error failure) =>
    (⟨sink, some failure⟩, .error (.text (.brokenOff failure.message) none))

/-- Break off where a slice cannot be read. -/
def stopped (visit : Visit σ) (slice : List Char) (stop : Stop) : Visited σ :=
  (visit, .error (stop.fault .text slice))

/-- What comes of a container once the reader is through with it. -/
def finish : Visited σ → Outcome σ
  | (⟨sink, some failure⟩, _) => (sink, .error failure)
  | (⟨sink, none⟩, .ok ()) => (sink, .ok ())
  | (⟨sink, none⟩, .error fault) => (sink, .error (.json fault))

end Visit

mutual

/-- Write the value that a slice is; a container is given to a reader of its own. -/
def visitSlice : (fuel : Nat) → (slice : List Char) → σ → Outcome σ
  | 0, slice, sink => stopped slice sink (.atEnd .endInValue)
  | fuel + 1, slice, sink =>
    match slice with
    | '[' :: text =>
      Visit.finish <| Visit.andThen (Visit.check ⟨sink, none⟩ (Sink.write sink (.beginArray none)))
        fun visit => visitItems fuel slice true text visit
    | '\x7b' :: text =>
      Visit.finish <| Visit.andThen (Visit.check ⟨sink, none⟩ (Sink.write sink (.beginObject none)))
        fun visit => visitFields fuel slice true text visit
    | '"' :: quoted => writeText (Node.decode slice quoted) (fun text => .scalar (.string text)) sink
    | _ =>
      match readPlain slice with
      | .error stop => stopped slice sink stop
      | .ok value => Sink.write sink (.scalar value)

/-- Visit the items that are left of an array, and its end. -/
def visitItems : (fuel : Nat) → (slice : List Char) → (isFirst : Bool) → (text : List Char) →
    Visit σ → Visited σ
  | 0, slice, _, _, visit => visit.stopped slice (.atEnd .endInList)
  | fuel + 1, slice, isFirst, text, visit =>
    match Datum.nextItem isFirst text with
    | .error stop => visit.stopped slice stop
    | .ok none => visit.check (Sink.write visit.sink .endArray)
    | .ok (some text) =>
      match readSlice text with
      | .error stop => visit.stopped slice stop
      | .ok (item, rest) =>
        Visit.andThen (visit.check (visitSlice fuel item visit.sink)) fun visit =>
          visitItems fuel slice false rest visit

/-- Visit the fields that are left of an object, and its end. -/
def visitFields : (fuel : Nat) → (slice : List Char) → (isFirst : Bool) → (text : List Char) →
    Visit σ → Visited σ
  | 0, slice, _, _, visit => visit.stopped slice (.atEnd .endInObject)
  | fuel + 1, slice, isFirst, text, visit =>
    match Datum.nextField isFirst text with
    | .error stop => visit.stopped slice stop
    | .ok none => visit.check (Sink.write visit.sink .endObject)
    | .ok (some quoted) =>
      match readString 0 quoted with
      | .error stop => visit.stopped slice stop
      | .ok (name, rest) =>
        Visit.andThen (visit.check (Sink.write visit.sink (.field (String.ofList name)))) fun visit =>
          match Datum.readColon rest with
          | .error stop => visit.stopped slice stop
          | .ok rest =>
            match readSlice rest with
            | .error stop => visit.stopped slice stop
            | .ok (value, rest) =>
              Visit.andThen (visit.check (visitSlice fuel value visit.sink)) fun visit =>
                visitFields fuel slice false rest visit

end

/-- Write the events of a text slice by slice, through readers that know no failures but their own. -/
def visitText (text : String) (sink : σ) : Outcome σ :=
  match readSlice text.toList with
  | .error stop => stopped text.toList sink stop
  | .ok (slice, rest) =>
    match readEnd rest with
    | .error stop => stopped text.toList sink stop
    | .ok () => visitSlice (2 * slice.length) slice sink

end StreamMask.Json
