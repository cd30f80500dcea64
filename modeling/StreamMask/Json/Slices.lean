/-
Streaming of a text slice by slice.

A text is passed over as a whole first, so that nothing is written of one that is not well
formed. Then it is looked at again: a container is walked member by member, each member is
passed over as a slice of its own, and slices are written in the same way. What a string or
a name says is not known before it is written.
-/
import StreamMask.Json.Datum
import StreamMask.Json.Replay

namespace StreamMask.Json

variable {σ : Type} [Sink σ]

/-- Pass over the next value: the slice of the text that it is, and what is left after it. -/
def readSlice (text : List Char) : Read (List Char) :=
  (Node.read .text text).map fun (_, rest) =>
    let value := skipBlank text
    (value.take (value.length - rest.length), rest)

/-- The scalar of a slice that is a word or a number. -/
def readPlain (slice : List Char) : Except Stop Scalar :=
  if slice = "null".toList then .ok .null
  else if slice = "true".toList then .ok (.bool true)
  else if slice = "false".toList then .ok (.bool false)
  else (readNumeral slice).map fun (numeral, _) => .ofNumeral numeral

/-- Write an event made of text, unless the text has a fault. -/
def writeText (text : Except Fault String) (event : String → Event) (sink : σ) : Outcome σ :=
  match text with
  | .error fault => (sink, .error (.json fault))
  | .ok text => Sink.write sink (event text)

/-- Fail where a slice cannot be read. -/
def stopped (slice : List Char) (sink : σ) (stop : Stop) : Outcome σ :=
  (sink, .error (.json (stop.fault .text slice)))

mutual

/-- Write the value that a slice is. -/
def replaySlice : (fuel : Nat) → (slice : List Char) → σ → Outcome σ
  | 0, slice, sink => stopped slice sink (.atEnd .endInValue)
  | fuel + 1, slice, sink =>
    match slice with
    | '[' :: text =>
      Outcome.andThen (Sink.write sink (.beginArray none)) fun sink =>
        replayItems fuel slice true text sink
    | '\x7b' :: text =>
      Outcome.andThen (Sink.write sink (.beginObject none)) fun sink =>
        replayFields fuel slice true text sink
    | '"' :: quoted => writeText (Node.decode slice quoted) (fun text => .scalar (.string text)) sink
    | _ =>
      match readPlain slice with
      | .error stop => stopped slice sink stop
      | .ok value => Sink.write sink (.scalar value)

/-- Write the items that are left of an array, and its end. -/
def replayItems : (fuel : Nat) → (slice : List Char) → (isFirst : Bool) → (text : List Char) → σ →
    Outcome σ
  | 0, slice, _, _, sink => stopped slice sink (.atEnd .endInList)
  | fuel + 1, slice, isFirst, text, sink =>
    match Datum.nextItem isFirst text with
    | .error stop => stopped slice sink stop
    | .ok none => Sink.write sink .endArray
    | .ok (some text) =>
      match readSlice text with
      | .error stop => stopped slice sink stop
      | .ok (item, rest) =>
        Outcome.andThen (replaySlice fuel item sink) fun sink => replayItems fuel slice false rest sink

/-- Write the fields that are left of an object, and its end. -/
def replayFields : (fuel : Nat) → (slice : List Char) → (isFirst : Bool) → (text : List Char) → σ →
    Outcome σ
  | 0, slice, _, _, sink => stopped slice sink (.atEnd .endInObject)
  | fuel + 1, slice, isFirst, text, sink =>
    match Datum.nextField isFirst text with
    | .error stop => stopped slice sink stop
    | .ok none => Sink.write sink .endObject
    | .ok (some quoted) =>
      match readString 0 quoted with
      | .error stop => stopped slice sink stop
      | .ok (name, rest) =>
        Outcome.andThen (Sink.write sink (.field (String.ofList name))) fun sink =>
          match Datum.readColon rest with
          | .error stop => stopped slice sink stop
          | .ok rest =>
            match readSlice rest with
            | .error stop => stopped slice sink stop
            | .ok (value, rest) =>
              Outcome.andThen (replaySlice fuel value sink) fun sink =>
                replayFields fuel slice false rest sink

end

/-- Write the events of a text slice by slice; none at all if it is not well formed. -/
def replaySlices (text : String) (sink : σ) : Outcome σ :=
  match readSlice text.toList with
  | .error stop => stopped text.toList sink stop
  | .ok (slice, rest) =>
    match readEnd rest with
    | .error stop => stopped text.toList sink stop
    | .ok () => replaySlice (2 * slice.length) slice sink

end StreamMask.Json
