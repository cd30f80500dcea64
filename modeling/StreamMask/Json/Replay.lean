/-
Streaming of JSON texts into a sink, and the masking of a text.
-/
import StreamMask.Json.Node
import StreamMask.Json.Writer
import StreamMask.Masking

namespace StreamMask

namespace Json

variable {σ : Type} [Sink σ]

/-- Write the events of a script, and fail as it ends. -/
def Script.replay (script : Script) (sink : σ) : Outcome σ :=
  Outcome.andThen (Sink.writeAll sink script.events) fun sink =>
    match script.fault with
    | none => (sink, .ok ())
    | some fault => (sink, .error (.json fault))

/-- Write the events of a node. -/
def Node.replay (node : Node) (sink : σ) : Outcome σ := (node.script .done).replay sink

/-- Write the events of a text; none at all if it is not well formed. -/
def replayText (text : String) (sink : σ) : Outcome σ :=
  match Node.ofText text.toList with
  | .error fault => (sink, .error (.json fault))
  | .ok node => node.replay sink

/-! ## Texts that come as bytes -/

/-- Bytes that come one by one, and whether an end of them follows or a failure. -/
structure Source where
  bytes : List UInt8
  fails : Bool := false
deriving DecidableEq, Repr

namespace Source

/-- A stop at the end of the bytes is a failure of the source, if it fails there. -/
def fault (source : Source) (stop : Stop) : Fault :=
  if stop.rest = [] ∧ source.fails then .io .closed
  else stop.fault .octets (Text.octets source.bytes)

/-- The value that a source consists of. Its bytes are read as text once they are known to be a
value, and before what follows them is looked at. -/
def read (source : Source) : Except Fault Node :=
  let octets := Text.octets source.bytes
  match Node.read .octets octets with
  | .error stop => .error (source.fault stop)
  | .ok (_, rest) =>
    let start := octets.length - (skipBlank octets).length
    let value := (source.bytes.drop start).take (octets.length - rest.length - start)
    match Text.decode value with
    | (text, _ :: _) =>
      .error (.text .invalidCodePoint
        (some (Medium.octets.place octets (start + Text.byteSize text + 1))))
    | (text, []) =>
      match readEnd rest with
      | .error stop => .error (source.fault stop)
      | .ok () => if source.fails then .error (.io .closed) else Node.ofText text

/-- Write the events of a source; none at all if it cannot be read to its end. -/
def replay (source : Source) (sink : σ) : Outcome σ :=
  match source.read with
  | .error fault => (sink, .error (.json fault))
  | .ok node => node.replay sink

end Source
end Json

/-! ## Masking a text -/

/-- Mask one JSON text: compact JSON without line ends. -/
def maskText (set : MaskerSet) (text : String) : Except Failure String :=
  let (stream, result) := Outcome.andThen
    (Json.replayText text (Masking.start set (Writer.fresh ""))) Masking.finish
  result.map fun () => stream.sink.output

end StreamMask
