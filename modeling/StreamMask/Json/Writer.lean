/-
Events as compact JSON.

Members are separated by commas, a name from its value by a colon, and documents
that follow one another by line ends. Nothing checks that the events nest.
-/
import StreamMask.Json.Quoted
import StreamMask.Output
import StreamMask.Sink
import StreamMask.Text.Base64

namespace StreamMask

/-- The JSON text of a scalar. -/
def Scalar.json : Scalar → String
  | string text => Json.quote text
  | integer value => integerText value
  | float value => Layout.json.render value
  | bigInteger digits => digits
  | bigDecimal digits => digits
  | bool value => toString value
  | null => "null"
  | raw json => json
  | binary bytes => Json.quote (Text.base64 bytes)

/-- A sink that writes JSON to an output. -/
structure Writer (ω : Type) where
  output : ω
  /-- For each open container, the innermost first, whether it has a member yet. -/
  started : List Bool := []
  /-- Whether a name has been written whose value is to come. -/
  afterName : Bool := false
  /-- Whether a document has been begun. -/
  begun : Bool := false

namespace Writer

variable {ω : Type} [Output ω]

/-- Write a piece of text; `failure` tells what a refusal of the output means here. -/
def put (writer : Writer ω) (failure : IoFault → Failure) (piece : String) : Outcome (Writer ω) :=
  match Output.put writer.output piece with
  | (output, none) => ({ writer with output := output }, .ok ())
  | (output, some fault) => ({ writer with output := output }, .error (failure fault))

/-- Write a comma if the innermost container has a member already, which it has from now on. -/
def separate (writer : Writer ω) (isStarted : Bool) (outer : List Bool) : Outcome (Writer ω) :=
  Outcome.andThen (if isStarted then writer.put .io "," else (writer, .ok ())) fun writer =>
    ({ writer with started := true :: outer }, .ok ())

/-- Write what separates a value from what came before it. -/
def beforeValue (writer : Writer ω) : Outcome (Writer ω) :=
  if writer.afterName then ({ writer with afterName := false }, .ok ())
  else
    match writer.started with
    | isStarted :: outer => writer.separate isStarted outer
    | [] =>
      Outcome.andThen (if writer.begun then writer.put .io "\n" else (writer, .ok ())) fun writer =>
        ({ writer with begun := true }, .ok ())

/-- Write the bracket that opens a container. -/
def beginContainer (writer : Writer ω) (bracket : String) : Outcome (Writer ω) :=
  Outcome.andThen writer.beforeValue fun writer =>
    Outcome.andThen (writer.put .io bracket) fun writer =>
      ({ writer with started := false :: writer.started }, .ok ())

/-- Write the bracket that closes a container. -/
def endContainer (writer : Writer ω) (bracket : String) : Outcome (Writer ω) :=
  { writer with started := writer.started.tail }.put .io bracket

/-- Write the name of a field. -/
def field (writer : Writer ω) (name : String) : Outcome (Writer ω) :=
  let separated := match writer.started with
    | isStarted :: outer => writer.separate isStarted outer
    | [] => (writer, .ok ())
  Outcome.andThen separated fun writer =>
    Outcome.andThen (writer.put (.json ∘ .io) (Json.quote name)) fun writer =>
      Outcome.andThen (writer.put .io ":") fun writer =>
        ({ writer with afterName := true }, .ok ())

/-- What a refusal means while a scalar is written: strings and floats are encoded as they are
written, and so the encoding fails. -/
def scalarFailure : Scalar → IoFault → Failure
  | .string _ | .float _ | .binary _ => .json ∘ .io
  | .integer _ | .bigInteger _ | .bigDecimal _ | .bool _ | .null | .raw _ => .io

def scalar (writer : Writer ω) (value : Scalar) : Outcome (Writer ω) :=
  Outcome.andThen writer.beforeValue fun writer => writer.put (scalarFailure value) value.json

def flush (writer : Writer ω) : Outcome (Writer ω) :=
  match Output.flush writer.output with
  | (output, none) => ({ writer with output := output }, .ok ())
  | (output, some fault) => ({ writer with output := output }, .error (.io fault))

instance : Sink (Writer ω) where
  write writer
    | .beginObject _ => writer.beginContainer "\x7b"
    | .endObject => writer.endContainer "\x7d"
    | .beginArray _ => writer.beginContainer "["
    | .endArray => writer.endContainer "]"
    | .field name => writer.field name
    | .scalar value => writer.scalar value
    | .flush => writer.flush

/-- A writer that has written nothing. -/
def fresh (output : ω) : Writer ω := { output := output }

end Writer

/-- The events that were kept, as JSON; passing on is none of a document. -/
def Recorder.json (recorder : Recorder) : String :=
  (Sink.writeAll (Writer.fresh "") (recorder.events.toList.filter (· ≠ .flush))).1.output

end StreamMask
