/-
Log entries as lines: one JSON object each for machines, or plain text for people.
-/
import StreamMask.Json.Writer
import StreamMask.Log.Fields

namespace StreamMask.Log

/-- How grave an entry is. -/
inductive Level where
  | trace
  | debug
  | info
  | warn
  | error
deriving DecidableEq, Repr

namespace Level

def name : Level → String
  | trace => "trace"
  | debug => "debug"
  | info => "info"
  | warn => "warn"
  | error => "error"

/-- The name in a column of five characters. -/
def label : Level → String
  | trace => "TRACE"
  | debug => "DEBUG"
  | info => " INFO"
  | warn => " WARN"
  | error => "ERROR"

/-- From the least grave, zero, up. -/
def rank : Level → Nat
  | trace => 0
  | debug => 1
  | info => 2
  | warn => 3
  | error => 4

end Level

/-- Something that happened. -/
structure Entry where
  level : Level
  /-- The part of the program that it happened in. -/
  target : String
  fields : Fields
deriving Repr

/-- A piece of work that entries lie in. -/
structure Span where
  name : String
  /-- The names that a later record may give a value. -/
  declared : List String
  fields : Fields
deriving Repr

namespace Span

/-- A span as an object. -/
def events (span : Span) : List Event :=
  .beginObject (some 2) :: .field "name" :: .scalar (.string span.name) :: .field "fields" ::
    span.fields.events ++ [.endObject]

/-- What comes of the values that a record gives a span: the registry of spans, which hands a record on,
hands on values for declared fields only, and these in the order of declaration. -/
def accepted (span : Span) (values : Fields) : Fields :=
  span.declared.flatMap fun name => values.filter fun value => value.1 = name

/-- Record values, as they are handed on. -/
def record (span : Span) (values : Fields) : Span :=
  { span with fields := span.fields.merge (span.accepted values) }

end Span

namespace Entry

/-- What opens a line and is never masked. -/
def envelope (entry : Entry) (stamp : String) : List Event :=
  [.field "ts", .scalar (.string stamp), .field "level", .scalar (.string entry.level.name),
    .field "target", .scalar (.string entry.target)]

/-- The spans of a line, from the outermost in; nothing if there are none. -/
def spanEvents (spans : List Span) : List Event :=
  if spans.isEmpty then []
  else
    .field "spans" :: .beginArray (some spans.length) :: spans.flatMap Span.events ++ [.endArray]

/-- An entry as a line of JSON, at the time `stamp`. -/
def line (entry : Entry) (set : MaskerSet) (stamp : String) (spans : List Span) :
    Except Failure String :=
  let opened := (Masking.start set (Writer.fresh "")).step (.beginObject none)
  let enveloped := opened.andThen fun stream => stream.forwardAll (entry.envelope stamp)
  let (stream, result) := enveloped.andThen fun stream =>
    Outcome.andThen (Sink.writeAll stream
      (.field "fields" :: entry.fields.events ++ spanEvents spans ++ [.endObject])) Masking.finish
  result.map fun () => stream.sink.output ++ "\n"

/-- An entry as a line of text without a time. -/
def text (entry : Entry) (set : MaskerSet) : Except Failure String :=
  (entry.fields.text set).map fun fields => entry.level.label ++ " " ++ fields

end Entry
end StreamMask.Log
