/-
Fields of log entries and of the spans that they lie in, and their masking.

Fields are masked as the members of a field `fields` in the root object, so that a
path selects the same field whatever format an entry is written in.
-/
import StreamMask.Masking

namespace StreamMask.Log

/-- Named values in the order in which they were recorded. -/
abbrev Fields := List (String × Scalar)

namespace Fields

/-- The fields as an object. -/
def events (fields : Fields) : List Event :=
  .beginObject (some fields.length) ::
    fields.flatMap (fun (name, value) => [.field name, .scalar value]) ++ [.endObject]

/-- Give the first field of this name a value; add the field if there is none. -/
def update (name : String) (value : Scalar) : Fields → Fields
  | [] => [(name, value)]
  | (name', value') :: rest =>
    if name' = name then (name', value) :: rest else (name', value') :: update name value rest

/-- Update one field after another. -/
def merge (fields updates : Fields) : Fields :=
  updates.foldl (fun fields (name, value) => fields.update name value) fields

/-- The named scalars among events; `pending` is the name that was last, if nothing has come
since. -/
def ofEvents (pending : Option String) : List Event → Fields
  | [] => []
  | .field name :: rest => ofEvents (some name) rest
  | .scalar value :: rest =>
    match pending with
    | some name => (name, value) :: ofEvents none rest
    | none => ofEvents none rest
  | _ :: rest => ofEvents none rest

/-- The document that fields are masked as. -/
def document (fields : Fields) : List Event :=
  .beginObject (some 1) :: .field "fields" :: fields.events ++ [.endObject]

/-- The fields as they are shown. If all of them are masked together, what is left is one field
named `fields`. -/
def masked (set : MaskerSet) (fields : Fields) : Except Failure Fields :=
  let (stream, result) := Outcome.andThen
    (Sink.writeAll (Masking.start set Recorder.empty) fields.document) Masking.finish
  result.map fun () => ofEvents none stream.sink.events.toList

end Fields

/-- A value as a person reads it. -/
def valueText : Scalar → String
  | .string text => Text.quote text
  | .integer value => Scalar.integerText value
  | .float value => Layout.plain.render value
  | .bigInteger digits => digits
  | .bigDecimal digits => digits
  | .raw json => json
  | .bool value => toString value
  | .null => "null"
  | .binary bytes => "<" ++ toString bytes.length ++ " bytes>"

/-- A field as a person reads it; a message stands without its name. -/
def fieldText (name : String) (value : Scalar) : String :=
  match value with
  | .string text => if name = "message" then text else name ++ "=" ++ Text.quote text
  | value => name ++ "=" ++ valueText value

/-- Fields as a person reads them, masked. -/
def Fields.text (set : MaskerSet) (fields : Fields) : Except Failure String :=
  (fields.masked set).map fun fields => " ".intercalate (fields.map fun (n, v) => fieldText n v)

end StreamMask.Log
