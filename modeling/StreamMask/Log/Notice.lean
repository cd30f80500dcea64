/-
Notices: what the library itself has to say about its work, as log entries.

Notices are kept beside the work, by a sink at its end that collects them, and by
streams that hand theirs on to it.
-/
import StreamMask.Config.File
import StreamMask.Log.Line

namespace StreamMask

namespace Log

/-- What is worth a notice. -/
inductive Notice where
  | builtSet (counts : MaskerCounts)
  /-- A scalar that nothing may look inside was passed on as it is. -/
  | passedOpaque (kind pointer : String)
  | noConfig
  | loadedConfig (path : String) (source : Source)
deriving DecidableEq, Repr

/-- A field with a count. -/
def countField (name : String) (n : Nat) : String × Scalar := (name, .ofNat n)

/-- The message of an entry. -/
def messageField (text : String) : String × Scalar := ("message", .string text)

def Notice.entry : Notice → Entry
  | builtSet counts =>
    ⟨.debug, "lm_mask::builder",
      [messageField "built masker set", countField "name_set_maskers" counts.nameSets,
        countField "masked_names" counts.names, countField "path_maskers" counts.paths,
        countField "regex_maskers" counts.regexes,
        countField "custom_field_maskers" counts.customFields,
        countField "custom_value_maskers" counts.customValues]⟩
  | passedOpaque kind pointer =>
    ⟨.trace, "lm_mask::transducer",
      [messageField "opaque scalar bypasses value maskers", ("kind", .string kind),
        ("path", .string pointer)]⟩
  | noConfig =>
    ⟨.debug, "lm_core::config", [messageField "no masking config given, using builtin default"]⟩
  | loadedConfig path source =>
    ⟨.debug, "lm_core::config",
      [messageField "loaded masking config", ("path", .string path),
        ("source", .string source.display)]⟩

end Log

open Log (Notice)

/-- The notice that a step is worth. -/
def Masking.notice? {σ : Type} (stream : Masking σ) : Event → Option Notice
  | .scalar value =>
    match stream.position.checkValue none with
    | .error _ => none
    | .ok () =>
      if stream.depth = 0 ∧ value.isOpaque then
        some (.passedOpaque value.kind stream.position.pointer)
      else none
  | _ => none

/-- The notice that a configuration is worth once it has been found. -/
def Resolved.notice (resolved : Resolved) : Notice :=
  match resolved.path with
  | some path => .loadedConfig path resolved.source
  | none => .noConfig

/-- A sink that takes notices too. -/
class Noticing (σ : Type) where
  note : σ → Notice → σ

/-- A sink with the notices that have come, the last first. -/
structure Noted (σ : Type) where
  sink : σ
  notices : List Notice := []

namespace Noted

variable {σ : Type}

instance : Noticing (Noted σ) where
  note noted notice := { noted with notices := notice :: noted.notices }

instance [Sink σ] : Sink (Noted σ) where
  write noted event :=
    let (sink, result) := Sink.write noted.sink event
    ({ noted with sink := sink }, result)

end Noted

/-- A masking stream that hands on notices of its steps, and those of streams that it is the sink
of. -/
structure Audited (σ : Type) where
  stream : Masking σ

namespace Audited

variable {σ : Type} [Noticing σ]

/-- A stream that has not begun. -/
def start (set : MaskerSet) (sink : σ) : Audited σ := ⟨Masking.start set sink⟩

def note (audited : Audited σ) (notice : Notice) : Audited σ :=
  ⟨{ audited.stream with sink := Noticing.note audited.stream.sink notice }⟩

instance : Noticing (Audited σ) where
  note := note

/-- Take one event, after the notice that it is worth. -/
def step [Sink σ] (audited : Audited σ) (event : Event) : Outcome (Audited σ) :=
  let noted := match audited.stream.notice? event with
    | none => audited
    | some notice => audited.note notice
  let (stream, result) := noted.stream.step event
  (⟨stream⟩, result)

instance [Sink σ] : Sink (Audited σ) where
  write := step

/-- Check that the document is complete, and flush the sink. -/
def finish [Sink σ] (audited : Audited σ) : Outcome (Audited σ) :=
  let (stream, result) := audited.stream.finish
  (⟨stream⟩, result)

end Audited
end StreamMask
