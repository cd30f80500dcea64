/-
Configurations as JSON.
-/
import StreamMask.Config
import StreamMask.Json.Mask
import StreamMask.Json.Shape

namespace StreamMask

open Json (Shape Datum)

/-- Read a mask. What is no mask has no place of its own. -/
def Mask.shape : Shape Mask := fun depth text =>
  match Datum.read depth text with
  | .error stop => .error (.placed stop)
  | .ok (datum, rest) =>
    match Mask.ofDatum? datum with
    | some mask => .ok (mask, rest)
    | none => .error (.unplaced (.noVariant "MaskValue") rest)

namespace Config

/-- A field that is read with a shape. The state holds what has been read of it, if anything. -/
def field {σ α : Type} (name : String) (optional : Bool) (shape : Shape α) (get : σ → Option α)
    (set : σ → α → σ) : Shape.Field σ where
  name := name
  isSet state := (get state).isSome
  optional := optional
  read state depth text := (shape depth text).map fun (value, rest) => (set state value, rest)

/-- A rule of which parts have been read. -/
structure RuleDraft where
  patterns : Option (List String) := none
  mask : Option Mask := none

/-- A rule called `type`, whose patterns are in the field `patterns`. -/
def ruleRecord (type patterns : String) : Shape.Record RuleDraft where
  name := type
  initial := {}
  fields := [
    field patterns false (.list .string) (·.patterns) fun draft value =>
      { draft with patterns := some value },
    field "mask" true Mask.shape (·.mask) fun draft value => { draft with mask := some value }]

/-- Read a rule. -/
def ruleShape (type patterns : String) : Shape Rule := fun depth text =>
  ((ruleRecord type patterns).shape depth text).map fun (draft, rest) =>
    (⟨draft.patterns.getD [], draft.mask⟩, rest)

/-- A configuration of which parts have been read. -/
structure Draft where
  schemaVersion : Option String := none
  defaultMask : Option Mask := none
  paths : Option (List String) := none
  pathMasks : Option (List Rule) := none
  values : Option (List String) := none
  valueMasks : Option (List Rule) := none

/-- The configuration, with what was not read as it is by default. -/
def Draft.config (draft : Draft) : Config where
  schemaVersion := draft.schemaVersion.getD ({} : Config).schemaVersion
  defaultMask := draft.defaultMask.getD ({} : Config).defaultMask
  paths := draft.paths.getD []
  pathMasks := draft.pathMasks.getD []
  values := draft.values.getD []
  valueMasks := draft.valueMasks.getD []

def record : Shape.Record Draft where
  name := "MaskingConfig"
  initial := {}
  fields := [
    field "schema_version" true .string (·.schemaVersion) fun draft value =>
      { draft with schemaVersion := some value },
    field "default_mask" true Mask.shape (·.defaultMask) fun draft value =>
      { draft with defaultMask := some value },
    field "paths" true (.list .string) (·.paths) fun draft value =>
      { draft with paths := some value },
    field "path_masks" true (.list (ruleShape "PathMaskRule" "paths")) (·.pathMasks)
      fun draft value => { draft with pathMasks := some value },
    field "values" true (.list .string) (·.values) fun draft value =>
      { draft with values := some value },
    field "value_masks" true (.list (ruleShape "ValueMaskRule" "values")) (·.valueMasks)
      fun draft value => { draft with valueMasks := some value }]

/-- The configuration that a JSON text says. -/
def ofJson (text : List Char) : Except Json.Fault Config :=
  (Shape.ofText record.shape text).map Draft.config

/-! ## Writing -/

/-- A number as a datum. -/
def integerDatum (value : Int64) : Datum :=
  .number (if value.toInt < 0 then .negative value else .natural value.toUInt64)

/-- A mask as a datum; null stands for a float that is not finite. -/
def maskDatum : Mask → Datum
  | .null => .null
  | .bool value => .bool value
  | .integer value => integerDatum value
  | .float value => if value.isFinite then .number (.float value) else .null
  | .string text => .string text

/-- Texts as a datum. -/
def textsDatum (texts : List String) : Datum := .array (texts.map .string)

/-- A rule as a datum. -/
def ruleDatum (patterns : String) (rule : Rule) : Datum :=
  .object ((patterns, textsDatum rule.patterns) ::
    (rule.mask.map fun mask => ("mask", maskDatum mask)).toList)

/-- A configuration as a datum, its fields in their own order. -/
def datum (config : Config) : Datum :=
  .object [("schema_version", .string config.schemaVersion),
    ("default_mask", maskDatum config.defaultMask), ("paths", textsDatum config.paths),
    ("path_masks", .array (config.pathMasks.map (ruleDatum "paths"))),
    ("values", textsDatum config.values),
    ("value_masks", .array (config.valueMasks.map (ruleDatum "values")))]

/-- The text of a configuration file. -/
def saved (config : Config) : String := config.datum.pretty 0

end Config
end StreamMask
