/-
Configurations as TOML.
-/
import StreamMask.Config
import StreamMask.Toml.Document

namespace StreamMask.Config

open Toml (Node Entries)

/-- The items of an array, or the tables that share a header. -/
def items? : Node → Option (List Node)
  | .array items => some items
  | .tables items => some (items.map (.table .header))
  | _ => none

/-- A text. -/
def text? : Node → Option String
  | .string text => some text
  | _ => none

/-- A list of texts. -/
def texts? (node : Node) : Option (List String) := (items? node).bind fun items => items.mapM text?

/-- A mask: any value but a time, an array or a table. -/
def mask? : Node → Option Mask
  | .string text => some (.string text)
  | .integer value => some (.integer value)
  | .float value => some (.float value)
  | .bool value => some (.bool value)
  | .time | .array _ | .table _ _ | .tables _ => none

/-- What a field says, if the table has it. -/
def optional? {α : Type} (entries : Entries) (name : String) (read : Node → Option α) (absent : α) :
    Option α :=
  match entries.lookup name with
  | none => some absent
  | some node => read node

/-- A rule: a table, or an array of its patterns and, if there is more, its mask. -/
def rule? (patterns : String) (node : Node) : Option Rule :=
  match node with
  | .table _ entries => do
    let texts ← texts? (← entries.lookup patterns)
    let mask ← optional? entries "mask" (fun node => (mask? node).map some) none
    some ⟨texts, mask⟩
  | node =>
    match items? node with
    | some (first :: second :: _) => do some ⟨← texts? first, some (← mask? second)⟩
    | some [first] => do some ⟨← texts? first, none⟩
    | _ => none

/-- A list of rules. -/
def rules? (patterns : String) (node : Node) : Option (List Rule) :=
  (items? node).bind fun items => items.mapM (rule? patterns)

/-- The configuration that a table says; fields of other names are passed over. -/
def ofEntries? (entries : Entries) : Option Config := do
  let plain : Config := {}
  some {
    schemaVersion := ← optional? entries "schema_version" text? plain.schemaVersion
    defaultMask := ← optional? entries "default_mask" mask? plain.defaultMask
    paths := ← optional? entries "paths" texts? []
    pathMasks := ← optional? entries "path_masks" (rules? "paths") []
    values := ← optional? entries "values" texts? []
    valueMasks := ← optional? entries "value_masks" (rules? "values") [] }

/-- The configuration that a TOML text says. -/
def ofToml (text : List Char) : Except ConfigFault Config :=
  match (Entries.ofText? text).bind ofEntries? with
  | some config => .ok config
  | none => .error .malformedToml

end StreamMask.Config
