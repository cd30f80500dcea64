/-
Reading of JSON whose shape is known: texts, lists, and records with named fields.

A record is written as an object, whose fields may come in any order and among
others that are passed over, or as an array of its values in their own order.
What is wrong with a record as a whole has no place of its own; its place is where
the reading of the enclosing value ends, closing bracket included if it is next.
-/
import StreamMask.Json.Datum
import StreamMask.Json.Node
import StreamMask.Text.Quoted

namespace StreamMask.Json

/-- Why reading stopped: at a place that is known, or with the text that was left then. -/
inductive Halt where
  | placed (stop : Stop)
  | unplaced (cause : Cause) (rest : List Char)
deriving DecidableEq, Repr

/-- A reader of one value inside which containers may open to the given depth. -/
abbrev Shape (α : Type) := (depth : Nat) → List Char → Except Halt (α × List Char)

namespace Halt

/-- Place a halt where the text that was left begins. -/
def settle : Halt → Stop
  | placed stop => stop
  | unplaced cause rest => ⟨cause, rest, 0⟩

end Halt

namespace Shape

/-- A reader that knows all places. -/
def ofRead {α : Type} (read : Read α) : Except Halt (α × List Char) := read.mapError .placed

/-! ## Values of another kind -/

/-- What a number is called when something else is expected. -/
def numberKind : Number → String
  | .natural value => "integer `" ++ toString value.toNat ++ "`"
  | .negative value => "integer `" ++ Scalar.integerText value ++ "`"
  | .float value => "floating point `" ++ Layout.json.render value ++ "`"

/-- The stop for a value that is not of the kind expected. A value without members is read first;
a container is not. -/
def wrongKind (expected : String) (text : List Char) : Stop :=
  let after {α : Type} (read : Read α) (kind : α → String) : Stop :=
    match read with
    | .error stop => stop
    | .ok (value, rest) => ⟨.invalidType (kind value) expected, rest, 0⟩
  let word (word : String) (kind : String) (rest : List Char) : Stop :=
    after ((readWord word.toList rest).map fun rest => ((), rest)) fun () => kind
  match text with
  | 'n' :: rest => word "ull" "null" rest
  | 't' :: rest => word "rue" "boolean `true`" rest
  | 'f' :: rest => word "alse" "boolean `false`" rest
  | '"' :: rest =>
    after (readString 0 rest) fun text => "string " ++ Text.quote (String.ofList text)
  | '[' :: _ => ⟨.invalidType "sequence" expected, text, 0⟩
  | '\x7b' :: _ => ⟨.invalidType "map" expected, text, 0⟩
  | c :: _ =>
    if c = '-' ∨ c.isDigit then after (readNumber text) numberKind else .atNext .expectedValue text
  | [] => .atEnd .endInValue

/-! ## Texts and lists -/

/-- Read a text. -/
def string : Shape String := fun _ text =>
  match skipBlank text with
  | [] => .error (.placed (.atEnd .endInValue))
  | '"' :: rest =>
    ofRead ((readString 0 rest).map fun (text, rest) => (String.ofList text, rest))
  | rest => .error (.placed (wrongKind "a string" rest))

/-- Pass the closing bracket of an array that has been read. -/
def endArray (text : List Char) : Except Stop (List Char) :=
  match skipBlank text with
  | [] => .error (.atEnd .endInList)
  | ']' :: rest => .ok rest
  | ',' :: rest =>
    match skipBlank rest with
    | ']' :: rest => .error (.atNext .trailingComma (']' :: rest))
    | rest => .error (.atNext .trailingCharacters rest)
  | rest => .error (.atNext .trailingCharacters rest)

/-- Pass the closing bracket of an object that has been read. -/
def endObject (text : List Char) : Except Stop (List Char) :=
  match skipBlank text with
  | [] => .error (.atEnd .endInObject)
  | '\x7d' :: rest => .ok rest
  | ',' :: rest => .error (.atNext .trailingComma (',' :: rest))
  | rest => .error (.atNext .trailingCharacters rest)

/-- What is left when an array is given up: its closing bracket is passed if it comes next, and so
are a comma and the blanks after it. -/
def giveUpArray (text : List Char) : List Char :=
  match skipBlank text with
  | ']' :: rest => rest
  | ',' :: rest => skipBlank rest
  | rest => rest

/-- What is left when an object is given up: its closing bracket is passed if it comes next. -/
def giveUpObject (text : List Char) : List Char :=
  match skipBlank text with
  | '\x7d' :: rest => rest
  | rest => rest

/-- Finish a container after what was read inside. -/
def finish {α : Type} (close : List Char → Except Stop (List Char)) (giveUp : List Char → List Char)
    (inside : Except Halt (α × List Char)) : Except Halt (α × List Char) :=
  match inside with
  | .ok (value, rest) => ofRead ((close rest).map fun rest => (value, rest))
  | .error (.placed stop) => .error (.placed stop)
  | .error (.unplaced cause rest) => .error (.placed ⟨cause, giveUp rest, 0⟩)

/-- Read the items that are left of an array, and stop before its closing bracket. -/
def items {α : Type} (item : Shape α) (depth : Nat) : (fuel : Nat) → (isFirst : Bool) →
    List Char → Except Halt (List α × List Char)
  | 0, _, _ => .error (.placed (.atEnd .endInList))
  | fuel + 1, isFirst, text =>
    match Datum.nextItem isFirst text with
    | .error stop => .error (.placed stop)
    | .ok none => .ok ([], text)
    | .ok (some text) =>
      match item depth text with
      | .error halt => .error halt
      | .ok (value, rest) =>
        (items item depth fuel false rest).map fun (values, rest) => (value :: values, rest)

/-- Read a list. -/
def list {α : Type} (item : Shape α) : Shape (List α) := fun depth text =>
  match skipBlank text with
  | [] => .error (.placed (.atEnd .endInValue))
  | '[' :: rest =>
    match Datum.openContainer depth ('[' :: rest) with
    | .error stop => .error (.placed stop)
    | .ok () =>
      finish endArray giveUpArray (items item (depth - 1) (rest.length + 1) true rest)
  | rest => .error (.placed (wrongKind "a sequence" rest))

/-! ## Records -/

/-- A field of a record that is read into a state. -/
structure Field (σ : Type) where
  name : String
  /-- Whether the field has been read into the state. -/
  isSet : σ → Bool
  /-- Whether a record may lack the field. -/
  optional : Bool
  read : σ → Shape σ

/-- A record: what it is called where it is expected, its fields in order, and their state before
anything is read. -/
structure Record (σ : Type) where
  name : String
  fields : List (Field σ)
  initial : σ

namespace Record

variable {σ : Type} (record : Record σ)

/-- Read the fields that are left of an object, and stop before its closing bracket. -/
def fieldsFrom (depth : Nat) : (fuel : Nat) → (isFirst : Bool) → σ → List Char →
    Except Halt (σ × List Char)
  | 0, _, _, _ => .error (.placed (.atEnd .endInObject))
  | fuel + 1, isFirst, state, text =>
    match Datum.nextField isFirst text with
    | .error stop => .error (.placed stop)
    | .ok none =>
      match record.fields.find? fun field => !field.optional && !field.isSet state with
      | some field => .error (.unplaced (.missingField field.name) text)
      | none => .ok (state, text)
    | .ok (some quoted) =>
      match readString 0 quoted with
      | .error stop => .error (.placed stop)
      | .ok (name, rest) =>
        match record.fields.find? fun field => field.name.toList = name with
        | some field =>
          if field.isSet state then .error (.unplaced (.duplicateField field.name) rest)
          else
            match Datum.readColon rest with
            | .error stop => .error (.placed stop)
            | .ok rest =>
              match field.read state depth rest with
              | .error halt => .error halt
              | .ok (state, rest) => fieldsFrom depth fuel false state rest
        | none =>
          match Datum.readColon rest with
          | .error stop => .error (.placed stop)
          | .ok rest =>
            match Node.read .text rest with
            | .error stop => .error (.placed stop)
            | .ok (_, rest) => fieldsFrom depth fuel false state rest

/-- Read the values of the given fields from the items of an array, `index` of them having been
read. An array may end before fields that are optional. -/
def valuesFrom (depth : Nat) : List (Field σ) → (index : Nat) → σ → List Char →
    Except Halt (σ × List Char)
  | [], _, state, text => .ok (state, text)
  | field :: fields, index, state, text =>
    match Datum.nextItem (index = 0) text with
    | .error stop => .error (.placed stop)
    | .ok none =>
      if field.optional then valuesFrom depth fields index state text
      else
        .error (.unplaced (.invalidLength index ("struct " ++ record.name ++ " with " ++
          toString record.fields.length ++ " elements")) text)
    | .ok (some text) =>
      match field.read state depth text with
      | .error halt => .error halt
      | .ok (state, rest) => valuesFrom depth fields (index + 1) state rest

/-- Read a record. -/
def shape : Shape σ := fun depth text =>
  match skipBlank text with
  | [] => .error (.placed (.atEnd .endInValue))
  | '[' :: rest =>
    match Datum.openContainer depth ('[' :: rest) with
    | .error stop => .error (.placed stop)
    | .ok () =>
      finish endArray giveUpArray
        (record.valuesFrom (depth - 1) record.fields 0 record.initial rest)
  | '\x7b' :: rest =>
    match Datum.openContainer depth ('\x7b' :: rest) with
    | .error stop => .error (.placed stop)
    | .ok () =>
      finish endObject giveUpObject
        (record.fieldsFrom (depth - 1) (rest.length + 1) true record.initial rest)
  | rest => .error (.placed (wrongKind ("struct " ++ record.name) rest))

end Record

/-- The value that a text consists of. -/
def ofText {α : Type} (shape : Shape α) (text : List Char) : Except Fault α :=
  match shape Datum.depthLimit text with
  | .error halt => .error (halt.settle.fault .text text)
  | .ok (value, rest) =>
    match readEnd rest with
    | .error stop => .error (stop.fault .text text)
    | .ok () => .ok value

end Shape
end StreamMask.Json
