/-
JSON texts as trees that keep what was written.

A text is read as a whole before anything of it is passed on. What can still be
wrong then is an escape that is no character: only half of a surrogate pair. Such
a string does not spoil the tree, but its events end there.
-/
import StreamMask.Event
import StreamMask.Json.Number

namespace StreamMask.Json

/-- A JSON value. Strings and names hold their text, or the fault that is in it. -/
inductive Node where
  | null
  | bool (value : Bool)
  | number (numeral : Numeral)
  | string (text : Except Fault String)
  | array (items : List Node)
  | object (fields : List (Except Fault String × Node))

namespace Node

/-- The text of a string that stands in a text after `start`, as a part of which a fault in it is
placed. -/
def decode (start afterQuote : List Char) : Except Fault String :=
  match readString 0 afterQuote with
  | .ok (text, _) => .ok (String.ofList text)
  | .error stop => .error (stop.fault .text start)

/-- Read a word that stands for a node. -/
def readLiteral (word : String) (node : Node) (text : List Char) : Read Node :=
  (readWord word.toList text).map fun rest => (node, rest)

mutual

/-- Read a value. -/
def readValue (medium : Medium) : (fuel : Nat) → List Char → Read Node
  | 0, _ => .error (.atEnd .endInValue)
  | fuel + 1, text =>
    match skipBlank text with
    | [] => .error (.atEnd .endInValue)
    | '"' :: rest =>
      (skipString medium 0 rest).map fun after => (.string (decode ('"' :: rest) rest), after)
    | '[' :: rest =>
      match skipBlank rest with
      | [] => .error (.atEnd .endInList)
      | ']' :: rest => .ok (.array [], rest)
      | rest => (readItems medium fuel rest).map fun (items, rest) => (.array items, rest)
    | '\x7b' :: rest =>
      match skipBlank rest with
      | [] => .error (.atEnd .endInObject)
      | '\x7d' :: rest => .ok (.object [], rest)
      | first =>
        (readFields medium fuel ('\x7b' :: rest) first).map fun (fields, rest) =>
          (.object fields, rest)
    | 'n' :: rest => readLiteral "ull" .null rest
    | 't' :: rest => readLiteral "rue" (.bool true) rest
    | 'f' :: rest => readLiteral "alse" (.bool false) rest
    | c :: rest =>
      if c = '-' ∨ c.isDigit then
        (readNumeral (c :: rest)).map fun (numeral, rest) => (.number numeral, rest)
      else .error (.atNext .expectedValue (c :: rest))

/-- Read the items of an array, at least one, and its closing bracket. -/
def readItems (medium : Medium) : (fuel : Nat) → List Char → Read (List Node)
  | 0, _ => .error (.atEnd .endInList)
  | fuel + 1, text =>
    match readValue medium fuel text with
    | .error stop => .error stop
    | .ok (item, rest) =>
      match skipBlank rest with
      | [] => .error (.atEnd .endInList)
      | ']' :: rest => .ok ([item], rest)
      | ',' :: rest => (readItems medium fuel rest).map fun (items, rest) => (item :: items, rest)
      | rest => .error (.atNext .expectedListCommaOrEnd rest)

/-- Read the fields of an object that begins at `start`, at least one, and its closing bracket. -/
def readFields (medium : Medium) :
    (fuel : Nat) → (start text : List Char) → Read (List (Except Fault String × Node))
  | 0, _, _ => .error (.atEnd .endInObject)
  | fuel + 1, start, text =>
    match skipBlank text with
    | [] => .error (.atEnd .endInObject)
    | '"' :: quoted =>
      match skipString medium 0 quoted with
      | .error stop => .error stop
      | .ok rest =>
        match skipBlank rest with
        | [] => .error (.atEnd .endInObject)
        | ':' :: rest =>
          match readValue medium fuel rest with
          | .error stop => .error stop
          | .ok (value, rest) =>
            let field := (decode start quoted, value)
            match skipBlank rest with
            | [] => .error (.atEnd .endInObject)
            | '\x7d' :: rest => .ok ([field], rest)
            | ',' :: rest =>
              (readFields medium fuel start rest).map fun (fields, rest) => (field :: fields, rest)
            | rest => .error (.atNext .expectedObjectCommaOrEnd rest)
        | rest => .error (.atNext .expectedColon rest)
    | rest => .error (.atNext .keyNotString rest)

end

/-- Fuel that no text of this length uses up: every second call takes a character. -/
def fuelFor (text : List Char) : Nat := 2 * text.length + 2

/-- Read one value. -/
def read (medium : Medium) (text : List Char) : Read Node := readValue medium (fuelFor text) text

/-- The value that a text consists of. -/
def ofText (text : List Char) : Except Fault Node :=
  match read .text text with
  | .error stop => .error (stop.fault .text text)
  | .ok (node, rest) =>
    match readEnd rest with
    | .error stop => .error (stop.fault .text text)
    | .ok () => .ok node

end Node

/-! ## Events -/

/-- Events, and the fault that they end with, if they do not go to the end. -/
structure Script where
  events : List Event
  fault : Option Fault
deriving DecidableEq, Repr

namespace Script

/-- Nothing more. -/
def done : Script := ⟨[], none⟩

/-- Nothing but a fault. -/
def broken (fault : Fault) : Script := ⟨[], some fault⟩

/-- One more event in front. -/
def push (event : Event) (script : Script) : Script :=
  { script with events := event :: script.events }

/-- An event made of text in front, unless the text has a fault. -/
def pushText (text : Except Fault String) (event : String → Event) (script : Script) : Script :=
  match text with
  | .ok text => script.push (event text)
  | .error fault => .broken fault

end Script

namespace Node

mutual

/-- The events of a node, and after them those of `next`. -/
def script : Node → (next : Script) → Script
  | null, next => next.push (.scalar .null)
  | bool value, next => next.push (.scalar (.bool value))
  | number numeral, next => next.push (.scalar (.ofNumeral numeral))
  | string text, next => next.pushText text fun text => .scalar (.string text)
  | array items, next => (itemsScript items (next.push .endArray)).push (.beginArray none)
  | object fields, next => (fieldsScript fields (next.push .endObject)).push (.beginObject none)

/-- The events of the items of an array. -/
def itemsScript : List Node → Script → Script
  | [], next => next
  | item :: items, next => item.script (itemsScript items next)

/-- The events of the fields of an object. -/
def fieldsScript : List (Except Fault String × Node) → Script → Script
  | [], next => next
  | (name, value) :: fields, next =>
    (value.script (fieldsScript fields next)).pushText name .field

end

end Node
end StreamMask.Json
