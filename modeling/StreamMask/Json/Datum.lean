/-
JSON texts as plain data: numbers without their text, and the fields of an object
sorted by name, each name once, with the value that comes last.

Containers nest to a limited depth. Unlike a `Node`, a datum is not known to be
well formed before it has been read through, and a bad string or number is found
where it stands.
-/
import StreamMask.Event
import StreamMask.Json.Number
import StreamMask.Json.Quoted

namespace StreamMask.Json

inductive Datum where
  | null
  | bool (value : Bool)
  | number (value : Number)
  | string (text : String)
  | array (items : List Datum)
  /-- Fields with different names. Reading puts them in the order of their names. -/
  | object (fields : List (String × Datum))
deriving Inhabited

namespace Number

/-- The text of a number. -/
def text : Number → String
  | natural value => toString value.toNat
  | negative value => Scalar.integerText value
  | float value => Layout.json.render value

/-- The scalar of a number. -/
def toScalar : Number → Scalar
  | natural value => .ofNat value.toNat
  | negative value => .integer value
  | float value =>
    if value.isFinite then .float value else .null

end Number

namespace Datum

/-- Put a field into its place; one of the same name is replaced. -/
def insertField {α : Type} (name : String) (value : α) : List (String × α) → List (String × α)
  | [] => [(name, value)]
  | (name', value') :: rest =>
    if name < name' then (name, value) :: (name', value') :: rest
    else if name = name' then (name, value) :: rest
    else (name', value') :: insertField name value rest

/-- How deep containers may nest; one at this depth is refused. -/
def depthLimit : Nat := 128

/-- The text after the opening bracket of a container, when `depth` more may be open. -/
def openContainer (depth : Nat) (text : List Char) : Except Stop Unit :=
  if depth ≤ 1 then .error (.atNext .nestedTooDeep text) else .ok ()

/-- Read a word that stands for a datum. -/
def readLiteral (word : String) (datum : Datum) (text : List Char) : Read Datum :=
  (readWord word.toList text).map fun rest => (datum, rest)

/-- Go to the next item of an array: its text, or none at the closing bracket, which is left. -/
def nextItem (isFirst : Bool) (text : List Char) : Except Stop (Option (List Char)) :=
  match skipBlank text with
  | [] => .error (.atEnd .endInList)
  | ']' :: _ => .ok none
  | c :: rest =>
    if isFirst then .ok (some (c :: rest))
    else if c = ',' then
      match skipBlank rest with
      | [] => .error (.atEnd .endInValue)
      | ']' :: rest => .error (.atNext .trailingComma (']' :: rest))
      | rest => .ok (some rest)
    else .error (.atNext .expectedListCommaOrEnd (c :: rest))

/-- Go to the next field of an object: the text after the quote that begins its name, or none at
the closing bracket, which is left. -/
def nextField (isFirst : Bool) (text : List Char) : Except Stop (Option (List Char)) :=
  match skipBlank text with
  | [] => .error (.atEnd .endInObject)
  | '\x7d' :: _ => .ok none
  | c :: rest =>
    if isFirst then
      if c = '"' then .ok (some rest) else .error (.atNext .keyNotString (c :: rest))
    else if c = ',' then
      match skipBlank rest with
      | [] => .error (.atEnd .endInValue)
      | '"' :: rest => .ok (some rest)
      | '\x7d' :: rest => .error (.atNext .trailingComma ('\x7d' :: rest))
      | rest => .error (.atNext .keyNotString rest)
    else .error (.atNext .expectedObjectCommaOrEnd (c :: rest))

/-- Pass the colon after a name. -/
def readColon (text : List Char) : Except Stop (List Char) :=
  match skipBlank text with
  | [] => .error (.atEnd .endInObject)
  | ':' :: rest => .ok rest
  | rest => .error (.atNext .expectedColon rest)

/-- Pass the closing bracket of a container, to which `nextItem` or `nextField` has come. -/
def closeContainer (text : List Char) : List Char := (skipBlank text).tail

mutual

/-- Read a value inside which containers may open to the given depth. -/
def readValue : (fuel depth : Nat) → List Char → Read Datum
  | 0, _, _ => .error (.atEnd .endInValue)
  | fuel + 1, depth, text =>
    match skipBlank text with
    | [] => .error (.atEnd .endInValue)
    | '"' :: rest =>
      (readString 0 rest).map fun (text, rest) => (.string (String.ofList text), rest)
    | '[' :: rest =>
      match openContainer depth ('[' :: rest) with
      | .error stop => .error stop
      | .ok () =>
        (readItems fuel (depth - 1) true rest).map fun (items, rest) => (.array items, rest)
    | '\x7b' :: rest =>
      match openContainer depth ('\x7b' :: rest) with
      | .error stop => .error stop
      | .ok () =>
        (readFields fuel (depth - 1) true [] rest).map fun (fields, rest) => (.object fields, rest)
    | 'n' :: rest => readLiteral "ull" .null rest
    | 't' :: rest => readLiteral "rue" (.bool true) rest
    | 'f' :: rest => readLiteral "alse" (.bool false) rest
    | c :: rest =>
      if c = '-' ∨ c.isDigit then
        (readNumber (c :: rest)).map fun (value, rest) => (.number value, rest)
      else .error (.atNext .expectedValue (c :: rest))

/-- Read the items that are left of an array, and its closing bracket. -/
def readItems : (fuel depth : Nat) → (isFirst : Bool) → List Char → Read (List Datum)
  | 0, _, _, _ => .error (.atEnd .endInList)
  | fuel + 1, depth, isFirst, text =>
    match nextItem isFirst text with
    | .error stop => .error stop
    | .ok none => .ok ([], closeContainer text)
    | .ok (some text) =>
      match readValue fuel depth text with
      | .error stop => .error stop
      | .ok (item, rest) =>
        (readItems fuel depth false rest).map fun (items, rest) => (item :: items, rest)

/-- Read the fields that are left of an object, and its closing bracket. -/
def readFields : (fuel depth : Nat) → (isFirst : Bool) → List (String × Datum) → List Char →
    Read (List (String × Datum))
  | 0, _, _, _, _ => .error (.atEnd .endInObject)
  | fuel + 1, depth, isFirst, fields, text =>
    match nextField isFirst text with
    | .error stop => .error stop
    | .ok none => .ok (fields, closeContainer text)
    | .ok (some quoted) =>
      match readString 0 quoted with
      | .error stop => .error stop
      | .ok (name, rest) =>
        match readColon rest with
        | .error stop => .error stop
        | .ok rest =>
          match readValue fuel depth rest with
          | .error stop => .error stop
          | .ok (value, rest) =>
            readFields fuel depth false (insertField (String.ofList name) value fields) rest

end

/-- Fuel that no text of this length uses up: every second call takes a character. -/
def fuelFor (text : List Char) : Nat := 2 * text.length + 2

/-- Read one value. -/
def read (depth : Nat) (text : List Char) : Read Datum := readValue (fuelFor text) depth text

/-- The value that a text consists of. -/
def ofText (text : List Char) : Except Fault Datum :=
  match read depthLimit text with
  | .error stop => .error (stop.fault .text text)
  | .ok (datum, rest) =>
    match readEnd rest with
    | .error stop => .error (stop.fault .text text)
    | .ok () => .ok datum

/-! ## Data as trees -/

mutual

/-- A datum as a tree; every container announces how many members it has. -/
def tree : Datum → Tree
  | null => .scalar .null
  | bool value => .scalar (.bool value)
  | number value => .scalar value.toScalar
  | string text => .scalar (.string text)
  | array items => .array (some items.length) (itemTrees items)
  | object fields => .object (some fields.length) (fieldTrees fields)

/-- The trees of items. -/
def itemTrees : List Datum → List Tree
  | [] => []
  | item :: rest => item.tree :: itemTrees rest

/-- The trees of fields. -/
def fieldTrees : List (String × Datum) → List (String × Tree)
  | [] => []
  | (name, value) :: rest => (name, value.tree) :: fieldTrees rest

end

/-- The events of a datum. -/
def events (datum : Datum) : List Event := datum.tree.events

/-! ## Data as text -/

mutual

/-- A datum as compact JSON. -/
def compact : Datum → String
  | null => "null"
  | bool value => toString value
  | number value => value.text
  | string text => quote text
  | array items => "[" ++ ",".intercalate (compactItems items) ++ "]"
  | object fields => "\x7b" ++ ",".intercalate (compactFields fields) ++ "\x7d"

/-- Items as compact JSON. -/
def compactItems : List Datum → List String
  | [] => []
  | item :: rest => item.compact :: compactItems rest

/-- Fields as compact JSON. -/
def compactFields : List (String × Datum) → List String
  | [] => []
  | (name, value) :: rest => (quote name ++ ":" ++ value.compact) :: compactFields rest

end

/-- Members of a container, each on a line of its own one step further in. -/
def prettyMembers (opening closing : String) (indent : Nat) (members : List String) : String :=
  if members = [] then opening ++ closing
  else
    let line (depth : Nat) := "\n" ++ String.ofList (List.replicate (2 * depth) ' ')
    opening ++ line (indent + 1) ++ ("," ++ line (indent + 1)).intercalate members ++ line indent ++
      closing

mutual

/-- A datum as JSON on several lines, two blanks for each container that is open. -/
def pretty (indent : Nat) : Datum → String
  | null => "null"
  | bool value => toString value
  | number value => value.text
  | string text => quote text
  | array items => prettyMembers "[" "]" indent (prettyItems (indent + 1) items)
  | object fields => prettyMembers "\x7b" "\x7d" indent (prettyFields (indent + 1) fields)

/-- The items of an array, each as JSON on several lines. -/
def prettyItems (indent : Nat) : List Datum → List String
  | [] => []
  | item :: rest => item.pretty indent :: prettyItems indent rest

/-- The fields of an object, each as JSON on several lines. -/
def prettyFields (indent : Nat) : List (String × Datum) → List String
  | [] => []
  | (name, value) :: rest =>
    (quote name ++ ": " ++ value.pretty indent) :: prettyFields indent rest

end

end Datum
end StreamMask.Json
