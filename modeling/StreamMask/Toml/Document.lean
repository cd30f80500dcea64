/-
TOML documents: keys, values, and the lines that they stand on.
-/
import StreamMask.Toml.Lexical

namespace StreamMask.Toml

/-! ## Keys -/

/-- Whether a character may stand in a key without quotes. -/
def isBare (c : Char) : Bool := c.isAlphanum || c == '_' || c == '-'

/-- Read one part of a key. -/
def readPart : Reader String := fun text =>
  let chars? := match text with
    | '"' :: rest => readQuoted 0 rest
    | '\'' :: rest => readLiteral rest
    | text =>
      match text.takeWhile isBare with
      | [] => none
      | name => some (name, text.dropWhile isBare)
  chars?.map fun (chars, rest) => (String.ofList chars, rest)

/-- How many steps there may be down into a document. -/
def maxDepth : Nat := 79

/-- Read a key of at most `room` parts, with points between them. -/
def readKey : (room : Nat) → Reader (List String)
  | 0, _ => none
  | room + 1, text =>
    match readPart (skipBlank text) with
    | none => none
    | some (part, rest) =>
      match skipBlank rest with
      | '.' :: rest => (readKey room rest).map fun (parts, rest) => (part :: parts, rest)
      | rest => some ([part], rest)

/-! ## Values -/

mutual

/-- Read a value inside which arrays and tables may open to the given depth. -/
def readValue : (fuel depth : Nat) → Reader Node
  | 0, _, _ => none
  | fuel + 1, depth, text =>
    match text with
    | [] => none
    | '"' :: _ => (readString text).map fun (text, rest) => (.string text, rest)
    | '\'' :: _ => (readString text).map fun (text, rest) => (.string text, rest)
    | '[' :: rest =>
      if depth = 0 then none
      else (readItems fuel (depth - 1) (skipSpace false rest)).map fun (items, rest) =>
        (.array items, rest)
    | '\x7b' :: rest =>
      if depth = 0 then none
      else
        match skipBlank rest with
        | '\x7d' :: rest => some (.table .inlined [], rest)
        | _ =>
          (readFields fuel (depth - 1) [] rest).map fun (entries, rest) =>
            (.table .inlined entries, rest)
    | 't' :: 'r' :: 'u' :: 'e' :: rest => some (.bool true, rest)
    | 'f' :: 'a' :: 'l' :: 's' :: 'e' :: rest => some (.bool false, rest)
    | text =>
      match time? text with
      | some rest => some (.time, rest)
      | none => readNumber text

/-- Read the items that are left of an array, and its closing bracket. -/
def readItems : (fuel depth : Nat) → Reader (List Node)
  | 0, _, _ => none
  | fuel + 1, depth, text =>
    match text with
    | ']' :: rest => some ([], rest)
    | text =>
      match readValue fuel depth text with
      | none => none
      | some (item, rest) =>
        match skipSpace false rest with
        | ',' :: rest =>
          (readItems fuel depth (skipSpace false rest)).map fun (items, rest) =>
            (item :: items, rest)
        | ']' :: rest => some ([item], rest)
        | _ => none

/-- Read the fields that are left of a table on one line, at least one, and its closing bracket. -/
def readFields : (fuel depth : Nat) → Entries → Reader Entries
  | 0, _, _, _ => none
  | fuel + 1, depth, entries, text =>
    match readKey maxDepth text with
    | some (key, '=' :: rest) =>
      match readValue fuel depth (skipBlank rest) with
      | none => none
      | some (value, rest) =>
        match entries.insert value key with
        | none => none
        | some entries =>
          match skipBlank rest with
          | ',' :: rest => readFields fuel depth entries rest
          | '\x7d' :: rest => some (entries, rest)
          | _ => none
    | _ => none

end

/-! ## Lines -/

/-- What has been read of a document: its tables, and the header that keys belong to. -/
structure Draft where
  root : Entries
  header : List String

/-- Read a line with a header after its opening bracket; `isItem` tells whether a second bracket
begins a table among others of its header. -/
def Draft.readHeader (draft : Draft) (isItem : Bool) (text : List Char) :
    Option (Draft × List Char) := do
  let (key, rest) ← readKey maxDepth text
  let rest ← pass? ']' rest
  let rest ← if isItem then pass? ']' rest else some rest
  let rest ← endLine? rest
  let name ← key.getLast?
  let change := if isItem then Entries.addTable name else Entries.define name
  let root ← draft.root.enter change key.dropLast
  some (⟨root, key⟩, rest)

/-- Read a line with a key and its value. -/
def Draft.readEntry (draft : Draft) (text : List Char) : Option (Draft × List Char) := do
  let (key, rest) ← readKey maxDepth text
  let rest ← pass? '=' rest
  let (value, rest) ← readValue (2 * text.length + 2) maxDepth (skipBlank rest)
  let rest ← endLine? rest
  let root ← draft.root.enter (·.insert value key) draft.header
  some ({ draft with root := root }, rest)

/-- Read a line that is not blank. -/
def Draft.readLine (draft : Draft) : List Char → Option (Draft × List Char)
  | '#' :: rest => (endLine? ('#' :: rest)).map fun rest => (draft, rest)
  | '[' :: '[' :: rest => draft.readHeader true rest
  | '[' :: rest => draft.readHeader false rest
  | text =>
    match newline? text with
    | some rest => some (draft, rest)
    | none => draft.readEntry text

/-- Read the lines that are left. -/
def Draft.readLines : (fuel : Nat) → Draft → List Char → Option Entries
  | 0, _, _ => none
  | fuel + 1, draft, text =>
    match skipBlank text with
    | [] => some draft.root
    | text =>
      match draft.readLine text with
      | none => none
      | some (draft, rest) => Draft.readLines fuel draft rest

/-- The document that a text consists of. A mark of byte order at its start is passed. -/
def Entries.ofText? (text : List Char) : Option Entries :=
  let text := match text with
    | '\uFEFF' :: rest => rest
    | text => text
  Draft.readLines (text.length + 1) ⟨[], []⟩ text

end StreamMask.Toml
