/-
A journal: the lines of the entries that come while spans are opened and closed.

A journal is told what happens. It keeps the fields of every span, and writes a line for
every entry. An entry whose line cannot be made is dropped as a whole, and counted.
-/
import StreamMask.Log.Line

namespace StreamMask.Log

/-- What a journal is told. The program that is logged has a number for each of its spans, and says
which of them an entry lies in. -/
inductive Happening where
  /-- There is a new span. Fields that are declared may have a value or not yet. -/
  | created (id : Nat) (name : String) (fields : List (String × Option Scalar))
  /-- There are values for fields of a span. -/
  | recorded (id : Nat) (values : Fields)
  | entered (id : Nat)
  | exited (id : Nat)
  /-- There is an entry, in these spans, the outermost first. -/
  | logged (stamp : String) (entry : Entry) (scope : List Nat)

structure Journal where
  set : MaskerSet
  /-- The spans by their numbers, the latest first. -/
  known : List (Nat × Span)
  /-- The spans that are entered, the innermost first. -/
  entered : List Nat
  /-- The lines so far. -/
  lines : List String
  /-- How many entries have no line. -/
  dropped : Nat

namespace Journal

/-- A journal with nothing in it. -/
def start (set : MaskerSet) : Journal := ⟨set, [], [], [], 0⟩

/-- The spans with these numbers. -/
def find (journal : Journal) (ids : List Nat) : List Span := ids.filterMap fun id => journal.known.lookup id

/-- Tell the journal what happens. -/
def take (journal : Journal) : Happening → Journal
  | .created id name fields =>
    let values := fields.filterMap fun (name, value?) => value?.map fun value => (name, value)
    let span : Span := ⟨name, fields.map (·.1), values⟩
    { journal with known := (id, span) :: journal.known }
  | .recorded id values =>
    let record := fun (id', span) => (id', if id' = id then span.record values else span)
    { journal with known := journal.known.map record }
  | .entered id => { journal with entered := id :: journal.entered }
  | .exited id => { journal with entered := journal.entered.erase id }
  | .logged stamp entry scope =>
    match entry.line journal.set stamp (journal.find scope) with
    | .ok line => { journal with lines := journal.lines ++ [line] }
    | .error _ => { journal with dropped := journal.dropped + 1 }

/-- The bytes that have been written. -/
def written (journal : Journal) : List UInt8 :=
  journal.lines.flatMap fun line => line.toUTF8.data.toList

/-! ## Spans that lie in one another

A program of one thread enters each span as it is created, and an entry lies in all spans that are
entered. -/

/-- The spans that are entered, the innermost first. -/
def spans (journal : Journal) : List Span := journal.find journal.entered

/-- Create a span and enter it. -/
def openSpan (journal : Journal) (name : String) (fields : List (String × Option Scalar)) :
    Journal :=
  let id := journal.known.length
  (journal.take (.created id name fields)).take (.entered id)

/-- Record values on the innermost span. -/
def record (journal : Journal) (values : Fields) : Journal :=
  match journal.entered with
  | [] => journal
  | id :: _ => journal.take (.recorded id values)

/-- Exit the innermost span. -/
def closeSpan (journal : Journal) : Journal :=
  match journal.entered with
  | [] => journal
  | id :: _ => journal.take (.exited id)

/-- Log an entry in all spans that are entered. -/
def enter (journal : Journal) (stamp : String) (entry : Entry) : Journal :=
  journal.take (.logged stamp entry journal.entered.reverse)

end Journal
end StreamMask.Log
