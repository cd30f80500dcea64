/-
TOML documents as tables, and how keys and headers extend them.

A table may be defined once. What has come about on the way to a key or a header
is not defined yet: a header may define it later, or dotted keys go on in it,
depending on what brought it about.
-/
import StreamMask.Binary64.Basic

namespace StreamMask.Toml

/-- How a table came about. -/
inductive Origin where
  /-- As a step on the way to a header. -/
  | implied
  /-- As a step on the way to a dotted key. -/
  | dotted
  /-- By its own header. -/
  | header
  /-- As a value, complete in itself. -/
  | inlined
deriving DecidableEq, Repr

/-- A value or a table. -/
inductive Node where
  | string (text : String)
  | integer (value : Int64)
  | float (value : Binary64)
  | bool (value : Bool)
  /-- A date, a time or both. Which one makes no difference here. -/
  | time
  | array (items : List Node)
  | table (origin : Origin) (entries : List (String × Node))
  /-- Tables that share a header, in order. -/
  | tables (items : List (List (String × Node)))
deriving Inhabited

/-- The entries of a table, no name twice. -/
abbrev Entries := List (String × Node)

namespace Entries

/-- Change the entry of a name, or what takes its place while there is none. -/
def alter (name : String) (change : Option Node → Option Node) : Entries → Option Entries
  | [] => (change none).map fun node => [(name, node)]
  | (name', node) :: rest =>
    if name' = name then (change (some node)).map fun node => (name', node) :: rest
    else (alter name change rest).map ((name', node) :: ·)

/-- Change the last of several tables. -/
def alterLast (change : Entries → Option Entries) : List Entries → Option (List Entries)
  | [] => none
  | [last] => (change last).map ([·])
  | first :: rest => (alterLast change rest).map (first :: ·)

/-- Change the table that a header names; of tables that share a header, the last is meant. -/
def enter (change : Entries → Option Entries) : (header : List String) → Entries → Option Entries
  | [], entries => change entries
  | name :: header, entries =>
    alter name (fun
      | none => (enter change header []).map (.table .implied)
      | some (.table .inlined _) => none
      | some (.table origin entries) => (enter change header entries).map (.table origin)
      | some (.tables items) => (alterLast (enter change header) items).map .tables
      | some _ => none) entries

/-- Define a table by its header. -/
def define (name : String) : Entries → Option Entries :=
  alter name fun
    | none => some (.table .header [])
    | some (.table .implied entries) => some (.table .header entries)
    | some _ => none

/-- Add a table to those that share a header. -/
def addTable (name : String) : Entries → Option Entries :=
  alter name fun
    | none => some (.tables [[]])
    | some (.tables items) => some (.tables (items ++ [[]]))
    | some _ => none

/-- Give a key, which may be dotted, a value. A table that holds the last part of a dotted key must
have come about by dotted keys alone; the tables before it may also be implied by headers. -/
def insert (value : Node) : (key : List String) → Entries → Option Entries
  | [], _ => none
  | [name], entries =>
    alter name (fun
      | none => some value
      | some _ => none) entries
  | name :: next :: key, entries =>
    alter name (fun
      | none => (insert value (next :: key) []).map (.table .dotted)
      | some (.table .dotted entries) => (insert value (next :: key) entries).map (.table .dotted)
      | some (.table .implied entries) =>
        if key = [] then none else (insert value (next :: key) entries).map (.table .implied)
      | some (.tables items) =>
        if key = [] then none else (alterLast (insert value (next :: key)) items).map .tables
      | some _ => none) entries

end Entries
end StreamMask.Toml
