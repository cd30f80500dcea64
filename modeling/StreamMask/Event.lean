/-
The events that a document consists of, in document order, and documents as trees
with the events they are streamed as.
-/
import StreamMask.Scalar

namespace StreamMask

/-- One step of a document. A container may announce how many members it has. -/
inductive Event where
  | beginObject (hint : Option Nat)
  | endObject
  | beginArray (hint : Option Nat)
  | endArray
  /-- The name of a field; its value follows. -/
  | field (name : String)
  | scalar (value : Scalar)
  /-- Pass on what has been held back; not part of the document. -/
  | flush
deriving DecidableEq, Repr, Inhabited

/-- The two kinds of container. -/
inductive Container where
  | object
  | array
deriving DecidableEq, Repr

namespace Container

def name : Container → String
  | object => "object"
  | array => "array"

/-- The event that opens a container. -/
def opening (hint : Option Nat) : Container → Event
  | object => .beginObject hint
  | array => .beginArray hint

/-- The event that closes a container. -/
def closing : Container → Event
  | object => .endObject
  | array => .endArray

end Container

/-- A document as a tree. Field names may repeat. -/
inductive Tree where
  | scalar (value : Scalar)
  | array (hint : Option Nat) (items : List Tree)
  | object (hint : Option Nat) (fields : List (String × Tree))
deriving Repr, Inhabited

namespace Tree

mutual

/-- The events of a tree, in document order. -/
def events : Tree → List Event
  | scalar value => [.scalar value]
  | array hint items => .beginArray hint :: itemEvents items ++ [.endArray]
  | object hint fields => .beginObject hint :: fieldEvents fields ++ [.endObject]

/-- The events of the items of an array. -/
def itemEvents : List Tree → List Event
  | [] => []
  | item :: rest => item.events ++ itemEvents rest

/-- The events of the fields of an object. -/
def fieldEvents : List (String × Tree) → List Event
  | [] => []
  | (name, value) :: rest => .field name :: value.events ++ fieldEvents rest

end

end Tree
end StreamMask
