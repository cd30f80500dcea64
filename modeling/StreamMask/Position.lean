/-
Where a stream of events stands: the open containers, and how far each has come.

A position follows the document itself, whether or not any of it is written, so
paths are matched against the real place. Each operation either moves on or
names the imbalance that it found, and then nothing has moved.
-/
import StreamMask.Event
import StreamMask.Path.Escape

namespace StreamMask

/-- An open container. An object knows the field whose value is in progress, an array the index of
the item in progress or next to come. -/
inductive Frame where
  | object (pending : Option String)
  | array (index : Nat)
deriving DecidableEq, Repr

/-- Ways in which events fail to nest. -/
inductive Imbalance where
  | endOutside (kind : Container)
  | endMismatch (kind actual : Container)
  | endWhilePending
  /-- A field name in an array, or outside every container. -/
  | fieldOutside (name : String) (actual : Option Container)
  | fieldWhilePending (name : String)
  /-- A container, or else a scalar, in an object that has no pending name. -/
  | valueWithoutName (value : Option Container)
  | openAtEnd (count : Nat) (pointer : String)
  | maskedAtEnd (depth : Nat)
deriving DecidableEq, Repr

namespace Imbalance

def message : Imbalance → String
  | endOutside kind => "end_" ++ kind.name ++ " with no open container"
  | endMismatch kind actual => "end_" ++ kind.name ++ " closes an open " ++ actual.name
  | endWhilePending => "end_object while a field value is pending"
  | fieldOutside name actual =>
    "field name " ++ Text.quote name ++ " outside an object (in " ++
      (actual.map Container.name).getD "root" ++ ")"
  | fieldWhilePending name =>
    "field name " ++ Text.quote name ++ " while a previous field value is pending"
  | valueWithoutName value =>
    ((value.map fun kind => "begin_" ++ kind.name).getD "scalar") ++
      " inside an object without a field name"
  | openAtEnd count pointer =>
    "document ended with " ++ toString count ++ " open container(s) at " ++ pointer
  | maskedAtEnd depth => "document ended with mask depth " ++ toString depth

end Imbalance

namespace Frame

def kind : Frame → Container
  | object _ => .object
  | array _ => .array

/-- A container that has just been opened. -/
def opened : Container → Frame
  | .object => object none
  | .array => array 0

/-- The field whose value is in progress. -/
def name? : Frame → Option String
  | object pending => pending
  | array _ => none

/-- The item in progress. -/
def index? : Frame → Option Nat
  | object _ => none
  | array index => some index

/-- Whether the frame addresses a field or an item. -/
def hasPosition : Frame → Bool
  | object pending => pending.isSome
  | array _ => true

/-- The frame after the value in progress is complete. -/
def complete : Frame → Frame
  | object _ => object none
  | array index => array (index + 1)

/-- The step from the container to the member in progress, as part of a pointer. -/
def step : Frame → String
  | object none => ""
  | object (some name) => "/" ++ Path.escape name
  | array index => "/" ++ toString index

end Frame

/-- The open containers, the innermost first. -/
structure Position where
  frames : List Frame
deriving DecidableEq, Repr

namespace Position

/-- Outside every container. -/
def root : Position := ⟨[]⟩

instance : Inhabited Position := ⟨root⟩

def depth (p : Position) : Nat := p.frames.length

def isRoot (p : Position) : Bool := p.frames.isEmpty

/-- The innermost container. -/
def current? (p : Position) : Option Frame := p.frames.head?

/-- The name of the field in progress in the innermost container. -/
def name? (p : Position) : Option String := p.current?.bind Frame.name?

/-- The place as a path from the root. -/
def pointer (p : Position) : String := String.join (p.frames.reverse.map Frame.step)

/-- Whether a value may come next. -/
def checkValue (p : Position) (value : Option Container) : Except Imbalance Unit :=
  match p.frames with
  | .object none :: _ => .error (.valueWithoutName value)
  | _ => .ok ()

/-- Open a container. -/
def enter (p : Position) (kind : Container) : Except Imbalance Position :=
  match p.checkValue (some kind) with
  | .error fault => .error fault
  | .ok () => .ok ⟨Frame.opened kind :: p.frames⟩

/-- The position after the value in progress is complete. -/
def complete (p : Position) : Position :=
  match p.frames with
  | [] => p
  | frame :: rest => ⟨frame.complete :: rest⟩

/-- Close the innermost container. -/
def leave (p : Position) (kind : Container) : Except Imbalance Position :=
  match p.frames with
  | [] => .error (.endOutside kind)
  | frame :: rest =>
    if frame.kind ≠ kind then .error (.endMismatch kind frame.kind)
    else if kind = .object ∧ frame.hasPosition then .error .endWhilePending
    else .ok (complete ⟨rest⟩)

/-- Take the name of the next field. -/
def enterField (p : Position) (name : String) : Except Imbalance Position :=
  match p.frames with
  | [] => .error (.fieldOutside name none)
  | .array _ :: _ => .error (.fieldOutside name (some .array))
  | .object (some _) :: _ => .error (.fieldWhilePending name)
  | .object none :: rest => .ok ⟨.object (some name) :: rest⟩

/-- The position after an event. -/
def advance (p : Position) : Event → Except Imbalance Position
  | .beginObject _ => p.enter .object
  | .beginArray _ => p.enter .array
  | .endObject => p.leave .object
  | .endArray => p.leave .array
  | .field name => p.enterField name
  | .scalar _ => (p.checkValue none).map fun _ => p.complete
  | .flush => .ok p

end Position
end StreamMask
