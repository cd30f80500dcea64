/-
Field maskers: whether the value of the field at a position is masked.

A field masker is asked right after the name of a field has come, before anything
is known about its value. The first masker with an answer decides.
-/
import StreamMask.Failure

namespace StreamMask

/-- Fields with one of several names, at any depth, and their mask. No name is in it twice. -/
structure NameSet where
  names : List String
  mask : Mask
deriving DecidableEq, Repr

namespace NameSet

/-- Add a name, unless it is there already. -/
def insert (set : NameSet) (name : String) : NameSet :=
  if set.names.contains name then set else { set with names := set.names ++ [name] }

/-- The set of names that may repeat. -/
def ofNames (names : List String) (mask : Mask) : NameSet := names.foldl insert ⟨[], mask⟩

def mask? (set : NameSet) (position : Position) : Option Mask :=
  match position.name? with
  | some name => if set.names.contains name then some set.mask else none
  | none => none

end NameSet

/-- Fields that a path selects, and their mask. -/
structure PathMasker where
  pattern : Pattern
  mask : Mask
deriving DecidableEq, Repr

namespace PathMasker

/-- Read the path of a masker. -/
def parse (path : String) (mask : Mask) : Except Failure PathMasker :=
  match Pattern.parse path with
  | .error fault => .error (.invalidPath path fault)
  | .ok pattern => .ok ⟨pattern, mask⟩

def mask? (masker : PathMasker) (position : Position) : Option Mask :=
  if masker.pattern.fits position then some masker.mask else none

/-- Whether two maskers select the same fields in the same way and write equal masks. -/
def agrees (a b : PathMasker) : Bool := a.pattern = b.pattern && a.mask.agrees b.mask

end PathMasker

/-- What decides whether a field is masked. -/
inductive FieldMasker where
  | names (set : NameSet)
  | path (masker : PathMasker)
  /-- A masker supplied from outside. It may fail, and its failure is passed on as it is. -/
  | custom (decide : Position → Except Failure (Option Mask))

namespace FieldMasker

/-- The mask for the field at the position, if it is to be masked. -/
def mask : FieldMasker → Position → Except Failure (Option Mask)
  | names set, position => .ok (set.mask? position)
  | path masker, position => .ok (masker.mask? position)
  | custom decide, position => decide position

/-- The answer of the first masker that has one; a failure before it is final. -/
def firstMask : List FieldMasker → Position → Except Failure (Option Mask)
  | [], _ => .ok none
  | masker :: rest, position =>
    match masker.mask position with
    | .error failure => .error failure
    | .ok (some mask) => .ok (some mask)
    | .ok none => firstMask rest position

end FieldMasker
end StreamMask
