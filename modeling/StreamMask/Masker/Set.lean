/-
Masker sets: all that decides what is masked in a document.
-/
import StreamMask.Masker.Field
import StreamMask.Masker.Value

namespace StreamMask

/-- How many maskers of each sort a set has. -/
structure MaskerCounts where
  nameSets : Nat := 0
  /-- All names of the name sets. -/
  names : Nat := 0
  paths : Nat := 0
  regexes : Nat := 0
  customFields : Nat := 0
  customValues : Nat := 0
deriving DecidableEq, Repr

/-- Maskers in the order in which they are asked. -/
structure MaskerSet where
  fieldMaskers : List FieldMasker := []
  valueMaskers : List ValueMasker := []
  counts : MaskerCounts := {}

namespace MaskerSet

/-- The set that masks nothing. -/
def empty : MaskerSet := {}

instance : Inhabited MaskerSet := ⟨empty⟩

def isEmpty (set : MaskerSet) : Bool := set.fieldMaskers.isEmpty && set.valueMaskers.isEmpty

/-- The mask for the field at the position. -/
def fieldMask (set : MaskerSet) (position : Position) : Except Failure (Option Mask) :=
  FieldMasker.firstMask set.fieldMaskers position

/-- What is written for a scalar at a position. Only strings and numbers are ever changed, and a
result equal to the scalar is the scalar itself. -/
def maskScalar (set : MaskerSet) (position : Position) (value : Scalar) : Except Failure Scalar :=
  if value.isMaskable then
    (ValueMasker.chain set.valueMaskers position value).map fun masked =>
      if masked.agrees value then value else masked
  else .ok value

end MaskerSet
end StreamMask
