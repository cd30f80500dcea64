/-
Scalars, the values without members that a document carries, and masks, the
scalars that are written in their place.
-/
import StreamMask.Binary64.Layout
import StreamMask.Power
import StreamMask.Text.Quoted

namespace StreamMask

/-- A value without members. -/
inductive Scalar where
  | string (text : String)
  | integer (value : Int64)
  | float (value : Binary64)
  /-- A whole number beyond 64 bits, as its digits. -/
  | bigInteger (digits : String)
  /-- A number that no float reproduces, as its text. -/
  | bigDecimal (digits : String)
  | bool (value : Bool)
  | null
  /-- JSON that is written as it stands. -/
  | raw (json : String)
  | binary (bytes : List UInt8)
deriving DecidableEq, Repr, Inhabited

/-- What is written in place of a masked value. -/
inductive Mask where
  | null
  | bool (value : Bool)
  | integer (value : Int64)
  | float (value : Binary64)
  | string (text : String)
deriving DecidableEq, Repr

namespace Scalar

/-- The integer as text in decimal notation. -/
def integerText (value : Int64) : String := toString value.toInt

/-- A natural number: an integer if 64 bits with a sign hold it, its digits otherwise. -/
def ofNat (n : Nat) : Scalar :=
  if n < twoTo 63 then .integer (Int64.ofNat n) else .bigInteger (toString n)

/-- What value rules look at; only strings and numbers have it. -/
def text? : Scalar → Option String
  | string text => some text
  | integer value => some (integerText value)
  | float value => some (Layout.plain.render value)
  | bigInteger digits => some digits
  | bigDecimal digits => some digits
  | bool _ | null | raw _ | binary _ => none

/-- Whether nothing may ever look inside the scalar. -/
def isOpaque : Scalar → Bool
  | raw _ | binary _ => true
  | _ => false

/-- Whether value rules are consulted about the scalar. -/
def isMaskable : Scalar → Bool
  | string _ | integer _ | float _ | bigInteger _ | bigDecimal _ => true
  | bool _ | null | raw _ | binary _ => false

/-- The name of the kind of scalar. -/
def kind : Scalar → String
  | string _ => "string"
  | integer _ => "integer"
  | float _ => "float"
  | bigInteger _ => "big_integer"
  | bigDecimal _ => "big_decimal"
  | bool _ => "bool"
  | null => "null"
  | raw _ => "raw"
  | binary _ => "binary"

/-- Whether two scalars are of one kind and equal, floats by their numeric value. -/
def agrees : Scalar → Scalar → Bool
  | float x, float y => x.agrees y
  | a, b => a = b

theorem isMaskable_iff_text? (value : Scalar) : value.isMaskable = value.text?.isSome := by
  cases value <;> rfl

end Scalar

namespace Mask

/-- The mask of rules that do not name one. -/
def standard : Mask := .string "****"

instance : Inhabited Mask := ⟨standard⟩

/-- The scalar that is written for a mask. -/
def toScalar : Mask → Scalar
  | null => .null
  | bool value => .bool value
  | integer value => .integer value
  | float value => .float value
  | string text => .string text

/-- Whether two masks are of one kind and equal, floats by their numeric value. -/
def agrees : Mask → Mask → Bool
  | float x, float y => x.agrees y
  | a, b => a = b

/-- The replacement that a textual mask is. -/
def template? : Mask → Option String
  | string text => some text
  | _ => none

/-- The mask as shown to a reader; text is quoted. -/
def display : Mask → String
  | null => "null"
  | bool value => toString value
  | integer value => Scalar.integerText value
  | float value => Layout.plain.render value
  | string text => Text.quote text

end Mask
end StreamMask
