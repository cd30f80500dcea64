/-
Masks as JSON: a mask is any value without members.
-/
import StreamMask.Json.Datum
import StreamMask.Power

namespace StreamMask

/-- The mask that a datum is. An integer is one if 64 bits with a sign hold it, and a float
otherwise. -/
def Mask.ofDatum? : Json.Datum → Option Mask
  | .null => some .null
  | .bool value => some (.bool value)
  | .number (.natural value) =>
    some (if value.toNat < twoTo 63 then .integer (Int64.ofNat value.toNat)
      else .float (.ofNat value.toNat))
  | .number (.negative value) => some (.integer value)
  | .number (.float value) => some (.float value)
  | .string text => some (.string text)
  | .array _ | .object _ => none

/-- The mask that a text consists of. -/
def Mask.ofText (text : List Char) : Except Json.Fault Mask :=
  match Json.Datum.read Json.Datum.depthLimit text with
  | .error stop => .error (stop.fault .text text)
  | .ok (datum, rest) =>
    match Mask.ofDatum? datum with
    | none => .error (.text (.noVariant "MaskValue") none)
    | some mask =>
      match Json.readEnd rest with
      | .error stop => .error (stop.fault .text text)
      | .ok () => .ok mask

end StreamMask
