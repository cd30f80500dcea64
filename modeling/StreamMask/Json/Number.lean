/-
What a JSON number is worth, in two ways.

As a scalar, a number keeps its text: it is an integer or a float only where that
would be written in just the same way. As a `Number`, it is worth an integer of 64
bits where one holds it and a float otherwise, and the text is gone. That float is
computed in steps that each round, not in one.
-/
import StreamMask.Binary64.Reading
import StreamMask.Json.Reading
import StreamMask.Power
import StreamMask.Scalar

namespace StreamMask

/-! ## Numbers that keep their text -/

/-- The integer of 64 bits whose decimal text this is. -/
def Json.integer? (text : List Char) : Option Int64 :=
  match text with
  | '-' :: digits =>
    match Text.natural? digits with
    | some (n + 1) => if n + 1 ≤ twoTo 63 then some (Int64.ofInt (-(n + 1 : Nat))) else none
    | _ => none
  | digits =>
    match Text.natural? digits with
    | some n => if n < twoTo 63 then some (Int64.ofNat n) else none
    | none => none

/-- The scalar of a number. -/
def Scalar.ofNumeral (n : Json.Numeral) : Scalar :=
  match Json.integer? n.text with
  | some value => .integer value
  | none =>
    let text := String.ofList n.text
    if n.isWhole then .bigInteger text
    else
      match Binary64.ofText? n.text with
      | none => .bigDecimal text
      | some value =>
        if value.isFinite ∧ Layout.json.render value = text then .float value else .bigDecimal text

namespace Json

/-! ## Numbers without their text -/

/-- A number: an integer, or else a float. -/
inductive Number where
  | natural (value : UInt64)
  /-- An integer below zero. -/
  | negative (value : Int64)
  | float (value : Binary64)
deriving DecidableEq, Repr, Inhabited

/-- Take in digits while sixty-four bits hold the result: the result and the digits left. -/
def accumulate (start : Nat) : List Char → Nat × List Char
  | [] => (start, [])
  | c :: rest =>
    let next := start * 10 + Text.digitValue c
    if next < twoTo 64 then accumulate next rest else (start, c :: rest)

/-- The greatest size of an exponent. -/
def maxExponent : Nat := twoTo 31 - 1

/-- The number that the digits of an exponent write, or the digits left after it became too
great. -/
def readScale (start : Nat) : List Char → Except (List Char) Nat
  | [] => .ok start
  | c :: rest =>
    let next := start * 10 + Text.digitValue c
    if maxExponent < next then .error rest else readScale next rest

/-- Scale a number by a power of ten in steps of at most 308; none if the result is too great. Two
full steps down make zero of every number that digits give, so `steps` need not be many. -/
def scaleBy : (steps : Nat) → Binary64 → Int → Option Binary64
  | 0, x, _ => some x
  | steps + 1, x, exponent =>
    if exponent.natAbs ≤ 308 then
      let power := Binary64.ofDecimal false 1 exponent.natAbs
      if 0 ≤ exponent then
        let y := x.mul power
        if y.isInfinite then none else some y
      else some (x.div power)
    else if x.isZero then some x
    else if 0 ≤ exponent then none
    else scaleBy steps (x.div (.ofDecimal false 1 308)) (exponent + 308)

/-- The float with these leading digits, scale and sign. -/
def floatFrom (negative : Bool) (significand : Nat) (scale : Int) : Option Binary64 :=
  (scaleBy 4 (.ofNat significand) scale).map fun x => if negative then x.neg else x

/-- A whole number. Zero with a sign is a float, as is what an integer of 64 bits does not hold. -/
def Number.ofWhole (negative : Bool) (n : Nat) : Number :=
  if negative then
    if 0 < n ∧ n ≤ twoTo 63 then .negative (Int64.ofInt (-(n : Int)))
    else .float (Binary64.ofNat n).neg
  else .natural (UInt64.ofNat n)

/-- What a numeral is worth. A number that is too great gives the digits that were not looked
at. -/
def Numeral.number (n : Numeral) : Except (List Char) Number :=
  let (significand, wholeLeft) := accumulate 0 n.whole
  if n.isWhole ∧ wholeLeft = [] then .ok (.ofWhole n.negative significand)
  else
    let (significand, placesLeft) := accumulate significand n.places
    let scale : Int := wholeLeft.length - (n.places.length - placesLeft.length : Nat)
    let float (scale : Int) : Except (List Char) Number :=
      match floatFrom n.negative significand scale with
      | some x => .ok (.float x)
      | none => .error []
    match n.exponent with
    | none => float scale
    | some exponent =>
      let isNegative := exponent.sign = some '-'
      match readScale 0 exponent.digits with
      | .ok e => float (if isNegative then scale - e else scale + e)
      | .error left =>
        if significand ≠ 0 ∧ !isNegative then .error left
        else .ok (.float (if n.negative then Binary64.zero.neg else .zero))

/-- Read a number for what it is worth. -/
def readNumber (text : List Char) : Read Number :=
  match readNumeral text with
  | .error stop => .error (if stop.rest = [] then .atEnd .endInValue else stop)
  | .ok (numeral, rest) =>
    match numeral.number with
    | .error left => .error ⟨.numberOutOfRange, left ++ rest, 0⟩
    | .ok number => .ok (number, rest)

end Json
end StreamMask
