/-
Binary floating-point numbers of 64 bits, by their bits.

A finite number is `± significand * 2 ^ unit / 2 ^ 1074`, so its magnitude is a
natural number of units of `2 ^ -1074`. Operations give the exact result, as a
quotient of natural numbers, rounded to the nearest number, ties to the even
significand. Nothing here goes through a machine's own floating-point arithmetic.
-/
import StreamMask.Power

namespace StreamMask

/-- A floating-point number: a sign bit, eleven exponent bits, fifty-two fraction bits. -/
structure Binary64 where
  bits : UInt64
deriving DecidableEq, Repr, Inhabited

namespace Binary64

def word (x : Binary64) : Nat := x.bits.toNat

def negative (x : Binary64) : Bool := twoTo 63 ≤ x.word

def exponentField (x : Binary64) : Nat := x.word / twoTo 52 % 2048

def fraction (x : Binary64) : Nat := x.word % twoTo 52

def isFinite (x : Binary64) : Bool := x.exponentField != 2047

def isInfinite (x : Binary64) : Bool := x.exponentField == 2047 && x.fraction == 0

def isNaN (x : Binary64) : Bool := x.exponentField == 2047 && x.fraction != 0

def significand (x : Binary64) : Nat :=
  if x.exponentField = 0 then x.fraction else x.fraction + twoTo 52

/-- The exponent of two that the significand counts, from `2 ^ -1074` up. -/
def unit (x : Binary64) : Nat := x.exponentField - 1

/-- The absolute value of a finite number, in units of `2 ^ -1074`. -/
def magnitude (x : Binary64) : Nat := x.significand * twoTo x.unit

def isZero (x : Binary64) : Bool := x.exponentField == 0 && x.fraction == 0

/-- Numeric equality: a number that is not a number equals nothing, and both zeros are equal. -/
def agrees (x y : Binary64) : Bool :=
  !x.isNaN && !y.isNaN && (x.bits == y.bits || (x.isZero && y.isZero))

/-- The number with this sign, significand and unit. -/
def assemble (negative : Bool) (significand unit : Nat) : Binary64 :=
  ⟨UInt64.ofNat ((if negative then twoTo 63 else 0) +
    if significand < twoTo 52 then significand
    else (unit + 1) * twoTo 52 + (significand - twoTo 52))⟩

def zero : Binary64 := assemble false 0 0

def infinity (negative : Bool) : Binary64 := assemble negative (twoTo 52) 2046

def nan : Binary64 := assemble false (twoTo 52 + twoTo 51) 2046

/-- The number with its sign turned. -/
def neg (x : Binary64) : Binary64 :=
  ⟨UInt64.ofNat (if x.word < twoTo 63 then x.word + twoTo 63 else x.word - twoTo 63)⟩

/-! ## Rounding -/

/-- The whole number nearest to `a / d`, a tie going to the even one. -/
def nearest (a d : Nat) : Nat :=
  let q := a / d
  let r := a % d
  if 2 * r < d then q
  else if d < 2 * r then q + 1
  else if q % 2 = 0 then q else q + 1

/-- The unit of the binade of `a / d`: its significand at that unit has fifty-three binary digits,
or fewer if the unit is the least one. -/
def binade (a d : Nat) : Nat :=
  let p := a.log2 - d.log2 - 52
  if a < d * twoTo (p + 52) then p - 1 else p

/-- The number nearest to `a / d` units of `2 ^ -1074`; infinite from half a unit past the greatest
finite number on. -/
def round (negative : Bool) (a d : Nat) : Binary64 :=
  let p := binade a d
  let m := nearest a (d * twoTo p)
  let (m, p) := if m = twoTo 53 then (twoTo 52, p + 1) else (m, p)
  if 2045 < p then infinity negative else assemble negative m p

def ofNat (n : Nat) : Binary64 := round false (n * twoTo 1074) 1

/-- The product of two finite numbers. -/
def mul (x y : Binary64) : Binary64 :=
  round (x.negative != y.negative) (x.magnitude * y.magnitude) (twoTo 1074)

/-- The quotient of two finite numbers, the second not zero. -/
def div (x y : Binary64) : Binary64 :=
  round (x.negative != y.negative) (x.magnitude * twoTo 1074) y.magnitude

/-- How many decimal digits a natural number has. -/
def digitCount (n : Nat) : Nat := (Nat.toDigits 10 n).length

/-- The number nearest to `± coefficient * 10 ^ scale`. Values that are beyond the range whatever
their digits are settled first, so that no power grows out of bounds. -/
def ofDecimal (negative : Bool) (coefficient : Nat) (scale : Int) : Binary64 :=
  let top := scale + digitCount coefficient
  if coefficient = 0 ∨ top < -330 then assemble negative 0 0
  else if 310 < top then infinity negative
  else if 0 ≤ scale then round negative (coefficient * tenTo scale.toNat * twoTo 1074) 1
  else round negative (coefficient * twoTo 1074) (tenTo (-scale).toNat)

end Binary64
end StreamMask
