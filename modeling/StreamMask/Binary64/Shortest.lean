/-
The fewest decimal digits that read back as the same number.

The reals that round to a finite number form an interval around it, whose ends
belong to it if its significand is even. For one digit, two, and so on, the two
neighbours of the number on the grid of that many digits are tested; the first
grid with a neighbour in the interval gives the digits.
-/
import StreamMask.Binary64.Basic
import StreamMask.Power

namespace StreamMask

/-- The value `coefficient * 10 ^ scale`. -/
structure Decimal where
  coefficient : Nat
  scale : Int
deriving DecidableEq, Repr

/-- What to do with a value halfway between two decimals. -/
inductive Tie where
  | toEven
  | up
deriving DecidableEq, Repr

namespace Decimal

/-- The same value with no zero at the end of the coefficient. -/
def strip (d : Decimal) : Decimal :=
  if h : 0 < d.coefficient ∧ d.coefficient % 10 = 0 then
    strip ⟨d.coefficient / 10, d.scale + 1⟩
  else d
termination_by d.coefficient
decreasing_by omega

/-- The exponent `e` for which `10 ^ e ≤ num / den < 10 ^ (e + 1)`, both being positive. -/
def decade (num den : Nat) : Int :=
  if den ≤ num then (Binary64.digitCount (num / den) : Int) - 1
  else
    let k := Binary64.digitCount (den / num)
    if num * tenTo (k - 1) = den then -((k : Int) - 1) else -(k : Int)

end Decimal

namespace Binary64

/-- The reals that round to a number, scaled by a power of ten: those from `low / den` to
`high / den`, and `value / den` is the number itself. -/
structure Interval where
  value : Nat
  low : Nat
  high : Nat
  den : Nat
  closed : Bool

/-- The interval of a finite positive number. Below a power of two the numbers lie twice as
close. -/
def interval (x : Binary64) : Interval where
  value := 4 * x.significand * twoTo x.unit
  low := (4 * x.significand - if x.fraction = 0 ∧ 1 < x.exponentField then 1 else 2) * twoTo x.unit
  high := (4 * x.significand + 2) * twoTo x.unit
  den := 4 * twoTo 1074
  closed := x.significand % 2 = 0

namespace Interval

/-- The interval of the reals times `10 ^ power`. -/
def scale (i : Interval) (power : Int) : Interval :=
  if 0 ≤ power then
    let k := tenTo power.toNat
    { i with value := i.value * k, low := i.low * k, high := i.high * k }
  else { i with den := i.den * tenTo (-power).toNat }

def contains (i : Interval) (n : Nat) : Bool :=
  if i.closed then i.low ≤ n * i.den && n * i.den ≤ i.high
  else i.low < n * i.den && n * i.den < i.high

/-- The whole number in the interval that is nearest to the value, if one of the two around the
value is in it. -/
def hit? (i : Interval) (tie : Tie) : Option Nat :=
  let n := i.value / i.den
  match i.contains n, i.contains (n + 1) with
  | false, false => none
  | true, false => some n
  | false, true => some (n + 1)
  | true, true =>
    let below := i.value - n * i.den
    let above := (n + 1) * i.den - i.value
    if below < above then some n
    else if above < below then some (n + 1)
    else match tie with
      | .up => some (n + 1)
      | .toEven => if n % 2 = 0 then some n else some (n + 1)

end Interval

/-- The shortest decimal of a finite positive number, looking at the grids of `count` digits and
up; the grid of seventeen digits always has a hit. -/
def shortestFrom (i : Interval) (tie : Tie) (top : Int) (count : Nat) : Decimal :=
  let scale := top + 1 - count
  match (i.scale (-scale)).hit? tie with
  | some n => Decimal.strip ⟨n, scale⟩
  | none => if count < 17 then shortestFrom i tie top (count + 1) else ⟨i.value / i.den, 0⟩
termination_by 17 - count

/-- The shortest decimal that reads back as the finite positive number, the nearest of those. -/
def shortest (x : Binary64) (tie : Tie) : Decimal :=
  let i := x.interval
  shortestFrom i tie (Decimal.decade i.value i.den) 1

end Binary64
end StreamMask
