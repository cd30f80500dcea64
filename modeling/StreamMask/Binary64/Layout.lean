/-
The two ways in which floating-point numbers are written: as JSON and plainly.
-/
import StreamMask.Binary64.Shortest

namespace StreamMask

/-- How the shortest digits of a number become text. -/
structure Layout where
  /-- Whether a number whose first digit counts `10 ^ e` is written without an exponent. -/
  positional : Int → Bool
  /-- What follows a whole number. -/
  wholeEnd : String
  tie : Tie
  nan : String
  infinity : String
  negativeInfinity : String

namespace Layout

/-- JSON has a point or an exponent in every float, an exponent only outside `10 ^ -5` to
`10 ^ 16`, and null for what is not finite. -/
def json : Layout where
  positional e := -5 ≤ e && e < 16
  wholeEnd := ".0"
  tie := .toEven
  nan := "null"
  infinity := "null"
  negativeInfinity := "null"

/-- Plain text never has an exponent, and a point only where digits follow it. -/
def plain : Layout where
  positional _ := true
  wholeEnd := ""
  tie := .up
  nan := "NaN"
  infinity := "inf"
  negativeInfinity := "-inf"

def zeros (n : Nat) : String := String.ofList (List.replicate n '0')

/-- Digits without an exponent, the first of them counting `10 ^ e`. -/
def placed (layout : Layout) (digits : List Char) (e : Int) : String :=
  if e < 0 then "0." ++ zeros ((-e).toNat - 1) ++ String.ofList digits
  else
    let whole := e.toNat + 1
    if digits.length ≤ whole then
      String.ofList digits ++ zeros (whole - digits.length) ++ layout.wholeEnd
    else String.ofList (digits.take whole) ++ "." ++ String.ofList (digits.drop whole)

/-- Digits with an exponent, which always has a sign. -/
def withExponent (digits : List Char) (e : Int) : String :=
  let mantissa := match digits with
    | first :: second :: rest => String.ofList (first :: '.' :: second :: rest)
    | _ => String.ofList digits
  mantissa ++ "e" ++ (if e < 0 then "-" else "+") ++ toString e.natAbs

/-- The text of a decimal. -/
def decimal (layout : Layout) (d : Decimal) : String :=
  let digits := Nat.toDigits 10 d.coefficient
  let e := d.scale + digits.length - 1
  if layout.positional e then layout.placed digits e else withExponent digits e

/-- The text of a number. -/
def render (layout : Layout) (x : Binary64) : String :=
  if x.isNaN then layout.nan
  else if x.isInfinite then if x.negative then layout.negativeInfinity else layout.infinity
  else
    (if x.negative then "-" else "") ++
      if x.isZero then layout.placed ['0'] 0 else layout.decimal (x.shortest layout.tie)

end Layout
end StreamMask
