/-
Decimal texts as floating-point numbers, correctly rounded.
-/
import StreamMask.Binary64.Basic
import StreamMask.Text.Digits

namespace StreamMask

namespace Binary64

/-- Read the exponent part: nothing, or `e` with a sign or not and digits. -/
def readExponent : List Char → Option Int
  | [] => some 0
  | c :: rest =>
    if c = 'e' ∨ c = 'E' then
      let (negative, digits) := match rest with
        | '-' :: digits => (true, digits)
        | '+' :: digits => (false, digits)
        | digits => (false, digits)
      if digits ≠ [] ∧ digits.all Char.isDigit then
        let n : Int := Text.digitsValue 0 digits
        some (if negative then -n else n)
      else none
    else none

/-- Read digits, with or without a point among or around them, and an exponent. -/
def readUnsigned (negative : Bool) (text : List Char) : Option Binary64 :=
  let whole := text.takeWhile Char.isDigit
  let rest := text.dropWhile Char.isDigit
  let (places, rest) := match rest with
    | '.' :: rest => (rest.takeWhile Char.isDigit, rest.dropWhile Char.isDigit)
    | rest => ([], rest)
  if whole = [] ∧ places = [] then none
  else (readExponent rest).map fun e =>
    ofDecimal negative (Text.digitsValue (Text.digitsValue 0 whole) places) (e - places.length)

/-- The number nearest to what a decimal text says. -/
def ofText? (text : List Char) : Option Binary64 :=
  match text with
  | '-' :: rest => readUnsigned true rest
  | '+' :: rest => readUnsigned false rest
  | rest => readUnsigned false rest

end Binary64
end StreamMask
