/-
Decimal notation of natural numbers.
-/
import StreamMask.Power

namespace StreamMask.Text

/-- The value of a decimal digit. -/
def digitValue (c : Char) : Nat := c.toNat - 48

/-- The natural number that digits write after a number that they continue. -/
def digitsValue (start : Nat) (digits : List Char) : Nat :=
  digits.foldl (fun n c => n * 10 + digitValue c) start

/-- The number whose decimal text this is: digits, with no zero in front of others. -/
def natural? : List Char → Option Nat
  | [] => none
  | '0' :: rest => if rest = [] then some 0 else none
  | digits => if digits.all Char.isDigit then some (digitsValue 0 digits) else none

/-- Digits without a plus sign in front of them. -/
def dropPlus : List Char → List Char
  | '+' :: digits => digits
  | digits => digits

/-- The number of at most 64 bits that digits write; a plus sign in front is allowed, and so are
zeros. -/
def word? (text : List Char) : Option Nat :=
  let digits := dropPlus text
  if digits ≠ [] ∧ digits.all Char.isDigit ∧ digitsValue 0 digits < twoTo 64 then
    some (digitsValue 0 digits)
  else none

end StreamMask.Text
