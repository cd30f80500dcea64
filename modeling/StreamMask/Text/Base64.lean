/-
Bytes as text of sixty-four characters, four for three bytes, padded at the end.
-/
import StreamMask.Power

namespace StreamMask.Text

/-- The character for six bits. -/
def base64Char (n : Nat) : Char :=
  if n < 26 then Char.ofNat (65 + n)
  else if n < 52 then Char.ofNat (97 + (n - 26))
  else if n < 62 then Char.ofNat (48 + (n - 52))
  else if n = 62 then '+' else '/'

/-- The characters for bytes, three at a time. -/
def base64Chars : List UInt8 → List Char
  | [] => []
  | [a] =>
    let n := a.toNat * twoTo 16
    [base64Char (n / twoTo 18), base64Char (n / twoTo 12 % 64), '=', '=']
  | [a, b] =>
    let n := a.toNat * twoTo 16 + b.toNat * twoTo 8
    [base64Char (n / twoTo 18), base64Char (n / twoTo 12 % 64), base64Char (n / twoTo 6 % 64), '=']
  | a :: b :: c :: rest =>
    let n := a.toNat * twoTo 16 + b.toNat * twoTo 8 + c.toNat
    base64Char (n / twoTo 18) :: base64Char (n / twoTo 12 % 64) :: base64Char (n / twoTo 6 % 64) ::
      base64Char (n % 64) :: base64Chars rest

def base64 (bytes : List UInt8) : String := String.ofList (base64Chars bytes)

end StreamMask.Text
