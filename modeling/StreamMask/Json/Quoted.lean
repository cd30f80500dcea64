/-
Strings of JSON: text between double quotes.
-/
namespace StreamMask.Json

/-- A digit of hexadecimal notation. -/
def hexDigit (n : Nat) : Char := if n < 10 then Char.ofNat (48 + n) else Char.ofNat (87 + n)

/-- One character inside quotes: quotes, backslashes and control characters are escaped, all others
stand for themselves. -/
def quoteChar (c : Char) : List Char :=
  match c with
  | '"' => ['\\', '"']
  | '\\' => ['\\', '\\']
  | '\x08' => ['\\', 'b']
  | '\x0c' => ['\\', 'f']
  | '\n' => ['\\', 'n']
  | '\r' => ['\\', 'r']
  | '\t' => ['\\', 't']
  | c =>
    if c.toNat < 0x20 then
      ['\\', 'u', '0', '0', hexDigit (c.toNat / 16), hexDigit (c.toNat % 16)]
    else [c]

/-- The characters of a JSON string, quotes included. -/
def quoteChars (text : List Char) : List Char := '"' :: text.flatMap quoteChar ++ ['"']

/-- Text as a JSON string. -/
def quote (text : String) : String := String.ofList (quoteChars text.toList)

end StreamMask.Json
