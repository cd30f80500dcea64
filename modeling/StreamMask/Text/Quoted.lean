/-
Text shown between double quotes, as in messages: whatever would not be seen as
itself is written as an escape.
-/
import StreamMask.Unicode.Recent

namespace StreamMask.Text

/-- The lower-case hexadecimal digits of a number. -/
def hexDigits (n : Nat) : String := String.ofList (Nat.toDigits 16 n)

/-- An escape that gives the character's code point. -/
def codeEscape (c : Char) : String := "\\u\x7b" ++ hexDigits c.toNat ++ "\x7d"

/-- One character inside quotes. Marks that would join the character before them are escaped. -/
def quoteChar (c : Char) : String :=
  match c with
  | '\x00' => "\\0"
  | '\t' => "\\t"
  | '\r' => "\\r"
  | '\n' => "\\n"
  | '"' => "\\\""
  | '\\' => "\\\\"
  | _ =>
    if c.toNat < 0x7F then if c.toNat < 0x20 then codeEscape c else c.toString
    else if Unicode.isJoining c then codeEscape c
    else if Unicode.isShown c then c.toString
    else codeEscape c

/-- Text between double quotes. -/
def quote (text : String) : String :=
  "\"" ++ String.join (text.toList.map quoteChar) ++ "\""

end StreamMask.Text
