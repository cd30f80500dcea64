/-
Blank characters: those with the property White_Space.
-/
namespace StreamMask.Text

/-- Whether a character is white space: the controls from tab to carriage return, next line, and
the separators of words, lines and paragraphs. -/
def isBlank (c : Char) : Bool :=
  let n := c.toNat
  (9 ≤ n && n ≤ 13) || n == 0x20 || n == 0x85 || n == 0xA0 || n == 0x1680 ||
    (0x2000 ≤ n && n ≤ 0x200A) || n == 0x2028 || n == 0x2029 || n == 0x202F || n == 0x205F ||
    n == 0x3000

/-- Characters without the blank ones at both ends. -/
def trimChars (text : List Char) : List Char :=
  ((text.dropWhile isBlank).reverse.dropWhile isBlank).reverse

/-- Text without the blank characters at both ends. -/
def trim (text : String) : String := String.ofList (trimChars text.toList)

/-- Whether the text holds nothing but blank characters. -/
def isAllBlank (text : String) : Bool := text.toList.all isBlank

end StreamMask.Text
