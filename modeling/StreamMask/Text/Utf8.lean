/-
Text as bytes: one byte for a character below 0x80, two to four for any other.
-/
namespace StreamMask.Text

/-- The bits that a byte after the first adds to a code point. -/
def tailBits? (b : UInt8) : Option Nat :=
  if 0x80 ≤ b.toNat ∧ b.toNat < 0xC0 then some (b.toNat - 0x80) else none

/-- The character with this code point, if there is one and no fewer bytes could write it. -/
def charFrom? (least n : Nat) : Option Char :=
  if least ≤ n ∧ n.isValidChar then some (Char.ofNat n) else none

/-- The character that two bytes write. -/
def twoBytes? (a b : UInt8) : Option Char :=
  if 0xC0 ≤ a.toNat ∧ a.toNat < 0xE0 then
    (tailBits? b).bind fun b => charFrom? 0x80 ((a.toNat - 0xC0) * 64 + b)
  else none

/-- The character that three bytes write. -/
def threeBytes? (a b c : UInt8) : Option Char :=
  if 0xE0 ≤ a.toNat ∧ a.toNat < 0xF0 then
    (tailBits? b).bind fun b => (tailBits? c).bind fun c =>
      charFrom? 0x800 (((a.toNat - 0xE0) * 64 + b) * 64 + c)
  else none

/-- The character that four bytes write. -/
def fourBytes? (a b c d : UInt8) : Option Char :=
  if 0xF0 ≤ a.toNat ∧ a.toNat < 0xF8 then
    (tailBits? b).bind fun b => (tailBits? c).bind fun c => (tailBits? d).bind fun d =>
      charFrom? 0x10000 ((((a.toNat - 0xF0) * 64 + b) * 64 + c) * 64 + d)
  else none

/-- One more character in front. -/
def push (char : Char) (decoded : List Char × List UInt8) : List Char × List UInt8 :=
  (char :: decoded.1, decoded.2)

/-- The characters that bytes write, up to the first byte that begins none, and the bytes from
there on. -/
def decode : List UInt8 → List Char × List UInt8
  | [] => ([], [])
  | a :: rest =>
    if a.toNat < 0x80 then push (Char.ofNat a.toNat) (decode rest)
    else
      match rest with
      | [] => ([], [a])
      | b :: rest =>
        match twoBytes? a b with
        | some char => push char (decode rest)
        | none =>
          match rest with
          | [] => ([], [a, b])
          | c :: rest =>
            match threeBytes? a b c with
            | some char => push char (decode rest)
            | none =>
              match rest with
              | [] => ([], [a, b, c])
              | d :: rest =>
                match fourBytes? a b c d with
                | some char => push char (decode rest)
                | none => ([], a :: b :: c :: d :: rest)

/-- The text that bytes write, if they do. -/
def ofBytes? (bytes : List UInt8) : Option String :=
  match decode bytes with
  | (text, []) => some (String.ofList text)
  | (_, _ :: _) => none

/-- Each byte as the character with its number. -/
def octets (bytes : List UInt8) : List Char := bytes.map fun b => Char.ofNat b.toNat

/-- The size of text in bytes. -/
def byteSize (text : List Char) : Nat := text.foldr (fun c size => c.utf8Size + size) 0

/-- The text after so many bytes, unless they end within a character. -/
def dropBytes? : Nat → List Char → Option (List Char)
  | 0, text => some text
  | _ + 1, [] => none
  | n + 1, c :: rest => if c.utf8Size ≤ n + 1 then dropBytes? (n + 1 - c.utf8Size) rest else none

/-- The text of the first so many bytes, unless they end within a character. -/
def takeBytes? : Nat → List Char → Option (List Char)
  | 0, _ => some []
  | _ + 1, [] => none
  | n + 1, c :: rest =>
    if c.utf8Size ≤ n + 1 then (takeBytes? (n + 1 - c.utf8Size) rest).map (c :: ·) else none

/-- The text between two places, which are counted in bytes. -/
def cut? (text : List Char) (start stop : Nat) : Option (List Char) :=
  (dropBytes? start text).bind (takeBytes? (stop - start))

end StreamMask.Text
