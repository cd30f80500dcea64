/-
Reading JSON from characters: blanks, words, numbers and strings, and the place of
a fault.

Every reader takes the text that is left and gives what it read with what is left
then. A reader that stops tells where: the text from the point that it had come to,
and how many bytes more it had looked at. Text is left when it stops exactly if
its end was not what stopped it.
-/
import StreamMask.Json.Fault
import StreamMask.Text.Utf8

namespace StreamMask.Json

/-- Why and where reading stopped. -/
structure Stop where
  cause : Cause
  rest : List Char
  /-- How many bytes of what is left had been looked at. -/
  ahead : Nat
deriving DecidableEq, Repr

namespace Stop

/-- Stopped by the end of the text. -/
def atEnd (cause : Cause) : Stop := ⟨cause, [], 0⟩

/-- Stopped by the next character. -/
def atNext (cause : Cause) (rest : List Char) : Stop := ⟨cause, rest, 1⟩

end Stop

/-- How characters stand for the bytes of a text. -/
structure Medium where
  /-- How many bytes a character is. -/
  width : Char → Nat
  /-- Whether a control character in a string is passed before it is refused. -/
  passesControl : Bool

namespace Medium

/-- Characters that are encoded as UTF-8. -/
def text : Medium := ⟨Char.utf8Size, false⟩

/-- Characters that are single bytes, taken one by one. -/
def octets : Medium := ⟨fun _ => 1, true⟩

/-- The size of characters in bytes. -/
def size (medium : Medium) (text : List Char) : Nat :=
  text.foldr (fun c size => medium.width c + size) 0

/-- The place that is so many bytes further on, or at the end of the text. -/
def placeFrom (medium : Medium) : Place → Nat → List Char → Place
  | place, _, [] => place
  | place, 0, _ :: _ => place
  | place, bytes + 1, c :: rest =>
    if c = '\n' then medium.placeFrom ⟨place.line + 1, 0⟩ bytes rest
    else
      medium.placeFrom { place with column := place.column + min (bytes + 1) (medium.width c) }
        (bytes + 1 - medium.width c) rest

/-- The place of a byte of a text. -/
def place (medium : Medium) (text : List Char) (bytes : Nat) : Place :=
  medium.placeFrom ⟨1, 0⟩ bytes text

end Medium

/-- The place in a text where its reading stopped. -/
def Stop.place (stop : Stop) (medium : Medium) (text : List Char) : Place :=
  medium.place text (medium.size text - medium.size stop.rest + stop.ahead)

/-- What stopped the reading of a text, as a fault of that text. -/
def Stop.fault (stop : Stop) (medium : Medium) (text : List Char) : Fault :=
  .text stop.cause (some (stop.place medium text))

/-- What one reading step gives: a result, and the text left after it. -/
abbrev Read (α : Type) := Except Stop (α × List Char)

/-! ## Blanks and words -/

def isBlank (c : Char) : Bool := c == ' ' || c == '\n' || c == '\t' || c == '\r'

def skipBlank (text : List Char) : List Char := text.dropWhile isBlank

/-- Read the characters of a word. -/
def readWord : List Char → List Char → Except Stop (List Char)
  | [], text => .ok text
  | _ :: _, [] => .error (.atEnd .endInValue)
  | expected :: word, c :: rest =>
    if c = expected then readWord word rest else .error (.atNext .expectedIdent (c :: rest))

/-- Check that nothing but blanks is left. -/
def readEnd (text : List Char) : Except Stop Unit :=
  match skipBlank text with
  | [] => .ok ()
  | rest => .error (.atNext .trailingCharacters rest)

/-! ## Numbers -/

/-- An exponent as it is written. -/
structure Exponent where
  mark : Char
  sign : Option Char
  digits : List Char
deriving DecidableEq, Repr

/-- A number as it is written. There is a point exactly if there are places after it. -/
structure Numeral where
  negative : Bool
  whole : List Char
  places : List Char
  exponent : Option Exponent
deriving DecidableEq, Repr

def Exponent.text (exponent : Exponent) : List Char :=
  exponent.mark :: (exponent.sign.toList ++ exponent.digits)

namespace Numeral

def text (n : Numeral) : List Char :=
  (if n.negative then ['-'] else []) ++ n.whole ++
    (if n.places = [] then [] else '.' :: n.places) ++ (n.exponent.map Exponent.text).getD []

/-- Whether neither point nor exponent is written. -/
def isWhole (n : Numeral) : Bool := n.places.isEmpty && n.exponent.isNone

end Numeral

/-- Read digits, at least one. -/
def readDigits (text : List Char) : Read (List Char) :=
  match text.takeWhile Char.isDigit with
  | [] => .error (.atNext .invalidNumber text)
  | digits => .ok (digits, text.dropWhile Char.isDigit)

/-- Read the digits before the point; a zero stands alone. -/
def readWhole (text : List Char) : Read (List Char) :=
  match readDigits text with
  | .error stop => .error stop
  | .ok ('0' :: digit :: digits, rest) =>
    .error (.atNext .invalidNumber (digit :: digits ++ rest))
  | .ok (digits, rest) => .ok (digits, rest)

/-- Read a point and the digits after it, if there is a point. -/
def readPlaces : List Char → Read (List Char)
  | '.' :: rest => readDigits rest
  | text => .ok ([], text)

/-- Read the sign of an exponent, if it has one. -/
def readSign : List Char → Option Char × List Char
  | '+' :: rest => (some '+', rest)
  | '-' :: rest => (some '-', rest)
  | text => (none, text)

/-- Read an exponent, if there is one. -/
def readExponent (text : List Char) : Read (Option Exponent) :=
  match text with
  | [] => .ok (none, [])
  | mark :: rest =>
    if mark = 'e' ∨ mark = 'E' then
      let (sign, rest) := readSign rest
      (readDigits rest).map fun (digits, rest) => (some ⟨mark, sign, digits⟩, rest)
    else .ok (none, text)

/-- Read a number after its sign. -/
def readUnsigned (negative : Bool) (text : List Char) : Read Numeral :=
  match readWhole text with
  | .error stop => .error stop
  | .ok (whole, rest) =>
    match readPlaces rest with
    | .error stop => .error stop
    | .ok (places, rest) =>
      (readExponent rest).map fun (exponent, rest) => (⟨negative, whole, places, exponent⟩, rest)

def readNumeral : List Char → Read Numeral
  | '-' :: rest => readUnsigned true rest
  | text => readUnsigned false text

/-! ## Strings -/

/-- The value of a hexadecimal digit. -/
def hexValue? (c : Char) : Option Nat :=
  if '0' ≤ c ∧ c ≤ '9' then some (c.toNat - 48)
  else if 'a' ≤ c ∧ c ≤ 'f' then some (c.toNat - 87)
  else if 'A' ≤ c ∧ c ≤ 'F' then some (c.toNat - 55)
  else none

/-- The number that four hexadecimal digits write. -/
def hexUnit? (a b c d : Char) : Option Nat :=
  match hexValue? a, hexValue? b, hexValue? c, hexValue? d with
  | some a, some b, some c, some d => some (((a * 16 + b) * 16 + c) * 16 + d)
  | _, _, _, _ => none

/-- Four bytes are taken before they are looked at. -/
def Stop.inUnit (medium : Medium) (text : List Char) : Stop :=
  if medium.size text < 4 then .atEnd .endInString else ⟨.invalidEscape, text, 4⟩

/-- Read the four digits of a `\u` escape. -/
def readUnit (medium : Medium) (text : List Char) : Read Nat :=
  match text with
  | a :: b :: c :: d :: rest =>
    match hexUnit? a b c d with
    | some unit => .ok (unit, rest)
    | none => .error (.inUnit medium text)
  | _ => .error (.inUnit medium text)

/-- The character that a letter stands for after a backslash. -/
def simpleEscape? : Char → Option Char
  | '"' => some '"'
  | '\\' => some '\\'
  | '/' => some '/'
  | 'b' => some '\x08'
  | 'f' => some '\x0c'
  | 'n' => some '\n'
  | 'r' => some '\r'
  | 't' => some '\t'
  | _ => none

/-- How many characters an escape has after its backslash. Whether it stands for a character is
left open. -/
def escapeLength (medium : Medium) : List Char → Except Stop Nat
  | [] => .error (.atEnd .endInString)
  | 'u' :: rest => (readUnit medium rest).map fun _ => 5
  | c :: rest =>
    match simpleEscape? c with
    | some _ => .ok 1
    | none => .error (.atNext .invalidEscape (c :: rest))

/-- Pass over a string after its opening quote: the text after its closing quote. The first `skip`
characters are passed unseen. -/
def skipString (medium : Medium) : (skip : Nat) → List Char → Except Stop (List Char)
  | _, [] => .error (.atEnd .endInString)
  | skip + 1, _ :: rest => skipString medium skip rest
  | 0, c :: rest =>
    if c = '"' then .ok rest
    else if c = '\\' then
      match escapeLength medium rest with
      | .error stop => .error stop
      | .ok length => skipString medium length rest
    else if c.toNat < 0x20 then
      .error ⟨.controlCharacter, c :: rest, if medium.passesControl then 1 else 0⟩
    else skipString medium 0 rest

/-- Read the second half of a pair of units, which follows as an escape of its own: the character
of the pair. -/
def readPair (high : Nat) : List Char → Except Stop Char
  | [] => .error (.atEnd .endInString)
  | '\\' :: [] => .error (.atEnd .endInString)
  | '\\' :: 'u' :: rest =>
    match readUnit .text rest with
    | .error stop => .error stop
    | .ok (low, rest) =>
      if 0xDC00 ≤ low ∧ low ≤ 0xDFFF then
        .ok (Char.ofNat (0x10000 + (high - 0xD800) * 0x400 + (low - 0xDC00)))
      else .error ⟨.loneSurrogate, rest, 0⟩
  | '\\' :: rest => .error (.atNext .endOfHexEscape rest)
  | rest => .error (.atNext .endOfHexEscape rest)

/-- The character that an escape stands for, and how many characters the escape has after its
backslash. -/
def readEscape : List Char → Except Stop (Char × Nat)
  | [] => .error (.atEnd .endInString)
  | 'u' :: rest =>
    match readUnit .text rest with
    | .error stop => .error stop
    | .ok (unit, rest) =>
      if 0xDC00 ≤ unit ∧ unit ≤ 0xDFFF then .error ⟨.loneSurrogate, rest, 0⟩
      else if 0xD800 ≤ unit ∧ unit ≤ 0xDBFF then (readPair unit rest).map fun c => (c, 11)
      else .ok (Char.ofNat unit, 5)
  | c :: rest =>
    match simpleEscape? c with
    | some char => .ok (char, 1)
    | none => .error (.atNext .invalidEscape (c :: rest))

/-- Read a string after its opening quote. The first `skip` characters are passed unseen. -/
def readString : (skip : Nat) → List Char → Read (List Char)
  | _, [] => .error (.atEnd .endInString)
  | skip + 1, _ :: rest => readString skip rest
  | 0, c :: rest =>
    if c = '"' then .ok ([], rest)
    else if c = '\\' then
      match readEscape rest with
      | .error stop => .error stop
      | .ok (char, length) =>
        (readString length rest).map fun (text, rest) => (char :: text, rest)
    else if c.toNat < 0x20 then .error (.atNext .controlCharacter (c :: rest))
    else (readString 0 rest).map fun (text, rest) => (c :: text, rest)

end StreamMask.Json
