/-
The smallest parts of TOML: blanks, comments, strings, numbers and times.

A reader takes the text that is left and gives what it read with the text left
then, or nothing if the text does not go on as it should.
-/
import StreamMask.Binary64.Reading
import StreamMask.Power
import StreamMask.Toml.Table

namespace StreamMask.Toml

/-- A reader of one thing. -/
abbrev Reader (α : Type) := List Char → Option (α × List Char)

/-! ## Blanks, lines and comments -/

def isBlank (c : Char) : Bool := c == ' ' || c == '\t'

/-- Whether a character may stand for itself in a comment or a string: no control character but
the tab may. -/
def isPlain (c : Char) : Bool := c == '\t' || (0x20 ≤ c.toNat && c.toNat != 0x7F)

def skipBlank (text : List Char) : List Char := text.dropWhile isBlank

/-- The text after a line end. -/
def newline? : List Char → Option (List Char)
  | '\n' :: rest => some rest
  | '\r' :: '\n' :: rest => some rest
  | _ => none

/-- Pass a comment, if there is one. -/
def skipComment : List Char → List Char
  | '#' :: rest => rest.dropWhile isPlain
  | text => text

/-- Pass blanks, a comment, and the line end or the end of the text. -/
def endLine? (text : List Char) : Option (List Char) :=
  match skipComment (skipBlank text) with
  | [] => some []
  | rest => newline? rest

/-- Pass blanks, line ends and comments. -/
def skipSpace (inComment : Bool) : List Char → List Char
  | [] => []
  | c :: rest =>
    if inComment && isPlain c then skipSpace true rest
    else if isBlank c || c == '\n' then skipSpace false rest
    else if c == '\r' && rest.head? == some '\n' then skipSpace false rest
    else if c == '#' then skipSpace true rest
    else c :: rest

/-- Pass blanks and line ends. -/
def skipLines : List Char → List Char
  | [] => []
  | c :: rest =>
    if isBlank c || c == '\n' then skipLines rest
    else if c == '\r' && rest.head? == some '\n' then skipLines rest
    else c :: rest

/-! ## Strings -/

/-- The value of a digit of a notation with up to sixteen digits. -/
def digitOf? (base : Nat) (c : Char) : Option Nat :=
  let value? :=
    if '0' ≤ c ∧ c ≤ '9' then some (c.toNat - 48)
    else if 'a' ≤ c ∧ c ≤ 'f' then some (c.toNat - 87)
    else if 'A' ≤ c ∧ c ≤ 'F' then some (c.toNat - 55)
    else none
  value?.filter (· < base)

/-- The number that digits write. -/
def valueOf (base : Nat) (digits : List Char) : Nat :=
  digits.foldl (fun n c => n * base + (digitOf? base c).getD 0) 0

/-- The character whose code point the first `count` characters write. -/
def codePoint? (count : Nat) (text : List Char) : Option Char :=
  let digits := text.take count
  if digits.length = count ∧ digits.all (fun c => (digitOf? 16 c).isSome) then
    let n := valueOf 16 digits
    if n.isValidChar then some (Char.ofNat n) else none
  else none

/-- The character that an escape stands for, and how many characters the escape has after its
backslash. -/
def escape? : List Char → Option (Char × Nat)
  | 'u' :: rest => (codePoint? 4 rest).map fun c => (c, 5)
  | 'U' :: rest => (codePoint? 8 rest).map fun c => (c, 9)
  | 'b' :: _ => some ('\x08', 1)
  | 't' :: _ => some ('\t', 1)
  | 'n' :: _ => some ('\n', 1)
  | 'f' :: _ => some ('\x0c', 1)
  | 'r' :: _ => some ('\r', 1)
  | '"' :: _ => some ('"', 1)
  | '\\' :: _ => some ('\\', 1)
  | _ => none

/-- Put a character in front of what was read. -/
def push (c : Char) (read : Option (List Char × List Char)) : Option (List Char × List Char) :=
  read.map fun (text, rest) => (c :: text, rest)

/-- Read a string after its opening quote. The first `skip` characters are passed unseen. -/
def readQuoted : (skip : Nat) → Reader (List Char)
  | _, [] => none
  | skip + 1, _ :: rest => readQuoted skip rest
  | 0, c :: rest =>
    if c = '"' then some ([], rest)
    else if c = '\\' then
      match escape? rest with
      | none => none
      | some (char, length) => push char (readQuoted length rest)
    else if isPlain c then push c (readQuoted 0 rest)
    else none

/-- Read a string without escapes after its opening quote. -/
def readLiteral : Reader (List Char)
  | [] => none
  | c :: rest =>
    if c = '\'' then some ([], rest)
    else if isPlain c then push c (readLiteral rest)
    else none

/-- How many quotes come next, five at most. -/
def quoteCount (quote : Char) (text : List Char) : Nat :=
  ((text.take 5).takeWhile (· == quote)).length

/-- After a backslash, how many characters belong to a line end that is to be ignored with all
blanks and line ends around it. -/
def ignoredLength? (text : List Char) : Option Nat :=
  (newline? (skipBlank text)).map fun rest => text.length - (skipLines rest).length

/-- Read a string of several lines after its opening quotes. It ends with three quotes, of which
one or two more before them are part of it. The first `skip` characters are passed unseen. -/
def readLines (quote : Char) (escapes : Bool) : (skip : Nat) → Reader (List Char)
  | _, [] => none
  | skip + 1, _ :: rest => readLines quote escapes skip rest
  | 0, c :: rest =>
    if c = quote ∧ 3 ≤ quoteCount quote (c :: rest) then
      let count := quoteCount quote (c :: rest)
      some (List.replicate (count - 3) quote, (c :: rest).drop count)
    else if escapes && c == '\\' then
      match ignoredLength? rest with
      | some length => readLines quote escapes length rest
      | none =>
        match escape? rest with
        | none => none
        | some (char, length) => push char (readLines quote escapes length rest)
    else if c = '\n' then push '\n' (readLines quote escapes 0 rest)
    else if c == '\r' && rest.head? == some '\n' then push '\n' (readLines quote escapes 1 rest)
    else if isPlain c then push c (readLines quote escapes 0 rest)
    else none

/-- Pass a line end, if there is one. -/
def skipNewline (text : List Char) : List Char := (newline? text).getD text

/-- Read a string of any kind. -/
def readString : Reader String := fun text =>
  let chars? := match text with
    | '"' :: '"' :: '"' :: rest => readLines '"' true 0 (skipNewline rest)
    | '\'' :: '\'' :: '\'' :: rest => readLines '\'' false 0 (skipNewline rest)
    | '"' :: rest => readQuoted 0 rest
    | '\'' :: rest => readLiteral rest
    | _ => none
  chars?.map fun (chars, rest) => (String.ofList chars, rest)

/-! ## Numbers -/

/-- Read what comes after the first digit: digits, and underscores that stand between digits. -/
def readMoreDigits (base : Nat) : List Char → List Char × List Char
  | [] => ([], [])
  | c :: rest =>
    if (digitOf? base c).isSome then
      let (digits, rest) := readMoreDigits base rest
      (c :: digits, rest)
    else if c = '_' then
      match rest with
      | [] => ([], [c])
      | d :: rest =>
        if (digitOf? base d).isSome then
          let (digits, rest) := readMoreDigits base rest
          (d :: digits, rest)
        else ([], c :: d :: rest)
    else ([], c :: rest)

/-- Read digits, at least one. -/
def readDigits (base : Nat) : Reader (List Char)
  | [] => none
  | c :: rest =>
    if (digitOf? base c).isSome then
      let (digits, rest) := readMoreDigits base rest
      some (c :: digits, rest)
    else none

/-- Read the digits before a point; a zero stands alone. -/
def readWhole : Reader (List Char)
  | '0' :: rest => some (['0'], rest)
  | text => readDigits 10 text

/-- Read a sign, if there is one: whether it is a minus. -/
def readSign : List Char → Bool × List Char
  | '-' :: rest => (true, rest)
  | '+' :: rest => (false, rest)
  | text => (false, text)

/-- Read an exponent: its digits with their sign. -/
def readExponent : Reader (List Char) := fun text =>
  match text with
  | [] => none
  | c :: rest =>
    if c = 'e' ∨ c = 'E' then
      let (negative, rest) := readSign rest
      (readDigits 10 rest).map fun (digits, rest) =>
        ('e' :: (if negative then ['-'] else []) ++ digits, rest)
    else none

/-- Read what makes a number a float: an exponent, or a point with digits and maybe an exponent. -/
def readFloatEnd : Reader (List Char)
  | '.' :: rest =>
    match readDigits 10 rest with
    | none => none
    | some (places, rest) =>
      match rest with
      | [] => some ('.' :: places, [])
      | c :: _ =>
        if c = 'e' ∨ c = 'E' then
          (readExponent rest).map fun (exponent, rest) => ('.' :: places ++ exponent, rest)
        else some ('.' :: places, rest)
  | text => readExponent text

/-- An integer, if 64 bits hold it. -/
def integer? (negative : Bool) (n : Nat) : Option Node :=
  if negative then if n ≤ twoTo 63 then some (.integer (Int64.ofInt (-(n : Int)))) else none
  else if n < twoTo 63 then some (.integer (Int64.ofNat n)) else none

/-- A float, unless it is too great. One too far below zero is minus infinity. -/
def float? (negative : Bool) (text : List Char) : Option Node :=
  match Binary64.ofText? text with
  | none => none
  | some value =>
    if value.isInfinite ∧ !negative then none
    else some (.float (if negative then value.neg else value))

/-- Read an integer in a notation other than the decimal. -/
def readInBase (base : Nat) : Reader Node := fun text =>
  (readDigits base text).bind fun (digits, rest) =>
    (integer? false (valueOf base digits)).map fun node => (node, rest)

/-- Read a decimal number after its sign. -/
def readDecimal (negative : Bool) : Reader Node := fun text =>
  match readWhole text with
  | none => none
  | some (whole, rest) =>
    match rest with
    | [] => (integer? negative (valueOf 10 whole)).map fun node => (node, [])
    | c :: _ =>
      if c = '.' ∨ c = 'e' ∨ c = 'E' then
        (readFloatEnd rest).bind fun (more, rest) =>
          (float? negative (whole ++ more)).map fun node => (node, rest)
      else (integer? negative (valueOf 10 whole)).map fun node => (node, rest)

/-- Read a number. -/
def readNumber : Reader Node := fun text =>
  match text with
  | '0' :: 'x' :: rest => readInBase 16 rest
  | '0' :: 'o' :: rest => readInBase 8 rest
  | '0' :: 'b' :: rest => readInBase 2 rest
  | text =>
    let (negative, unsigned) := readSign text
    match unsigned with
    | 'i' :: 'n' :: 'f' :: rest => some (.float (.infinity negative), rest)
    | 'n' :: 'a' :: 'n' :: rest =>
      some (.float (if negative then Binary64.nan.neg else .nan), rest)
    | unsigned => readDecimal negative unsigned

/-! ## Times -/

/-- Read a number of exactly `count` digits within bounds. -/
def readField (count least greatest : Nat) : Reader Nat := fun text =>
  let digits := text.take count
  if digits.length = count ∧ digits.all Char.isDigit then
    let n := valueOf 10 digits
    if least ≤ n ∧ n ≤ greatest then some (n, text.drop count) else none
  else none

/-- Pass one character. -/
def pass? (c : Char) : List Char → Option (List Char)
  | [] => none
  | c' :: rest => if c' = c then some rest else none

/-- How many days a month has. -/
def daysIn (year month : Nat) : Nat :=
  if month = 2 then
    if year % 4 = 0 ∧ (year % 100 ≠ 0 ∨ year % 400 = 0) then 29 else 28
  else if month = 4 ∨ month = 6 ∨ month = 9 ∨ month = 11 then 30
  else 31

/-- Pass a date. -/
def date? (text : List Char) : Option (List Char) := do
  let (year, rest) ← readField 4 0 9999 text
  let (month, rest) ← readField 2 1 12 (← pass? '-' rest)
  let (day, rest) ← readField 2 1 31 (← pass? '-' rest)
  if day ≤ daysIn year month then some rest else none

/-- Pass a fraction of a second, if there is a point. -/
def fraction? : List Char → Option (List Char)
  | '.' :: rest =>
    match rest.takeWhile Char.isDigit with
    | [] => none
    | _ => some (rest.dropWhile Char.isDigit)
  | text => some text

/-- Pass a time of day. -/
def timeOfDay? (text : List Char) : Option (List Char) := do
  let (_, rest) ← readField 2 0 23 text
  let (_, rest) ← readField 2 0 59 (← pass? ':' rest)
  let (_, rest) ← readField 2 0 60 (← pass? ':' rest)
  fraction? rest

/-- Pass the offset of a time zone, if there is one. -/
def offset? (text : List Char) : Option (List Char) :=
  match text with
  | [] => some []
  | c :: rest =>
    if c = 'Z' ∨ c = 'z' then some rest
    else if c = '+' ∨ c = '-' then do
      let (_, rest) ← readField 2 0 23 rest
      let (_, rest) ← readField 2 0 59 (← pass? ':' rest)
      some rest
    else some text

/-- Pass a time of day and an offset after a date, if they follow it. -/
def timeAfterDate? (text : List Char) : Option (List Char) :=
  match text with
  | [] => some []
  | c :: rest =>
    if c = 'T' ∨ c = 't' ∨ c = ' ' then
      match timeOfDay? rest with
      | some rest => offset? rest
      | none => if c = ' ' then some text else none
    else some text

/-- Pass a date, a time or both. -/
def time? (text : List Char) : Option (List Char) :=
  match date? text with
  | some rest => timeAfterDate? rest
  | none => timeOfDay? text

end StreamMask.Toml
