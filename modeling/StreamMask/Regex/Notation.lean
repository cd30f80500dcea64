/-
The parts of the notation of regular expressions that stand by themselves:
blanks and comments, counts, escapes, flags and names of groups.

Every reader takes the text from where it stands and gives what it read and the
rest, or nothing if the pattern is malformed.
-/
import StreamMask.Power
import StreamMask.Regex.CharClass
import StreamMask.Regex.Expr
import StreamMask.Text.Blank
import StreamMask.Text.Digits
import StreamMask.Unicode.Recent

namespace StreamMask.Regex

open Unicode

/-- What may be switched on and off within a pattern. -/
structure Flags where
  ignoreCase : Bool := false
  multiLine : Bool := false
  dotAll : Bool := false
  swapGreed : Bool := false
  unicode : Bool := true
  carriageReturn : Bool := false
  ignoreSpace : Bool := false
deriving DecidableEq, Repr

/-- The text after blanks and comments. -/
def skipBlanks (inComment : Bool) : List Char → List Char
  | [] => []
  | c :: rest =>
    if inComment then skipBlanks (c ≠ '\n') rest
    else if Text.isBlank c then skipBlanks false rest
    else if c = '#' then skipBlanks true rest
    else c :: rest

namespace Flags

/-- The text after blanks and comments, if those mean nothing. -/
def skip (flags : Flags) (text : List Char) : List Char :=
  if flags.ignoreSpace then skipBlanks false text else text

/-- The flag of a letter, set to a value. -/
def set? (flags : Flags) (letter : Char) (value : Bool) : Option Flags :=
  match letter with
  | 'i' => some { flags with ignoreCase := value }
  | 'm' => some { flags with multiLine := value }
  | 's' => some { flags with dotAll := value }
  | 'U' => some { flags with swapGreed := value }
  | 'u' => some { flags with unicode := value }
  | 'R' => some { flags with carriageReturn := value }
  | 'x' => some { flags with ignoreSpace := value }
  | _ => none

/-- The set together with what differs from it only in case, if case means nothing. -/
def fold (flags : Flags) (set : CodeSet) : CodeSet :=
  if flags.ignoreCase then if flags.unicode then set.foldCase else set.foldAsciiCase else set

/-- The set or its complement. Where characters are bytes there is no complement, since it would
hold bytes that are no characters. -/
def negateIf (flags : Flags) (negated : Bool) (set : CodeSet) : Option CodeSet :=
  if negated then if flags.unicode then some set.complement else none else some set

end Flags

/-! ## Flags -/

/-- Read letters of flags up to `:` or `)`. No letter may come twice, and neither may the hyphen
after which flags are switched off; `used` holds what has come. -/
def readFlags (flags : Flags) (used : List Char) :
    List Char → Option (Flags × List Char × List Char)
  | [] => none
  | c :: rest =>
    if c = ':' ∨ c = ')' then
      if used.head? = some '-' then none else some (flags, used, c :: rest)
    else if used.contains c then none
    else if c = '-' then readFlags flags (c :: used) rest
    else
      match flags.set? c (!used.contains '-') with
      | none => none
      | some flags => readFlags flags (c :: used) rest

/-! ## Names of groups -/

def isNameStart (c : Char) : Bool := c = '_' || isLetter c

def isNameRest (c : Char) : Bool :=
  isNameStart c || isNumber c || c = '.' || c = '[' || c = ']'

/-- Read a name up to `>`. -/
def readName (text : List Char) : Option (String × List Char) :=
  let name := text.takeWhile (· ≠ '>')
  match text.dropWhile (· ≠ '>'), name with
  | _ :: rest, first :: more =>
    if isNameStart first && more.all isNameRest then some (String.ofList name, rest) else none
  | _, _ => none

/-! ## Counts -/

/-- Digits, blanks between them skipped where those mean nothing. -/
def takeDigits (flags : Flags) : Nat → List Char → List Char × List Char
  | 0, text => ([], text)
  | fuel + 1, text =>
    match text with
    | c :: rest =>
      if c.isDigit then
        let (digits, rest) := takeDigits flags fuel (flags.skip rest)
        (c :: digits, rest)
      else ([], text)
    | [] => ([], [])

/-- Read a decimal number of at most 32 bits, blanks around it skipped. -/
def readDecimal (flags : Flags) (text : List Char) : Option (Nat × List Char) :=
  let (digits, rest) := takeDigits flags text.length (text.dropWhile Text.isBlank)
  let n := Text.digitsValue 0 digits
  if digits = [] ∨ twoTo 32 ≤ n then none else some (n, rest.dropWhile Text.isBlank)

/-- What follows a count of rounds: whether it is greedy, and the rest. -/
def readGreed (text : List Char) : Bool × List Char :=
  match text with
  | '?' :: rest => (false, rest)
  | rest => (true, rest)

/-- How often to repeat: least, most if bounded, and greedy or not. -/
structure Rounds where
  least : Nat
  most : Option Nat
  greedy : Bool

/-- Read a count after its opening brace. -/
def readCount (flags : Flags) (text : List Char) : Option (Rounds × List Char) := do
  let (least, rest) ← readDecimal flags (flags.skip text)
  let (most, rest) ← match rest with
    | ',' :: rest =>
      match flags.skip rest with
      | '}' :: rest => some (none, '}' :: rest)
      | rest => (readDecimal flags rest).map fun (most, rest) => (some most, rest)
    | rest => some (some least, rest)
  match rest with
  | '}' :: rest =>
    let (greedy, rest) := readGreed (flags.skip rest)
    if most.all (least ≤ ·) then some (⟨least, most, greedy⟩, rest) else none
  | _ => none

/-! ## Escapes -/

/-- What an escape stands for. -/
inductive Escape where
  /-- A character; `byte` if it was given as a byte of two digits. -/
  | char (c : Char) (byte : Bool)
  | set (set : CodeSet)
  | look (look : Look)

def hexDigit? (c : Char) : Option Nat :=
  if c.isDigit then some (c.toNat - 48)
  else if 'a' ≤ c ∧ c ≤ 'f' then some (c.toNat - 87)
  else if 'A' ≤ c ∧ c ≤ 'F' then some (c.toNat - 55)
  else none

/-- The character of a code point, unless it is a surrogate or too great. -/
def charOf? (code : Nat) : Option Char :=
  if code.isValidChar then some (Char.ofNat code) else none

/-- Read `count` hexadecimal digits. -/
def readHexDigits (flags : Flags) : (count value : Nat) → List Char → Option (Nat × List Char)
  | 0, value, rest => some (value, rest)
  | count + 1, value, c :: rest =>
    match hexDigit? c with
    | none => none
    | some digit => readHexDigits flags count (value * 16 + digit) (flags.skip rest)
  | _ + 1, _, [] => none

/-- Read hexadecimal digits up to a closing brace; `some` once there was a digit. -/
def readHexBrace (flags : Flags) : Nat → Option Nat → List Char → Option (Nat × List Char)
  | 0, _, _ => none
  | fuel + 1, value, text =>
    match flags.skip text with
    | '}' :: rest => value.map fun value => (value, flags.skip rest)
    | c :: rest =>
      match hexDigit? c with
      | none => none
      | some digit => readHexBrace flags fuel (some (value.getD 0 * 16 + digit)) rest
    | [] => none

/-- Read a character by its code point, after the letter that says how many digits it has. -/
def readHex (flags : Flags) (letter : Char) (text : List Char) : Option (Escape × List Char) :=
  match flags.skip text with
  | '{' :: rest =>
    match readHexBrace flags (rest.length + 1) none rest with
    | none => none
    | some (code, rest) => (charOf? code).map fun c => (.char c false, rest)
  | rest =>
    let count := if letter = 'x' then 2 else if letter = 'u' then 4 else 8
    match readHexDigits flags count 0 rest with
    | none => none
    | some (code, rest) => (charOf? code).map fun c => (.char c (letter = 'x'), rest)

/-- The characters up to a closing brace, blanks skipped where those mean nothing. -/
def takeBraced (flags : Flags) : Nat → List Char → Option (List Char × List Char)
  | 0, _ => none
  | fuel + 1, text =>
    match flags.skip text with
    | '}' :: rest => some ([], rest)
    | c :: rest => (takeBraced flags fuel rest).map fun (name, rest) => (c :: name, rest)
    | [] => none

/-- Split a text at the first place where `mark` stands. -/
def splitAt? (mark : List Char) : List Char → Option (List Char × List Char)
  | [] => none
  | c :: rest =>
    if mark.isPrefixOf (c :: rest) then some ([], (c :: rest).drop mark.length)
    else (splitAt? mark rest).map fun (before, after) => (c :: before, after)

/-- The set for the name in the braces of a property, and whether its complement is meant. -/
def propertySet? (name : List Char) : Option (CodeSet × Bool) :=
  let value := fun (property value : List Char) =>
    CharClass.propertyValue? (CharClass.normalize property) (CharClass.normalize value)
  match splitAt? ['!', '='] name with
  | some (property, text) => (value property text).map (·, true)
  | none =>
    match splitAt? [':'] name <|> splitAt? ['='] name with
    | some (property, text) => (value property text).map (·, false)
    | none => (CharClass.property? (CharClass.normalize name)).map (·, false)

/-- Read a class of characters by a property, after its letter. -/
def readProperty (flags : Flags) (negated : Bool) (text : List Char) :
    Option (Escape × List Char) := do
  let (name, rest) ← match flags.skip text with
    | '{' :: rest => takeBraced flags (rest.length + 1) rest
    | '\\' :: _ => none
    | c :: rest => some ([c], flags.skip rest)
    | [] => none
  if !flags.unicode then none
  else
    let (set, unequal) ← propertySet? name
    let set ← flags.negateIf (negated != unequal) (flags.fold set)
    some (.set set, rest)

/-- Characters that mean something in a pattern. -/
def isMeta (c : Char) : Bool := "\\.+*?()|[]\x7b\x7d^$#&-~".toList.contains c

/-- Characters for which a backslash in front changes nothing. -/
def isEscapable (c : Char) : Bool :=
  isMeta c || (c.toNat < 128 && !c.isAlphanum && c ≠ '<' && c ≠ '>')

/-- Read what is in the braces after a word boundary, unless those hold a count. -/
def readBoundary (flags : Flags) (text : List Char) : Option (Look × List Char) :=
  let boundary := Look.wordBoundary flags.unicode
  let isLetter := fun (c : Char) => c.isAlpha || c = '-'
  match text with
  | '{' :: rest =>
    match flags.skip rest with
    | [] => none
    | first :: _ =>
      if !isLetter first then some (boundary, text)
      else
        match takeBraced flags (rest.length + 1) rest with
        | none => none
        | some (name, rest) =>
          match String.ofList name with
          | "start" => some (.wordStart flags.unicode, rest)
          | "end" => some (.wordEnd flags.unicode, rest)
          | "start-half" => some (.wordStartHalf flags.unicode, rest)
          | "end-half" => some (.wordEndHalf flags.unicode, rest)
          | _ => none
  | rest => some (boundary, rest)

/-- Read an escape after its backslash. -/
def readEscape (flags : Flags) : List Char → Option (Escape × List Char)
  | [] => none
  | c :: rest =>
    match c with
    | 'x' | 'u' | 'U' => readHex flags c rest
    | 'p' => readProperty flags false rest
    | 'P' => readProperty flags true rest
    | 'd' | 's' | 'w' => some (.set (CharClass.letter flags.unicode c), rest)
    | 'D' | 'S' | 'W' =>
      (flags.negateIf true (CharClass.letter flags.unicode c.toLower)).map fun set =>
        (.set set, rest)
    | 'a' => some (.char '\x07' false, rest)
    | 'f' => some (.char '\x0c' false, rest)
    | 't' => some (.char '\t' false, rest)
    | 'n' => some (.char '\n' false, rest)
    | 'r' => some (.char '\r' false, rest)
    | 'v' => some (.char '\x0b' false, rest)
    | 'A' => some (.look .textStart, rest)
    | 'z' => some (.look .textEnd, rest)
    | 'b' => (readBoundary flags rest).map fun (look, rest) => (.look look, rest)
    | 'B' => some (.look (.notWordBoundary flags.unicode), rest)
    | '<' => some (.look (.wordStart flags.unicode), rest)
    | '>' => some (.look (.wordEnd flags.unicode), rest)
    | c => if isEscapable c then some (.char c false, rest) else none

end StreamMask.Regex
