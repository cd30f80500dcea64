/-
The named classes of characters that a pattern can refer to.
-/
import StreamMask.Unicode.Age
import StreamMask.Unicode.Boundary
import StreamMask.Unicode.CaseFold
import StreamMask.Unicode.Property
import StreamMask.Unicode.Script

namespace StreamMask.Regex.CharClass

open Unicode

/-- A class between brackets and colons, by its name; ASCII only. -/
def posix? (name : String) : Option CodeSet :=
  match name with
  | "alnum" => some (.ofRanges [(48, 57), (65, 90), (97, 122)])
  | "alpha" => some (.ofRanges [(65, 90), (97, 122)])
  | "ascii" => some (.ofRanges [(0, 127)])
  | "blank" => some (.ofRanges [(9, 9), (32, 32)])
  | "cntrl" => some (.ofRanges [(0, 31), (127, 127)])
  | "digit" => some (.ofRanges [(48, 57)])
  | "graph" => some (.ofRanges [(33, 126)])
  | "lower" => some (.ofRanges [(97, 122)])
  | "print" => some (.ofRanges [(32, 126)])
  | "punct" => some (.ofRanges [(33, 47), (58, 64), (91, 96), (123, 126)])
  | "space" => some (.ofRanges [(9, 13), (32, 32)])
  | "upper" => some (.ofRanges [(65, 90)])
  | "word" => some (.ofRanges [(48, 57), (65, 90), (95, 95), (97, 122)])
  | "xdigit" => some (.ofRanges [(48, 57), (65, 70), (97, 102)])
  | _ => none

def asciiDigit : CodeSet := .ofRanges [(48, 57)]
def asciiSpace : CodeSet := .ofRanges [(9, 13), (32, 32)]
def asciiWord : CodeSet := .ofRanges [(48, 57), (65, 90), (95, 95), (97, 122)]

/-- The class of a letter after a backslash: digits, blanks, or characters of words. -/
def letter (unicode : Bool) (c : Char) : CodeSet :=
  match c with
  | 'd' => if unicode then Category.decimalNumberTable else asciiDigit
  | 's' => if unicode then whiteSpace else asciiSpace
  | _ => if unicode then word else asciiWord

/-! ## Properties by name -/

/-- A name as it is compared: letters in lower case, blanks, hyphens, underscores and all that is
not ASCII left out, and so is `is` at the beginning. -/
def normalize (name : List Char) : String :=
  let (isFirst, rest) := match name with
    | a :: b :: rest =>
      if (a = 'i' ∨ a = 'I') ∧ (b = 's' ∨ b = 'S') then (true, rest) else (false, name)
    | _ => (false, name)
  let kept := (rest.filter fun c => c ≠ ' ' ∧ c ≠ '_' ∧ c ≠ '-' ∧ c.toNat < 128).map Char.toLower
  if isFirst ∧ kept = ['c'] then "isc" else String.ofList kept

/-- The long name of a category. -/
def longName : Category → String
  | .uppercaseLetter => "uppercaseletter"
  | .lowercaseLetter => "lowercaseletter"
  | .titlecaseLetter => "titlecaseletter"
  | .modifierLetter => "modifierletter"
  | .otherLetter => "otherletter"
  | .nonspacingMark => "nonspacingmark"
  | .spacingMark => "spacingmark"
  | .enclosingMark => "enclosingmark"
  | .decimalNumber => "decimalnumber"
  | .letterNumber => "letternumber"
  | .otherNumber => "othernumber"
  | .connectorPunctuation => "connectorpunctuation"
  | .dashPunctuation => "dashpunctuation"
  | .openPunctuation => "openpunctuation"
  | .closePunctuation => "closepunctuation"
  | .initialPunctuation => "initialpunctuation"
  | .finalPunctuation => "finalpunctuation"
  | .otherPunctuation => "otherpunctuation"
  | .mathSymbol => "mathsymbol"
  | .currencySymbol => "currencysymbol"
  | .modifierSymbol => "modifiersymbol"
  | .otherSymbol => "othersymbol"
  | .spaceSeparator => "spaceseparator"
  | .lineSeparator => "lineseparator"
  | .paragraphSeparator => "paragraphseparator"
  | .control => "control"
  | .format => "format"
  | .privateUse => "privateuse"

/-- The characters of a general category, or of a group of them. -/
def category? (name : String) : Option CodeSet :=
  match name with
  | "any" => some .full
  | "assigned" => some Category.unassigned.complement
  | "ascii" => some (.ofRanges [(0, 127)])
  | "cn" | "unassigned" => some Category.unassigned
  | "l" | "letter" => some (Category.unionOf Category.letters)
  | "lc" | "casedletter" => some (Category.unionOf (Category.letters.take 3))
  | "m" | "mark" | "combiningmark" => some (Category.unionOf Category.marks)
  | "n" | "number" => some (Category.unionOf Category.numbers)
  | "p" | "punctuation" | "punct" => some (Category.unionOf Category.punctuation)
  | "s" | "symbol" => some (Category.unionOf Category.symbols)
  | "z" | "separator" => some (Category.unionOf Category.separators)
  | "c" | "other" =>
    some ((Category.unionOf [.control, .format, .privateUse]).union Category.unassigned)
  | "digit" => some Category.decimalNumberTable
  | "cntrl" => some Category.controlTable
  | _ =>
    (Category.all.find? fun category =>
      category.abbreviation = name || longName category = name).map Category.table

/-- The characters that a name in braces, or a single letter, refers to. -/
def property? (name : String) : Option CodeSet :=
  let own := if name = "cf" || name = "sc" || name = "lc" then none else Property.table? name
  own <|> category? name <|> Script.members? name

/-- The characters for which a property has a value. An edition of Unicode is the age of all the
characters that it has. -/
def propertyValue? (property value : String) : Option CodeSet :=
  match property with
  | "gc" | "generalcategory" => category? value
  | "sc" | "script" => Script.members? value
  | "scx" | "scriptextensions" => Script.users? value
  | "age" => Age.upTo? value
  | "gcb" | "graphemeclusterbreak" => Boundary.grapheme? value
  | "wb" | "wordbreak" => Boundary.word? value
  | "sb" | "sentencebreak" => Boundary.sentence? value
  | _ => none

end StreamMask.Regex.CharClass
