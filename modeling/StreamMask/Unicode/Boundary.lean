/-
What characters do at the boundaries of graphemes, words and sentences (Unicode 16).

For each kind of boundary the characters are divided into classes. Most classes
follow from categories, properties and scripts; the rest are listed.
-/
import StreamMask.Unicode.Property
import StreamMask.Unicode.Script

namespace StreamMask.Unicode

open Category Property

namespace Boundary

/-- The characters of the scripts of these names. -/
def scripts (names : List String) : CodeSet := .unions (names.filterMap Script.members?)

/-- What joins the character before it in a word or a sentence. -/
def extending : CodeSet := graphemeExtend.union spacingMarkTable

/-- What is written in front of a number, or of a syllable. -/
def prepended : CodeSet :=
  prependedMark.union (.ofTable "D4E 111C2-111C3 113D1 1193F 11941 11A3A 11A84-11A89 11D46 11F02")

/-- Format characters that have no boundary around them. -/
def formatting : CodeSet :=
  (formatTable.diff graphemeExtend).diff (prepended.union (.ofTable "200D"))

/-- What can make up a number in a word. -/
def numeric : CodeSet :=
  (CodeSet.unions [decimalNumberTable, prependedMark, .ofTable "66B"]).diff (.ofTable "70F")

/-! ## Graphemes -/

/-- Syllables without a consonant at the end are the first of each twenty-eight. -/
def openSyllables : CodeSet :=
  .ofRanges ((List.range 399).map fun n => (0xAC00 + 28 * n, 0xAC00 + 28 * n))

/-- The class at boundaries of graphemes, by name. What is in no class has no name. -/
def grapheme? (name : String) : Option CodeSet :=
  match name with
  | "control" | "cn" =>
    some ((CodeSet.unions [lineSeparatorTable, paragraphSeparatorTable, controlTable, formatTable,
        defaultIgnorable.inter unassigned]).diff
      (.unions [prependedMark, graphemeExtend, .ofTable "A D 200D"]))
  | "cr" => some (.ofTable "D")
  | "extend" | "ex" => some (graphemeExtend.union emojiModifier)
  | "l" => some (.ofTable "1100-115F A960-A97C")
  | "lf" => some (.ofTable "A")
  | "lv" => some openSyllables
  | "lvt" => some ((CodeSet.ofTable "AC00-D7A3").diff openSyllables)
  | "prepend" | "pp" => some prepended
  | "regionalindicator" | "ri" => some regionalIndicator
  | "spacingmark" | "sm" =>
    some ((spacingMarkTable.union (.ofTable "E33 EB3")).diff (graphemeExtend.union (.ofTable
      "102B-102C 1038 1062-1064 1067-106D 1083 1087-108C 108F 109A-109C 1A61 1A63-1A64 AA7B AA7D
       11720-11721")))
  | "t" => some (.ofTable "11A8-11FF D7CB-D7FB")
  | "v" => some (.ofTable "1160-11A7 D7B0-D7C6 16D63 16D67-16D6A")
  | "zwj" => some (.ofTable "200D")
  | _ => none

/-! ## Words -/

def katakana : CodeSet :=
  (scripts ["katakana"]).union (.ofTable "3031-3035 309B-309C 30A0 30FC FF70")

def hebrewLetter : CodeSet := (scripts ["hebrew"]).inter otherLetterTable

/-- Signs that stand for letters. -/
def letterLike : CodeSet := .ofTable
  "2C2-2C5 2D2-2D7 2DE-2DF 2E5-2EB 2ED 2EF-2FF 55A-55C 55E 58A 5F3 70F A708-A716 A720-A721
   A789-A78A AB5B"

/-- Letters between which a word has no boundary. Scripts that put no blanks between words have no
such letters. -/
def wordLetter : CodeSet :=
  (alphabetic.union letterLike).diff (.unions [ideographic, katakana, hebrewLetter, extending,
    scripts ["ahom", "hiragana", "khmer", "lao", "myanmar", "newtailue", "taile", "taitham",
      "taiviet", "thai"]])

/-- The class at boundaries of words, by name. What is in no class has no name. -/
def word? (name : String) : Option CodeSet :=
  match name with
  | "aletter" | "le" => some wordLetter
  | "cr" => some (.ofTable "D")
  | "doublequote" | "dq" => some (.ofTable "22")
  | "extend" => some (extending.union emojiModifier)
  | "extendnumlet" | "ex" => some (connectorPunctuationTable.union (.ofTable "202F"))
  | "format" | "fo" => some (formatting.diff (.ofTable "200B"))
  | "hebrewletter" | "hl" => some hebrewLetter
  | "katakana" | "ka" => some katakana
  | "lf" => some (.ofTable "A")
  | "midletter" | "ml" => some (.ofTable "3A B7 387 55F 5F4 2027 FE13 FE55 FF1A")
  | "midnum" | "mn" =>
    some (.ofTable "2C 3B 37E 589 60C-60D 66C 7F8 2044 FE10 FE14 FE50 FE54 FF0C FF1B")
  | "midnumlet" | "mb" => some (.ofTable "2E 2018-2019 2024 FE52 FF07 FF0E")
  | "newline" | "nl" => some (.ofTable "B-C 85 2028-2029")
  | "numeric" | "nu" => some numeric
  | "regionalindicator" | "ri" => some regionalIndicator
  | "singlequote" | "sq" => some (.ofTable "27")
  | "wsegspace" => some (spaceSeparatorTable.diff (.ofTable "A0 2007 202F"))
  | "zwj" => some (.ofTable "200D")
  | _ => none

/-! ## Sentences -/

/-- Stops that may stand within a sentence. -/
def ambiguousStop : CodeSet := .ofTable "2E 2024 FE52 FF0E"

/-- Lower-case letters. Georgian has no case in sentences. -/
def lower : CodeSet :=
  lowercase.diff (graphemeExtend.union (.ofTable "10D0-10FA 10FD-10FF"))

/-- Upper-case letters and letters in title case. -/
def upper : CodeSet :=
  (uppercase.union titlecaseLetterTable).diff (.ofTable "1C90-1CBA 1CBD-1CBF")

/-- The class at boundaries of sentences, by name. What is in no class has no name. -/
def sentence? (name : String) : Option CodeSet :=
  match name with
  | "aterm" | "at" => some ambiguousStop
  | "close" | "cl" =>
    some (.unions [openPunctuationTable, closePunctuationTable, initialPunctuationTable,
      finalPunctuationTable, .ofTable "22 27 275B-2760 2E00-2E01 2E06-2E08 2E0B 1F676-1F678"])
  | "cr" => some (.ofTable "D")
  | "extend" | "ex" => some (extending.union (.ofTable "200D"))
  | "format" | "fo" => some formatting
  | "lf" => some (.ofTable "A")
  | "lower" | "lo" => some lower
  | "numeric" | "nu" => some (numeric.union (.ofTable "66C"))
  | "oletter" | "le" =>
    some ((alphabetic.union (.ofTable "5F3 70F")).diff (.unions [lower, upper, extending]))
  | "scontinue" | "sc" =>
    some (.ofTable
      "2C-2D 3A-3B 37E 55D 60C-60D 7F8 1802 1808 2013-2014 3001 FE10-FE11 FE13-FE14 FE31-FE32
       FE50-FE51 FE54-FE55 FE58 FE63 FF0C-FF0D FF1A-FF1B FF64")
  | "sep" | "se" => some (.ofTable "85 2028-2029")
  | "sp" => some (whiteSpace.diff (.ofTable "A D 85 2028-2029"))
  | "sterm" | "st" => some (sentenceTerminal.diff ambiguousStop)
  | "upper" | "up" => some upper
  | _ => none

end Boundary
end StreamMask.Unicode
