/-
Regular expressions: reading them, finding matches and replacing them.

The match that begins first is found; of several that begin there, the one that
the expression prefers. Characters are Unicode's. The time a search takes is
bounded by the product of the sizes of the expression and of the text.
-/
import StreamMask.Failure
import StreamMask.Regex.Pattern
import StreamMask.Regex.Search
import StreamMask.Regex.Size
import StreamMask.Regex.Template

namespace StreamMask

/-- A regular expression. -/
structure Regex where
  /-- The text it was read from. -/
  pattern : String
  machine : Regex.Machine
  /-- The numbers of its named groups. -/
  names : List (String × Nat)

namespace Regex

/-- Read a regular expression. -/
def compile (pattern : String) : Except RegexFault Regex :=
  match parse? pattern with
  | none => .error .malformed
  | some (expr, names) =>
    if expr.fits then
      let (program, entry) := expr.program
      .ok ⟨pattern, ⟨program, entry, 2 * expr.groups + 2⟩, names⟩
    else .error .tooLarge

/-- Whether the expression matches anywhere in the text. -/
def isMatch (regex : Regex) (text : String) : Bool :=
  (regex.machine.search? text.toList.toArray 0).isSome

/-- The text of a group, empty if it took no part in the match. -/
def groupText (text : Array Char) (slots : Slots) (index : Nat) : List Char :=
  match slots.getD (2 * index) none, slots.getD (2 * index + 1) none with
  | some start, some stop => (text.extract start stop).toList
  | _, _ => []

/-- What a piece of a replacement amounts to in a match. -/
def expand (regex : Regex) (text : Array Char) (slots : Slots) : Piece → List Char
  | .text chars => chars
  | .group index => groupText text slots index
  | .named name =>
    match regex.names.lookup name with
    | some index => groupText text slots index
    | none => []

/-- The text from `place` on with each of the matches replaced. -/
def replaceFrom (regex : Regex) (text : Array Char) (pieces : List Piece) (place : Nat) :
    List Slots → List Char
  | [] => (text.extract place text.size).toList
  | slots :: rest =>
    let start := (slots.getD 0 none).getD 0
    let stop := (slots.getD 1 none).getD 0
    (text.extract place start).toList ++ pieces.flatMap (regex.expand text slots) ++
      replaceFrom regex text pieces stop rest

/-- The text with every match replaced. -/
def replaceAll (regex : Regex) (text template : String) : String :=
  let chars := text.toList.toArray
  String.ofList
    (regex.replaceFrom chars (pieces template) 0 (regex.machine.allMatches chars))

end Regex
end StreamMask
