/-
Replacement texts: `$1`, `$name` and `${name}` refer to the groups of a match,
`$$` is a dollar sign.
-/
import StreamMask.Text.Digits

namespace StreamMask.Regex

/-- A piece of a replacement text. -/
inductive Piece where
  | text (chars : List Char)
  | group (index : Nat)
  | named (name : String)
deriving DecidableEq, Repr

def isReferenceChar (c : Char) : Bool := c.isAlphanum || c = '_'

/-- The piece that a reference stands for: a number of at most 64 bits, a plus sign in front being
allowed, or else a name. -/
def reference (name : List Char) : Piece :=
  match Text.word? name with
  | some index => .group index
  | none => .named (String.ofList name)

/-- Read the piece after a dollar sign: nothing if the sign stands for itself. -/
def readReference (text : List Char) : Option (Piece × List Char) :=
  match text with
  | '$' :: rest => some (.text ['$'], rest)
  | '{' :: rest =>
    match rest.dropWhile (· ≠ '}') with
    | [] => none
    | _ :: after => some (reference (rest.takeWhile (· ≠ '}')), after)
  | rest =>
    match rest.takeWhile isReferenceChar with
    | [] => none
    | name => some (reference name, rest.dropWhile isReferenceChar)

/-- Cut a replacement text into pieces; every piece takes at least one character. -/
def readPieces : Nat → List Char → List Piece
  | 0, _ => []
  | _ + 1, [] => []
  | fuel + 1, '$' :: rest =>
    match readReference rest with
    | none => .text ['$'] :: readPieces fuel rest
    | some (piece, rest) => piece :: readPieces fuel rest
  | fuel + 1, c :: rest => .text [c] :: readPieces fuel rest

/-- The pieces of a replacement text. -/
def pieces (template : String) : List Piece := readPieces template.toList.length template.toList

end StreamMask.Regex
