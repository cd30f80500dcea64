/-
Paths that select fields.

A path is a list of tokens separated by `/`. A `/` in front ties it to the root;
without it the path fits at any depth. `*` is any field or item, any other token
is a name, or the decimal index of an item.
-/
import StreamMask.Position
import StreamMask.Text.Digits

namespace StreamMask

namespace Path

/-- One step of a path. A name that is the decimal text of a number of at most 64 bits has that number
as its index. -/
inductive Token where
  | wildcard
  | literal (name : String) (index : Option Nat)
deriving DecidableEq, Repr

/-- Why a text is not a path. -/
inductive Fault where
  | empty
  | noTokens
  | badEscape (token : String)
deriving DecidableEq, Repr

def Fault.message : Fault → String
  | empty => "path is empty"
  | noTokens => "path has no tokens"
  | badEscape token => "token " ++ Text.quote token ++ ": '~' must be followed by 0 or 1"

namespace Token

/-- The token for a field name. -/
def named (name : String) : Token :=
  .literal name ((Text.word? name.toList).filter fun index => toString index = name)

/-- The token that a text between separators writes. -/
def parse (text : List Char) : Except Fault Token :=
  if text = ['*'] then .ok .wildcard
  else if wellEscaped text then .ok (named (String.ofList (unescapeChars text)))
  else .error (.badEscape (String.ofList text))

/-- Whether the token fits the member in progress in an open container. -/
def fits : Token → Frame → Bool
  | wildcard, frame => frame.hasPosition
  | literal name _, .object (some current) => current = name
  | literal _ _, .object none => false
  | literal _ index, .array current => index = some current

def text : Token → String
  | wildcard => "*"
  | literal name _ => escape name

end Token

/-- The parts of a text between separators; there is always at least one. -/
def split : List Char → List (List Char)
  | [] => [[]]
  | '/' :: rest => [] :: split rest
  | c :: rest =>
    match split rest with
    | [] => [[c]]
    | part :: parts => (c :: part) :: parts

/-- Parts without the empty ones at the end. -/
def dropEmptyEnd (parts : List (List Char)) : List (List Char) :=
  (parts.reverse.dropWhile List.isEmpty).reverse

/-- Read the tokens one by one, up to the first that is none. -/
def parseTokens : List (List Char) → Except Fault (List Token)
  | [] => .ok []
  | part :: rest =>
    match Token.parse part with
    | .error fault => .error fault
    | .ok token => (parseTokens rest).map (token :: ·)

end Path

/-- A path that selects fields. -/
structure Pattern where
  absolute : Bool
  tokens : List Path.Token
deriving DecidableEq, Repr

namespace Pattern

open StreamMask.Path

/-- Read a path. Separators at its end mean nothing. -/
def parse (text : String) : Except Fault Pattern :=
  match text.toList with
  | [] => .error .empty
  | first :: rest =>
    let absolute := first = '/'
    match dropEmptyEnd (split (if absolute then rest else first :: rest)) with
    | [] => .error .noTokens
    | parts => (parseTokens parts).map fun tokens => ⟨absolute, tokens⟩

def hasWildcard (p : Pattern) : Bool := p.tokens.contains .wildcard

/-- The name of a path that is one name and fits at any depth. -/
def singleName? (p : Pattern) : Option String :=
  match p.absolute, p.tokens with
  | false, [.literal name _] => some name
  | _, _ => none

/-- Fit tokens, last first, to open containers, innermost first: the containers further out, or
none if a token does not fit. -/
def fitTokens : List Token → List Frame → Option (List Frame)
  | [], frames => some frames
  | _ :: _, [] => none
  | token :: tokens, frame :: frames =>
    if token.fits frame then fitTokens tokens frames else none

/-- Whether the path selects the field in progress. -/
def fits (p : Pattern) (position : Position) : Bool :=
  match fitTokens p.tokens.reverse position.frames with
  | none => false
  | some outer => !p.absolute || outer.isEmpty

/-- The path as text, without separators at its end. -/
def text (p : Pattern) : String :=
  (if p.absolute then "/" else "") ++ "/".intercalate (p.tokens.map Token.text)

end Pattern
end StreamMask
