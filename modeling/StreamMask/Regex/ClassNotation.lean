/-
Classes of characters in square brackets: single characters, ranges, escapes,
named classes and nested classes are joined; `&&`, `--` and `~~` combine what
stands on their two sides, from the left.
-/
import StreamMask.Regex.Notation

namespace StreamMask.Regex

open Unicode

/-- The members read so far: their union, how many there are, and how deeply they nest. -/
structure Members where
  set : CodeSet := .empty
  count : Nat := 0
  nesting : Nat := 0

namespace Members

def add (members : Members) (set : CodeSet) (nesting : Nat) : Members :=
  ⟨members.set.union set, members.count + 1, max members.nesting nesting⟩

/-- How deeply the members nest as one. -/
def depth (members : Members) : Nat :=
  if 1 < members.count then members.nesting + 1 else members.nesting

end Members

/-- How two sets are combined. -/
inductive SetOp where
  | inter
  | diff
  | symmDiff

def SetOp.apply (flags : Flags) (op : SetOp) (a b : CodeSet) : CodeSet :=
  match op with
  | inter => (flags.fold a).inter (flags.fold b)
  | diff => (flags.fold a).diff (flags.fold b)
  | symmDiff => (flags.fold a).symmDiff (flags.fold b)

/-- What waits for its right part while a class is read, the innermost first. -/
inductive Waiting where
  /-- A class that encloses the present one, with the members it has, and whether the present one
  is to be complemented. -/
  | outer (members : Members) (negated : Bool)
  | op (op : SetOp) (left : CodeSet) (nesting : Nat)

/-- Combine members with the operation that waits for them. -/
def settle (flags : Flags) (set : CodeSet) (nesting : Nat) :
    List Waiting → CodeSet × Nat × List Waiting
  | .op op left nesting' :: rest => (op.apply flags left set, max nesting nesting' + 1, rest)
  | waiting => (set, nesting, waiting)

/-- Take hyphens at the beginning of a class as members. -/
def takeHyphens (flags : Flags) : Nat → Members → List Char → Members × List Char
  | 0, members, text => (members, text)
  | fuel + 1, members, text =>
    match text with
    | '-' :: rest => takeHyphens flags fuel (members.add (.single 45) 0) (flags.skip rest)
    | text => (members, text)

/-- Read the beginning of a class after its bracket: whether it is complemented, and the hyphens
or the bracket that stand for themselves there. The fuel is no less than the length of the text. -/
def openClass (flags : Flags) (fuel : Nat) (text : List Char) :
    Option (Bool × Members × List Char) :=
  let (negated, rest) := match flags.skip text with
    | '^' :: rest => (true, flags.skip rest)
    | rest => (false, rest)
  let (members, rest) := takeHyphens flags fuel {} rest
  match members.count, rest with
  | _, [] => none
  | 0, ']' :: rest =>
    match flags.skip rest with
    | [] => none
    | rest => some (negated, Members.add {} (.single 93) 0, rest)
  | _, rest => some (negated, members, rest)

/-- Read a class between `[:` and `:]`, after the bracket. -/
def readPosix (flags : Flags) (text : List Char) : Option (Option CodeSet × List Char) :=
  match text with
  | ':' :: rest =>
    let (negated, rest) := match rest with
      | '^' :: rest => (true, rest)
      | rest => (false, rest)
    match rest.dropWhile (· ≠ ':') with
    | ':' :: ']' :: after =>
      (CharClass.posix? (String.ofList (rest.takeWhile (· ≠ ':')))).map fun set =>
        (flags.negateIf negated (flags.fold set), after)
    | _ => none
  | _ => none

/-- Read a character or an escape inside a class. -/
def readMember (flags : Flags) : List Char → Option (Escape × List Char)
  | [] => none
  | '\\' :: rest => readEscape flags rest
  | c :: rest => some (.char c false, rest)

/-- The code point of a character in a class. Where characters are bytes, only ASCII has one. -/
def memberCode (flags : Flags) (c : Char) : Option Nat :=
  if flags.unicode || c.toNat < 128 then some c.toNat else none

/-- The first character after blanks; if it begins a comment, the first that is seen in the comment
or after it. -/
def firstSeen (inComment : Bool) : List Char → Option Char
  | [] => none
  | c :: rest =>
    if Text.isBlank c then firstSeen inComment rest
    else if !inComment && c = '#' then firstSeen true rest
    else some c

/-- What follows a hyphen and tells whether it is between the ends of a range. -/
def afterHyphen (flags : Flags) (text : List Char) : Option Char :=
  if flags.ignoreSpace then firstSeen false text <|> text.head? else text.head?

/-- Read a member or a range. -/
def readRange (flags : Flags) (text : List Char) : Option (CodeSet × List Char) := do
  let (first, rest) ← readMember flags text
  let alone := fun (rest : List Char) =>
    match first with
    | .char c _ => (memberCode flags c).map fun code => (CodeSet.single code, rest)
    | .set set => some (set, rest)
    | .look _ => none
  match flags.skip rest with
  | [] => none
  | '-' :: rest =>
    let next := afterHyphen flags rest
    if next = some ']' ∨ next = some '-' then alone ('-' :: rest)
    else
      let (last, rest) ← readMember flags (flags.skip rest)
      match first, last with
      | .char a _, .char b _ =>
        let low ← memberCode flags a
        let high ← memberCode flags b
        if low ≤ high then some (.ofRanges [(low, high)], rest) else none
      | _, _ => none
  | rest => alone rest

/-- Read a class up to its closing bracket. -/
def readClassFrom (flags : Flags) :
    Nat → List Waiting → Bool → Members → List Char → Option (CodeSet × Nat × List Char)
  | 0, _, _, _, _ => none
  | fuel + 1, waiting, negated, members, text =>
    let operation := fun (op : SetOp) (rest : List Char) =>
      let (set, nesting, waiting) := settle flags members.set members.depth waiting
      readClassFrom flags fuel (.op op set nesting :: waiting) negated {} rest
    match flags.skip text with
    | [] => none
    | '[' :: rest =>
      match readPosix flags rest with
      | some (none, _) => none
      | some (some set, rest) => readClassFrom flags fuel waiting negated (members.add set 0) rest
      | none =>
        match openClass flags fuel rest with
        | none => none
        | some (negated', members', rest) =>
          readClassFrom flags fuel (.outer members negated :: waiting) negated' members' rest
    | ']' :: rest =>
      let (set, nesting, waiting) := settle flags members.set members.depth waiting
      match flags.negateIf negated (flags.fold set), waiting with
      | none, _ => none
      | some set, .outer members negated :: waiting =>
        readClassFrom flags fuel waiting negated (members.add set (nesting + 1)) rest
      | some set, _ => some (set, nesting + 1, rest)
    | '&' :: '&' :: rest => operation .inter rest
    | '-' :: '-' :: rest => operation .diff rest
    | '~' :: '~' :: rest => operation .symmDiff rest
    | rest =>
      match readRange flags rest with
      | none => none
      | some (set, rest) => readClassFrom flags fuel waiting negated (members.add set 0) rest

/-- Read a class after its opening bracket: the set, how deeply it nests, and the rest. -/
def readClass (flags : Flags) (text : List Char) : Option (CodeSet × Nat × List Char) :=
  let fuel := text.length + 1
  match openClass flags fuel text with
  | none => none
  | some (negated, members, rest) => readClassFrom flags fuel [] negated members rest

end StreamMask.Regex
