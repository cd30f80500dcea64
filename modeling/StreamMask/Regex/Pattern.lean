/-
Whole patterns: sequences, alternatives, groups and repetitions.

The text is read from left to right with a stack of the groups that are open.
What a flag switches holds up to the end of the group it stands in.
-/
import StreamMask.Regex.ClassNotation

namespace StreamMask.Regex

open Unicode

/-- A part of a sequence: an expression, or the place of flags, which cannot be repeated; and how
deeply it nests. -/
structure Part where
  expr : Option Expr
  nesting : Nat

/-- The alternatives of a group so far, and the sequence in progress, both last first. -/
structure Body where
  alternatives : List (Expr × Nat) := []
  parts : List Part := []

namespace Body

/-- The sequence in progress as one expression. -/
def sequence (body : Body) : Expr × Nat :=
  let nesting := body.parts.foldl (fun n part => max n part.nesting) 0
  (.sequence (body.parts.filterMap Part.expr).reverse,
    if 1 < body.parts.length then nesting + 1 else nesting)

/-- All alternatives as one expression. -/
def close (body : Body) : Expr × Nat :=
  let (last, nesting) := body.sequence
  let all := body.alternatives.foldl (fun n alternative => max n alternative.2) nesting
  (.choice ((body.alternatives.map Prod.fst).reverse ++ [last]),
    if body.alternatives.isEmpty then nesting else all + 1)

def push (body : Body) (expr : Expr) (nesting : Nat) : Body :=
  { body with parts := ⟨some expr, nesting⟩ :: body.parts }

/-- Begin the next alternative. -/
def nextAlternative (body : Body) : Body := ⟨body.sequence :: body.alternatives, []⟩

/-- Repeat the last part of the sequence; there must be one, other than flags. -/
def repeatLast (body : Body) (flags : Flags) (rounds : Rounds) : Option Body :=
  match body.parts with
  | ⟨some expr, nesting⟩ :: before =>
    some { body with
      parts :=
        ⟨some (.repeated rounds.least rounds.most (rounds.greedy != flags.swapGreed) expr),
          nesting + 1⟩ :: before }
  | _ => none

end Body

/-- A group that is open: what surrounds it, the flags to return to, and its number, if any. -/
structure OpenGroup where
  outer : Body
  flags : Flags
  index : Option Nat

/-- How far a pattern has been read. -/
structure Reading where
  flags : Flags := {}
  body : Body := {}
  groups : List OpenGroup := []
  /-- How many numbered groups there have been. -/
  count : Nat := 0
  names : List (String × Nat) := []

namespace Reading

def literal (reading : Reading) (c : Char) : Expr :=
  let fold := reading.flags.unicode || c.toNat < 128
  .ofSet (if fold then reading.flags.fold (.single c.toNat) else .single c.toNat)

/-- The set of the dot. Where characters are bytes it would hold bytes that are no characters. -/
def dot? (flags : Flags) : Option CodeSet :=
  if !flags.unicode then none
  else if flags.dotAll then some .full
  else if flags.carriageReturn then some (CodeSet.ofRanges [(10, 10), (13, 13)]).complement
  else some (CodeSet.single 10).complement

def startLook (flags : Flags) : Look :=
  if flags.multiLine then if flags.carriageReturn then .lineStartCr else .lineStart else .textStart

def endLook (flags : Flags) : Look :=
  if flags.multiLine then if flags.carriageReturn then .lineEndCr else .lineEnd else .textEnd

def push (reading : Reading) (expr : Expr) (nesting : Nat) : Reading :=
  { reading with body := reading.body.push expr nesting }

/-- Open a group with a number, and perhaps a name. -/
def openNumbered (reading : Reading) (name : Option String) : Option Reading :=
  let index := reading.count + 1
  if name.any fun name => reading.names.any (·.1 = name) then none
  else some { reading with
    body := {}
    groups := ⟨reading.body, reading.flags, some index⟩ :: reading.groups
    count := index
    names := match name with
      | some name => (name, index) :: reading.names
      | none => reading.names }

/-- Read what follows an opening parenthesis. -/
def openGroup (reading : Reading) (text : List Char) : Option (Reading × List Char) :=
  match reading.flags.skip text with
  | '?' :: '=' :: _ | '?' :: '!' :: _ | '?' :: '<' :: '=' :: _ | '?' :: '<' :: '!' :: _ => none
  | '?' :: 'P' :: '<' :: rest | '?' :: '<' :: rest => do
    let (name, rest) ← readName rest
    return (← reading.openNumbered (some name), rest)
  | '?' :: rest =>
    match readFlags reading.flags [] rest with
    | some (flags, used, ')' :: rest) =>
      if used = [] then none
      else some ({ reading with
        flags := flags
        body := { reading.body with parts := ⟨none, 0⟩ :: reading.body.parts } }, rest)
    | some (flags, _, ':' :: rest) =>
      some ({ reading with
        flags := flags
        body := {}
        groups := ⟨reading.body, reading.flags, none⟩ :: reading.groups }, rest)
    | _ => none
  | rest => (reading.openNumbered none).map (·, rest)

/-- Close the innermost group. -/
def closeGroup (reading : Reading) : Option Reading :=
  match reading.groups with
  | [] => none
  | group :: groups =>
    let (expr, nesting) := reading.body.close
    let expr := match group.index with
      | some index => .group index expr
      | none => expr
    some { reading with
      flags := group.flags
      body := group.outer.push expr (nesting + 1)
      groups := groups }

def repeatLast (reading : Reading) (rounds : Rounds) : Option Reading :=
  (reading.body.repeatLast reading.flags rounds).map fun body => { reading with body := body }

/-- A repetition by a single sign, after it. -/
def repeatSign (reading : Reading) (least : Nat) (most : Option Nat) (text : List Char) :
    Option (Reading × List Char) :=
  let (greedy, rest) := readGreed text
  (reading.repeatLast ⟨least, most, greedy⟩).map (·, rest)

/-- Read one part of the pattern. -/
def step (reading : Reading) : List Char → Option (Reading × List Char)
  | [] => none
  | '(' :: rest => reading.openGroup rest
  | ')' :: rest => reading.closeGroup.map (·, rest)
  | '|' :: rest => some ({ reading with body := reading.body.nextAlternative }, rest)
  | '[' :: rest =>
    (readClass reading.flags rest).map fun (set, nesting, rest) =>
      (reading.push (.ofSet set) nesting, rest)
  | '?' :: rest => reading.repeatSign 0 (some 1) rest
  | '*' :: rest => reading.repeatSign 0 none rest
  | '+' :: rest => reading.repeatSign 1 none rest
  | '{' :: rest => do
    let (rounds, rest) ← readCount reading.flags rest
    return (← reading.repeatLast rounds, rest)
  | '.' :: rest => (dot? reading.flags).map fun set => (reading.push (.ofSet set) 0, rest)
  | '^' :: rest => some (reading.push (.look (startLook reading.flags)) 0, rest)
  | '$' :: rest => some (reading.push (.look (endLook reading.flags)) 0, rest)
  | '\\' :: rest =>
    (readEscape reading.flags rest).bind fun
      | (.char c byte, rest) =>
        if byte && !reading.flags.unicode && 127 < c.toNat then none
        else some (reading.push (reading.literal c) 0, rest)
      | (.set set, rest) => some (reading.push (.ofSet set) 0, rest)
      | (.look look, rest) => some (reading.push (.look look) 0, rest)
  | c :: rest => some (reading.push (reading.literal c) 0, rest)

/-- Read the whole text; every step takes at least one character. -/
def run : Nat → Reading → List Char → Option Reading
  | 0, _, _ => none
  | fuel + 1, reading, text =>
    match reading.flags.skip text with
    | [] => some reading
    | rest => (reading.step rest).bind fun (reading, rest) => run fuel reading rest

end Reading

/-- How deeply the parts of a pattern may nest. -/
def maxNesting : Nat := 250

/-- The expression and the names of the groups of a pattern, or nothing if it is malformed. -/
def parse? (pattern : String) : Option (Expr × List (String × Nat)) := do
  let text := pattern.toList
  let reading ← Reading.run (text.length + 1) {} text
  let (expr, nesting) := reading.body.close
  if reading.groups.isEmpty && nesting ≤ maxNesting then some (expr, reading.names) else none

end StreamMask.Regex
