/-
The sizes of the automata of an expression.

Two automata read a text byte by byte, one forwards and one backwards; an
expression is too large if either takes more than ten mebibytes. A state takes 32
bytes, each of the steps of a state that has a list of them 8, and each branch of a
fork 4.

The states of a class of characters are shared where the same steps lead on from
them, as far as the states are remembered. A memory has so many places, and what is
remembered last drives out what was remembered in the same place.
-/
import Std.Data.HashMap
import StreamMask.Power
import StreamMask.Regex.Expr
import StreamMask.Text.Utf8

namespace StreamMask.Regex

open Unicode (CodeSet)

/-- How large an automaton is so far: its states, and the bytes of their lists. -/
structure Size where
  states : Nat := 0
  lists : Nat := 0

namespace Size

def bytes (size : Size) : Nat := 32 * size.states + size.lists

/-- How many bytes an automaton may take. -/
def limit : Nat := 10 * twoTo 20

/-- Add states, and bytes to the lists, unless that is too much. -/
def grow (size : Size) (states lists : Nat) : Option Size :=
  let size := ⟨size.states + states, size.lists + lists⟩
  if limit < size.bytes then none else some size

/-- Lead on from the end of a part. One that ends in a fork gets another branch. -/
def join (size : Size) (fork : Bool) : Option Size := size.grow 0 (if fork then 4 else 0)

end Size

/-! ## Classes of characters -/

/-- A range of bytes, first and last. -/
abbrev ByteRange := Nat × Nat

/-- The bytes of a character. -/
def bytesOf (code : Nat) : List Nat :=
  (String.utf8EncodeChar (Char.ofNat code)).map UInt8.toNat

/-- The sequences of ranges for all texts of bytes from `low` to `high`, which are as long as each
other, in ascending order. What follows the first byte is between 0x80 and 0xBF. -/
def byteRanges : (low high : List Nat) → List (List ByteRange)
  | [a], [b] => [[(a, b)]]
  | a :: low, b :: high =>
    let least := low.map fun _ => 0x80
    let most := high.map fun _ => 0xBF
    if a = b then (byteRanges low high).map ((a, a) :: ·)
    else
      let first := if low = least then [] else (byteRanges low most).map ((a, a) :: ·)
      let last := if high = most then [] else (byteRanges least high).map ((b, b) :: ·)
      let a := if low = least then a else a + 1
      let b := if high = most then b else b - 1
      first ++ (if a ≤ b then [(a, b) :: least.map fun _ => (0x80, 0xBF)] else []) ++ last
  | _, _ => []
termination_by low => low.length
decreasing_by all_goals simp

/-- The characters with as many bytes as each other, and no surrogates among them. -/
def lengths : List (Nat × Nat) :=
  [(0, 0x7F), (0x80, 0x7FF), (0x800, 0xD7FF), (0xE000, 0xFFFF), (0x10000, Unicode.maxCode)]

/-- The sequences of ranges of bytes for the characters of a set, in ascending order. -/
def byteSequences (set : CodeSet) : List (List ByteRange) :=
  set.ranges.toList.flatMap fun (first, last) =>
    lengths.flatMap fun (least, most) =>
      let low := max first least
      let high := min last most
      if low ≤ high then byteRanges (bytesOf low) (bytesOf high) else []

/-- Mix a number into a digest of numbers. -/
def mix (digest : UInt64) (n : Nat) : UInt64 := (digest ^^^ UInt64.ofNat n) * 1099511628211

/-- The place of something in a memory of so many places, by the numbers it is made of. -/
def memoryPlace (places : Nat) (numbers : List Nat) : Nat :=
  (numbers.foldl mix 14695981039346656037).toNat % places

/-- A step of a state: the bytes that it takes, and the state it leads to. -/
structure Step where
  range : ByteRange
  next : Nat
deriving DecidableEq

/-- States by the place of their steps. -/
abbrev StepMemory := Std.HashMap Nat (List Step × Nat)

/-- The state with these steps, remembered or new. -/
def stateOf (steps : List Step) (memory : StepMemory) (size : Size) :
    Option (Nat × StepMemory × Size) :=
  let place := memoryPlace 10000 (steps.flatMap fun step => [step.range.1, step.range.2, step.next])
  let new := (size.grow 1 (8 * steps.length)).map fun grown =>
    (size.states, memory.insert place (steps, size.states), grown)
  match memory[place]? with
  | some (known, state) => if known = steps then some (state, memory, size) else new
  | none => new

/-- The sequences by the range that they begin with, those together that follow each other. -/
def byFirst : List (List ByteRange) → List (ByteRange × List (List ByteRange))
  | [] => []
  | [] :: rest => byFirst rest
  | (range :: tail) :: rest =>
    match byFirst rest with
    | [] => [(range, [tail])]
    | (other, tails) :: groups =>
      if range = other then (range, tail :: tails) :: groups
      else (range, [tail]) :: (other, tails) :: groups

/-- The state from which the sequences lead to the end, forwards. A sequence has at most as many
ranges as `depth`. -/
def layForwards (finish : Nat) :
    (depth : Nat) → List (List ByteRange) → StepMemory → Size → Option (Nat × StepMemory × Size)
  | 0, _, memory, size => some (finish, memory, size)
  | depth + 1, sequences, memory, size =>
    if sequences = [[]] then some (finish, memory, size)
    else do
      let (steps, memory, size) ← (byFirst sequences).foldlM
        (fun (steps, memory, size) (range, tails) => do
          let (next, memory, size) ← layForwards finish depth tails memory size
          return (⟨range, next⟩ :: steps, memory, size))
        (([] : List Step), memory, size)
      stateOf steps.reverse memory size

/-- Lay a sequence backwards: each range is a state that leads to the one before it. -/
def layBackwards (places : StepMemory) (size : Size) (next : Nat) :
    List ByteRange → Option (StepMemory × Size)
  | [] => (size.grow 0 4).map (places, ·)
  | range :: rest =>
    let place := memoryPlace 1000 [next, range.1, range.2]
    let known := places[place]?.filter fun (steps, _) => steps = [⟨range, next⟩]
    match known with
    | some (_, state) => layBackwards places size state rest
    | none =>
      match size.grow 1 0 with
      | none => none
      | some grown =>
        layBackwards (places.insert place ([⟨range, next⟩], size.states)) grown size.states rest

/-- One character of a set. Characters of a single byte are the steps of one state. -/
def laySet (backwards : Bool) (set : CodeSet) (size : Size) : Option Size :=
  if set.ranges.all fun (_, last) => last < 0x80 then size.grow 2 (8 * set.ranges.size)
  else if backwards then do
    let finish := size.states + 1
    let size ← size.grow 2 0
    let (_, size) ← (byteSequences set).foldlM
      (fun (memory, size) sequence => layBackwards memory size finish sequence)
      ((∅ : StepMemory), size)
    return size
  else do
    let finish := size.states
    let size ← size.grow 1 0
    let (_, _, size) ← layForwards finish 4 (byteSequences set) ∅ size
    return size

/-! ## Choices among texts

Texts that begin with the same bytes share states. -/

/-- A place in the texts: the numbers of bytes that led on from here before a text ended here, the
last first, and the bytes that lead on since then, with the places they lead to. -/
structure Branching where
  closed : List Nat := []
  steps : List (Nat × Nat) := []

namespace Branching

/-- A text ends here. A place that nothing leads on from ends only once. -/
def close (branching : Branching) : Branching :=
  if branching.steps.isEmpty && !branching.closed.isEmpty && branching.closed.all (· = 0) then
    branching
  else ⟨branching.steps.length :: branching.closed, []⟩

/-- Whether nothing leads on from here. -/
def isLeaf (branching : Branching) : Bool :=
  branching.steps.isEmpty && branching.closed.all (· = 0)

/-- The states of the place and the bytes of their lists: one state for each group of steps, and a
fork that leads to them, and to the end between two groups. -/
def grow (branching : Branching) (size : Size) : Option Size :=
  if branching.isLeaf then some size
  else
    let groups := branching.steps.length :: branching.closed
    let filled := groups.filter (0 < ·)
    size.grow (filled.length + 1)
      (4 * (filled.length + groups.length - 1) +
        (filled.map fun n => if n = 1 then 0 else 8 * n).foldr (· + ·) 0)

end Branching

/-- Enter the bytes of a text from a place on. -/
def enter (places : Array Branching) (place : Nat) : List Nat → Array Branching
  | [] => places.modify place Branching.close
  | byte :: rest =>
    match (places[place]?.getD {}).steps.lookup byte with
    | some next => enter places next rest
    | none =>
      let next := places.size
      enter ((places.modify place fun branching =>
        { branching with steps := (byte, next) :: branching.steps }).push {}) next rest

/-- The bytes of a text. -/
def textBytes (chars : List Char) : List Nat := chars.flatMap fun c => bytesOf c.toNat

/-- A choice among texts. -/
def layTexts (backwards : Bool) (texts : List (List Char)) (size : Size) : Option Size := do
  let places := texts.foldl
    (fun places chars =>
      let bytes := textBytes chars
      enter places 0 (if backwards then bytes.reverse else bytes))
    #[({} : Branching)]
  places.foldlM (fun size branching => branching.grow size) (← size.grow 1 0)

/-! ## Expressions

Each part is laid after what has been laid so far, and tells whether it ends in a fork. -/

/-- How a part is laid. -/
abbrev Lay := Size → Option (Size × Bool)

/-- A part that does not end in a fork. -/
def plain (size : Option Size) : Option (Size × Bool) := size.map (·, false)

/-- Several rounds, each after the one before it; `fork` tells whether that one ends in a fork. -/
def layRounds (round : Lay) : Nat → Bool → Lay
  | 0, fork, size => some (size, fork)
  | n + 1, fork, size =>
    match size.join fork with
    | none => none
    | some size =>
      match round size with
      | none => none
      | some (size, fork) => layRounds round n fork size

/-- So many rounds; none at all still take a state. -/
def layExactly (round : Lay) (n : Nat) : Lay := fun size =>
  if n = 0 then plain (size.grow 1 0) else layRounds round n false size

/-- Rounds each of which may be the last: before each there is a fork to it and to the end. -/
def layOptional (round : Lay) : Nat → Bool → Lay
  | 0, fork, size => plain (size.join fork)
  | n + 1, fork, size =>
    match (size.grow 1 8).bind (·.join fork) with
    | none => none
    | some size =>
      match round size with
      | none => none
      | some (size, fork) => layOptional round n fork size

/-- A repetition. -/
def layRepetition (least : Nat) (most : Option Nat) (consumes : Bool) (round : Lay) : Lay :=
  fun size =>
    match least, most with
    | 0, some 1 => do
      let (size, fork) ← round (← size.grow 1 0)
      plain ((size.grow 1 8).bind (·.join fork))
    | 0, none =>
      if consumes then do
        let (size, fork) ← round (← size.grow 1 4)
        return (← size.join fork, true)
      else do
        let (size, fork) ← round size
        plain ((size.grow 3 16).bind (·.join fork))
    | 1, none => do
      let (size, fork) ← round size
      return (← (← size.grow 1 4).join fork, true)
    | least, none => do
      let (size, fork) ← layRounds round least false size
      return (← (← size.grow 1 4).join fork, true)
    | least, some most => do
      let (size, fork) ← layExactly round least size
      if most ≤ least then return (size, fork)
      else layOptional round (most - least) fork (← size.grow 1 0)

/-- The text that all that an expression matches is. -/
def Expr.text? : Expr → Option (List Char)
  | .text letters => some letters
  | _ => none

mutual

/-- Lay an expression. Only forwards are the beginnings and ends of groups noted. -/
def Expr.lay (backwards : Bool) : Expr → Lay
  | .empty, size => plain (size.grow 1 0)
  | .text letters, size => plain (size.grow (Text.byteSize letters) 0)
  | .chars set, size => plain (laySet backwards set size)
  | .look _, size => plain (size.grow 1 0)
  | .group _ body, size =>
    if backwards then body.lay backwards size
    else do
      let (size, fork) ← body.lay backwards (← size.grow 1 0)
      plain ((size.grow 1 0).bind (·.join fork))
  | .concat parts, size => laySequence backwards parts false size
  | .alt branches, size =>
    match branches.mapM Expr.text? with
    | some texts => plain (layTexts backwards texts size)
    | none => plain (layBranches backwards branches 0 size)
  | .repetition least most _ body, size =>
    layRepetition least most body.consumes (body.lay backwards) size

/-- Lay one part after the other, backwards the last one first; `fork` tells whether what is before
the parts ends in a fork. -/
def Expr.laySequence (backwards : Bool) : List Expr → (fork : Bool) → Lay
  | [], fork, size => some (size, fork)
  | part :: rest, fork, size =>
    if backwards then do
      let (size, fork) ← laySequence backwards rest fork size
      part.lay backwards (← size.join fork)
    else do
      let (size, fork) ← part.lay backwards (← size.join fork)
      laySequence backwards rest fork size

/-- Lay the branches of a fork; the fork and its end come after the second branch. -/
def Expr.layBranches (backwards : Bool) : List Expr → Nat → Size → Option Size
  | [], _, size => some size
  | branch :: rest, index, size => do
    let (size, fork) ← branch.lay backwards size
    let size ← (← size.grow (if index = 1 then 2 else 0) 4).join fork
    layBranches backwards rest (index + 1) size

end

/-- The whole automaton. Unless a match can only begin where the text does, it first passes over
any number of bytes; the end of a match takes a state. -/
def Expr.layWhole (backwards : Bool) (expr : Expr) : Option Size := do
  let anchored := if backwards then expr.endsWith .textEnd else expr.beginsWith .textStart
  let size ← if anchored then Size.grow {} 1 0 else Size.grow {} 3 16
  let (size, fork) ← (Expr.group 0 expr).lay backwards size
  (← size.grow 1 0).join fork

/-- Whether the expression is not too large. -/
def Expr.fits (expr : Expr) : Bool := (expr.layWhole false).isSome && (expr.layWhole true).isSome

end StreamMask.Regex
