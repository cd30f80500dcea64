/-
Programs for regular expressions.

An instruction tells what to do at a place in the text and where to go on. A
split tries its first branch before its second, which is how preferences among
alternatives and numbers of rounds are kept. Code is laid out from the end: the
code for a part is given the address of what comes after it.
-/
import StreamMask.Regex.Expr

namespace StreamMask.Regex

inductive Instr where
  | chars (set : Unicode.CodeSet) (next : Nat)
  | look (look : Look) (next : Nat)
  /-- Note the place in a slot; a group has one for its beginning and one for its end. -/
  | save (slot next : Nat)
  | split (first second : Nat)
  | done
deriving Repr

abbrev Program := Array Instr

/-- A way to lay out code: given the code so far and where to go on, the code and its entry. -/
abbrev Layer := Program → Nat → Program × Nat

namespace Program

/-- Add an instruction; its address is the entry. -/
def add (program : Program) (instr : Instr) : Program × Nat :=
  let address := program.size
  (program.push instr, address)

/-- A choice between a body and going on. -/
def choice (greedy : Bool) (body next : Nat) : Instr :=
  if greedy then .split body next else .split next body

/-- The same code several times, one after the other. -/
def times (body : Layer) : Nat → Layer
  | 0, program, next => (program, next)
  | n + 1, program, next =>
    let (program, entry) := body program next
    times body n program entry

/-- At least one round: after each, choose between another and going on. -/
def oneOrMore (greedy : Bool) (body : Layer) : Layer := fun program next =>
  let address := program.size
  let (program, entry) := body (program.push .done) address
  (program.setIfInBounds address (choice greedy entry next), entry)

/-- Any number of rounds of a body that takes at least one character. -/
def anyNumber (greedy : Bool) (body : Layer) : Layer := fun program next =>
  let address := program.size
  let (program, entry) := body (program.push .done) address
  (program.setIfInBounds address (choice greedy entry next), address)

/-- At most so many rounds; each is entered only after the one before it. The last round is laid
out first; `after` is where the rounds laid out so far are entered. -/
def atMost (greedy : Bool) (body : Layer) (next : Nat) :
    Nat → Program → (after : Nat) → Program × Nat
  | 0, program, after => (program, after)
  | n + 1, program, after =>
    let (program, entry) := body program after
    let (program, after) := add program (choice greedy entry next)
    atMost greedy body next n program after

/-- The same text, character by character. -/
def text (chars : List Char) : Layer := fun program next =>
  chars.foldr (fun c (program, next) => add program (.chars (.single c.toNat) next)) (program, next)

/-- The code of a repetition. A body that may match the empty text is entered at least once before
the choice whether to repeat, so that an empty round is not preferred to none by accident. -/
def repetition (least : Nat) (most : Option Nat) (greedy consumes : Bool) (body : Layer) : Layer :=
  fun program next =>
    match most with
    | some most =>
      let (program, entry) := atMost greedy body next (most - least) program next
      times body least program entry
    | none =>
      match least with
      | 0 =>
        if consumes then anyNumber greedy body program next
        else
          let (program, entry) := oneOrMore greedy body program next
          add program (choice greedy entry next)
      | least + 1 =>
        let (program, entry) := oneOrMore greedy body program next
        times body least program entry

end Program

open Program

mutual

/-- The code of an expression. -/
def Expr.layer : Expr → Layer
  | .empty, program, next => (program, next)
  | .text letters, program, next => Program.text letters program next
  | .chars set, program, next => add program (.chars set next)
  | .look condition, program, next => add program (.look condition next)
  | .group index body, program, next =>
    let (program, closing) := add program (.save (2 * index + 1) next)
    let (program, entry) := body.layer program closing
    add program (.save (2 * index) entry)
  | .concat parts, program, next => layerSequence parts program next
  | .alt branches, program, next => layerChoice branches program next
  | .repetition least most greedy body, program, next =>
    Program.repetition least most greedy body.consumes body.layer program next

def Expr.layerSequence : List Expr → Layer
  | [], program, next => (program, next)
  | part :: rest, program, next =>
    let (program, entry) := layerSequence rest program next
    part.layer program entry

def Expr.layerChoice : List Expr → Layer
  | [], program, next => add program (.chars .empty next)
  | [branch], program, next => branch.layer program next
  | branch :: rest, program, next =>
    let (program, second) := layerChoice rest program next
    let (program, first) := branch.layer program next
    add program (.split first second)

end

/-- The code of a whole pattern and its entry. The match as a whole is group zero. -/
def Expr.program (expr : Expr) : Program × Nat :=
  (Expr.group 0 expr).layer #[.done] 0

end StreamMask.Regex
