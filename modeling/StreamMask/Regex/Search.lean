/-
The search for matches.

A search goes through the ways in which a program can run, the preferred ones
first, and gives up a way when it comes to an instruction and a place where an
earlier way has been: nothing new can come of it. So it takes at most as many
steps as there are pairs of an instruction and a place, twice over.
-/
import Std.Data.HashSet
import StreamMask.Regex.CharClass
import StreamMask.Regex.Program

namespace StreamMask.Regex

/-- Where groups begin and end: slot `2 * i` and `2 * i + 1` for group `i`. -/
abbrev Slots := Array (Option Nat)

/-- A way that is still to be tried. -/
structure Way where
  address : Nat
  place : Nat
  slots : Slots

def isWord (unicode : Bool) (c : Char) : Bool :=
  if c.toNat < 128 then c.isAlphanum || c = '_' else unicode && Unicode.word.contains c

/-- The character before a place. -/
def before? (text : Array Char) (place : Nat) : Option Char :=
  if place = 0 then none else text[place - 1]?

/-- Whether a condition holds at a place. -/
def Look.holds (look : Look) (text : Array Char) (place : Nat) : Bool :=
  let before := before? text place
  let after := text[place]?
  let wordBefore := fun unicode => before.any (isWord unicode)
  let wordAfter := fun unicode => after.any (isWord unicode)
  match look with
  | textStart => place = 0
  | textEnd => place = text.size
  | lineStart => before.all (· = '\n')
  | lineEnd => after.all (· = '\n')
  | lineStartCr => before.all (· = '\n') || (before = some '\r' && after ≠ some '\n')
  | lineEndCr => after.all (· = '\r') || (after = some '\n' && before ≠ some '\r')
  | wordBoundary unicode => wordBefore unicode != wordAfter unicode
  | notWordBoundary unicode => wordBefore unicode == wordAfter unicode
  | wordStart unicode => !wordBefore unicode && wordAfter unicode
  | wordEnd unicode => wordBefore unicode && !wordAfter unicode
  | wordStartHalf unicode => !wordBefore unicode
  | wordEndHalf unicode => !wordAfter unicode

/-- The pairs of an instruction and a place in the text where a way has been, each as a number. -/
abbrev Seen := Std.HashSet Nat

/-- Try ways, the first one first, until one gets to the end of the program. -/
def explore (program : Program) (text : Array Char) :
    Nat → List Way → Seen → Option Slots × Seen
  | 0, _, seen => (none, seen)
  | _ + 1, [], seen => (none, seen)
  | fuel + 1, way :: ways, seen =>
    let pair := way.address * (text.size + 1) + way.place
    if seen.contains pair then explore program text fuel ways seen
    else
      let seen := seen.insert pair
      match program[way.address]? with
      | none => explore program text fuel ways seen
      | some .done => (some way.slots, seen)
      | some (.chars set next) =>
        match text[way.place]? with
        | none => explore program text fuel ways seen
        | some c =>
          if set.contains c then
            explore program text fuel (⟨next, way.place + 1, way.slots⟩ :: ways) seen
          else explore program text fuel ways seen
      | some (.look look next) =>
        if look.holds text way.place then
          explore program text fuel (⟨next, way.place, way.slots⟩ :: ways) seen
        else explore program text fuel ways seen
      | some (.save slot next) =>
        explore program text fuel
          (⟨next, way.place, way.slots.setIfInBounds slot (some way.place)⟩ :: ways) seen
      | some (.split first second) =>
        explore program text fuel
          (⟨first, way.place, way.slots⟩ :: ⟨second, way.place, way.slots⟩ :: ways) seen

/-- A regular expression that is ready for use. -/
structure Machine where
  program : Program
  entry : Nat
  /-- How many slots a match has. -/
  slots : Nat

namespace Machine

/-- The first match that begins at `place` or, failing that, later; `count` places are tried. -/
def searchFrom (machine : Machine) (text : Array Char) :
    (count place : Nat) → Seen → Option Slots
  | 0, _, _ => none
  | count + 1, place, seen =>
    let fuel := 2 * machine.program.size * (text.size + 1) + 2
    let start : Way := ⟨machine.entry, place, Array.replicate machine.slots none⟩
    match explore machine.program text fuel [start] seen with
    | (some slots, _) => some slots
    | (none, seen) => searchFrom machine text count (place + 1) seen

/-- The first match that begins at `place` or later. -/
def search? (machine : Machine) (text : Array Char) (place : Nat) : Option Slots :=
  if text.size < place then none
  else machine.searchFrom text (text.size + 1 - place) place ∅

/-- The matches from `place` on, each beginning where the one before it ended or later. A match of
the empty text right at the end of the one before it, `last`, does not count. -/
def matchesFrom (machine : Machine) (text : Array Char) :
    (count place : Nat) → (last : Option Nat) → List Slots
  | 0, _, _ => []
  | count + 1, place, last =>
    match machine.search? text place with
    | none => []
    | some slots =>
      let start := (slots.getD 0 none).getD 0
      let stop := (slots.getD 1 none).getD 0
      if start = stop ∧ last = some stop then
        match machine.search? text (place + 1) with
        | none => []
        | some slots =>
          let stop := (slots.getD 1 none).getD 0
          slots :: matchesFrom machine text count stop (some stop)
      else slots :: matchesFrom machine text count stop (some stop)

/-- All matches that do not overlap, from left to right. Their ends rise strictly. -/
def allMatches (machine : Machine) (text : Array Char) : List Slots :=
  machine.matchesFrom text (text.size + 1) 0 none

end Machine
end StreamMask.Regex
