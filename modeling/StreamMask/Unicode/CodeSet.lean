/-
Sets of characters as sorted, disjoint, inclusive ranges of code points.

Membership is a binary search. The set operations work on the sorted ranges and
`ofRanges` restores the order, so every set built here has at most one range that
can hold a given code point.
-/
namespace StreamMask.Unicode

/-- Inclusive ranges of code points, sorted and disjoint. -/
structure CodeSet where
  ranges : Array (Nat × Nat)
deriving DecidableEq, Repr

/-- The greatest code point. -/
def maxCode : Nat := 0x10FFFF

namespace CodeSet

/-- Put a range before sorted ranges that start no earlier, joining it with those it touches. -/
def joinRange : Nat × Nat → List (Nat × Nat) → List (Nat × Nat)
  | range, [] => [range]
  | (first, last), (first', last') :: rest =>
    if first' ≤ last + 1 then joinRange (first, max last last') rest
    else (first, last) :: (first', last') :: rest

/-- The set of all code points in the ranges, in any order and with any overlap. A range whose
end comes before its start holds nothing. -/
def ofRanges (ranges : List (Nat × Nat)) : CodeSet :=
  let sorted := (ranges.filter fun range => range.1 ≤ range.2).mergeSort fun a b => a.1 ≤ b.1
  ⟨(sorted.foldr joinRange []).toArray⟩

def empty : CodeSet := ⟨#[]⟩

def single (code : Nat) : CodeSet := ⟨#[(code, code)]⟩

/-- All code points but the surrogates. -/
def full : CodeSet := ⟨#[(0, 0xD7FF), (0xE000, maxCode)]⟩

/-- Search for `code` among the ranges from index `low` up to, not including, `high`. -/
def search (ranges : Array (Nat × Nat)) (code low high : Nat) : Bool :=
  if low < high then
    let middle := (low + high) / 2
    match ranges[middle]? with
    | none => false
    | some (first, last) =>
      if code < first then search ranges code low middle
      else if last < code then search ranges code (middle + 1) high
      else true
  else false
termination_by high - low
decreasing_by all_goals omega

def containsCode (set : CodeSet) (code : Nat) : Bool :=
  search set.ranges code 0 set.ranges.size

def contains (set : CodeSet) (c : Char) : Bool := set.containsCode c.toNat

def isEmpty (set : CodeSet) : Bool := set.ranges.isEmpty

def union (a b : CodeSet) : CodeSet := ofRanges (a.ranges.toList ++ b.ranges.toList)

/-- Everything that is in one of the sets. -/
def unions (sets : List CodeSet) : CodeSet := ofRanges (sets.flatMap fun set => set.ranges.toList)

/-- The gaps before, between and after sorted ranges, from `start` on. -/
def gaps (start : Nat) : List (Nat × Nat) → List (Nat × Nat)
  | [] => if start ≤ maxCode then [(start, maxCode)] else []
  | (first, last) :: rest =>
    if start < first then (start, first - 1) :: gaps (last + 1) rest else gaps (last + 1) rest

/-- Every code point outside the set, surrogates included. -/
def gapSet (set : CodeSet) : CodeSet := ⟨(gaps 0 set.ranges.toList).toArray⟩

/-- Every character outside the set. -/
def complement (set : CodeSet) : CodeSet :=
  gapSet (set.union ⟨#[(0xD800, 0xDFFF)]⟩)

def inter (a b : CodeSet) : CodeSet := (a.gapSet.union b.gapSet).gapSet

def diff (a b : CodeSet) : CodeSet := a.inter b.gapSet

def symmDiff (a b : CodeSet) : CodeSet := (a.diff b).union (b.diff a)

end CodeSet

/-! ## Tables

A table is a text of ranges, `41-5A` or `AA`, separated by blanks and line ends. -/

/-- The value of a hexadecimal digit written in upper case. -/
def hexValue (c : Char) : Nat :=
  if c.toNat < 58 then c.toNat - 48 else c.toNat - 55

/-- Read ranges: `first` is set once a hyphen has been passed, `number` is what the digits since
the last separator amount to, and `digits` tells whether there were any. -/
def readRanges (first : Option Nat) (number : Nat) (digits : Bool) : List Char → List (Nat × Nat)
  | [] => if digits then [(first.getD number, number)] else []
  | '-' :: rest => readRanges (some number) 0 false rest
  | c :: rest =>
    if c.isWhitespace then
      if digits then (first.getD number, number) :: readRanges none 0 false rest
      else readRanges none 0 false rest
    else readRanges first (number * 16 + hexValue c) true rest

/-- The set that a table lists. -/
def CodeSet.ofTable (table : String) : CodeSet := .ofRanges (readRanges none 0 false table.toList)

/-- Groups of numbers: members separated by blanks and line ends, groups by semicolons. `group`
holds the members read so far of the group in progress, last first. -/
def readGroups (text : List Char) : List (List Nat) :=
  let rec go (group : List Nat) (number : Nat) (digits : Bool) : List Char → List (List Nat)
    | [] => if digits then [(number :: group).reverse] else []
    | ';' :: rest => (if digits then number :: group else group).reverse :: go [] 0 false rest
    | c :: rest =>
      if c.isWhitespace then go (if digits then number :: group else group) 0 false rest
      else go group (number * 16 + hexValue c) true rest
  go [] 0 false text

end StreamMask.Unicode
