/-
Regular expressions, after reading: what a pattern means, without its notation.

Expressions are built by functions that keep them in a simple form: texts are as
long as they can be, sequences hold no sequences and choices no choices, a choice
among characters is a set, and what all branches of a choice begin with stands
before it.
-/
import StreamMask.Unicode.CodeSet

namespace StreamMask.Regex

open Unicode (CodeSet)

/-- A condition on the characters around a place in the text. -/
inductive Look where
  | textStart
  | textEnd
  | lineStart
  | lineEnd
  /-- Lines that may end in a carriage return, a line feed, or both. -/
  | lineStartCr
  | lineEndCr
  | wordBoundary (unicode : Bool)
  | notWordBoundary (unicode : Bool)
  | wordStart (unicode : Bool)
  | wordEnd (unicode : Bool)
  | wordStartHalf (unicode : Bool)
  | wordEndHalf (unicode : Bool)
deriving DecidableEq, Repr

/-- Whether a condition asks for the words of Unicode. -/
def Look.asksUnicode : Look → Bool
  | wordBoundary unicode | notWordBoundary unicode | wordStart unicode | wordEnd unicode
  | wordStartHalf unicode | wordEndHalf unicode => unicode
  | _ => false

inductive Expr where
  | empty
  /-- One character after the other; there is at least one. -/
  | text (chars : List Char)
  /-- One character of a set. -/
  | chars (set : CodeSet)
  | look (look : Look)
  /-- A part of the match that can be referred to by its number. -/
  | group (index : Nat) (body : Expr)
  | concat (parts : List Expr)
  /-- A branch is preferred to those after it. -/
  | alt (branches : List Expr)
  /-- A greedy repetition prefers more rounds, one that is not prefers fewer. -/
  | repetition (least : Nat) (most : Option Nat) (greedy : Bool) (body : Expr)
deriving Repr

namespace Expr

/-! ## What expressions match -/

mutual

/-- How many characters a match has at least, if there can be one at all. -/
def minLength : Expr → Option Nat
  | empty | look _ => some 0
  | text letters => some letters.length
  | chars set => if set.isEmpty then none else some 1
  | group _ body => body.minLength
  | concat parts => minLengthSum parts
  | alt branches => minLengthLeast branches
  | repetition least _ _ body => body.minLength.map (least * ·)

def minLengthSum : List Expr → Option Nat
  | [] => some 0
  | part :: rest => do return (← part.minLength) + (← minLengthSum rest)

def minLengthLeast : List Expr → Option Nat
  | [] => none
  | [branch] => branch.minLength
  | branch :: rest => do return min (← branch.minLength) (← minLengthLeast rest)

end

/-- Whether every match has at least one character. An expression that matches nothing, or has a
part that matches nothing, does not count. -/
def consumes (expr : Expr) : Bool := expr.minLength.any (0 < ·)

mutual

/-- Whether the expression can match nothing but the empty text. -/
def onlyEmpty : Expr → Bool
  | empty | look _ => true
  | text _ | chars _ => false
  | group _ body => body.onlyEmpty
  | concat parts => allOnlyEmpty parts
  | alt branches => allOnlyEmpty branches
  | repetition _ _ _ body => body.onlyEmpty

def allOnlyEmpty : List Expr → Bool
  | [] => true
  | part :: rest => part.onlyEmpty && allOnlyEmpty rest

end

mutual

/-- Whether every match begins at a place where the condition holds. -/
def beginsWith (condition : Look) : Expr → Bool
  | look other => other = condition
  | empty | text _ | chars _ => false
  | group _ body => body.beginsWith condition
  | concat parts => sequenceBeginsWith condition parts
  | alt branches => allBeginWith condition branches
  | repetition least _ _ body => 0 < least && body.beginsWith condition

def sequenceBeginsWith (condition : Look) : List Expr → Bool
  | [] => false
  | part :: rest =>
    part.beginsWith condition || (part.onlyEmpty && sequenceBeginsWith condition rest)

def allBeginWith (condition : Look) : List Expr → Bool
  | [] => true
  | branch :: rest => branch.beginsWith condition && allBeginWith condition rest

end

mutual

/-- Whether every match ends at a place where the condition holds. -/
def endsWith (condition : Look) : Expr → Bool
  | look other => other = condition
  | empty | text _ | chars _ => false
  | group _ body => body.endsWith condition
  | concat parts => sequenceEndsWith condition parts
  | alt branches => allEndWith condition branches
  | repetition least _ _ body => 0 < least && body.endsWith condition

def sequenceEndsWith (condition : Look) : List Expr → Bool
  | [] => false
  | part :: rest =>
    sequenceEndsWith condition rest || (allOnlyEmpty rest && part.endsWith condition)

def allEndWith (condition : Look) : List Expr → Bool
  | [] => true
  | branch :: rest => branch.endsWith condition && allEndWith condition rest

end

mutual

/-- Whether the expression asks for the words of Unicode. -/
def asksUnicode : Expr → Bool
  | look condition => condition.asksUnicode
  | empty | text _ | chars _ => false
  | group _ body | repetition _ _ _ body => body.asksUnicode
  | concat parts | alt parts => anyAsksUnicode parts

def anyAsksUnicode : List Expr → Bool
  | [] => false
  | part :: rest => part.asksUnicode || anyAsksUnicode rest

end

mutual

/-- The greatest number of a group. -/
def groups : Expr → Nat
  | empty | text _ | chars _ | look _ => 0
  | group index body => max index body.groups
  | concat parts | alt parts => groupsOf parts
  | repetition _ _ _ body => body.groups

def groupsOf : List Expr → Nat
  | [] => 0
  | part :: rest => max part.groups (groupsOf rest)

end

mutual

/-- Whether two expressions are the same. -/
def same : Expr → Expr → Bool
  | empty, empty => true
  | text a, text b => a = b
  | chars a, chars b => a = b
  | look a, look b => a = b
  | group i a, group j b => i = j && same a b
  | concat a, concat b => allSame a b
  | alt a, alt b => allSame a b
  | repetition least most greedy a, repetition least' most' greedy' b =>
    least = least' && most = most' && greedy = greedy' && same a b
  | _, _ => false

def allSame : List Expr → List Expr → Bool
  | [], [] => true
  | a :: as, b :: bs => same a b && allSame as bs
  | _, _ => false

end

mutual

/-- Of how many expressions the expression is made. -/
def nodes : Expr → Nat
  | empty | text _ | chars _ | look _ => 1
  | group _ body | repetition _ _ _ body => body.nodes + 1
  | concat parts | alt parts => nodesOf parts + 1

def nodesOf : List Expr → Nat
  | [] => 0
  | part :: rest => part.nodes + nodesOf rest

end

/-! ## Building expressions -/

/-- One character of a set. -/
def ofSet (set : CodeSet) : Expr :=
  match set.ranges.toList with
  | [(first, last)] => if first = last then .text [Char.ofNat first] else .chars set
  | _ => .chars set

/-- A repetition. Once is enough for what matches only the empty text, no rounds at all match the
empty text, and exactly one round is the body itself. -/
def repeated (least : Nat) (most : Option Nat) (greedy : Bool) (body : Expr) : Expr :=
  let least' := if body.onlyEmpty then min least 1 else least
  let most' := if body.onlyEmpty then some ((most.map (min · 1)).getD 1) else most
  if least' = 0 ∧ most' = some 0 then .empty
  else if least' = 1 ∧ most' = some 1 then body
  else .repetition least' most' greedy body

/-- The parts of a sequence. -/
def parts : Expr → List Expr
  | empty => []
  | concat parts => parts
  | expr => [expr]

/-- Put a part before others, a text to the text that follows it. -/
def joinText : Expr → List Expr → List Expr
  | text a, text b :: rest => .text (a ++ b) :: rest
  | part, rest => part :: rest

/-- One expression after the other. -/
def sequence (exprs : List Expr) : Expr :=
  match (exprs.flatMap parts).foldr joinText [] with
  | [] => .empty
  | [part] => part
  | parts => .concat parts

/-- The branches of a choice. -/
def branches : Expr → List Expr
  | alt branches => branches
  | expr => [expr]

/-- The character that is all that an expression matches. -/
def single? : Expr → Option CodeSet
  | text [c] => some (.single c.toNat)
  | _ => none

/-- The set one character of which an expression matches. -/
def set? : Expr → Option CodeSet
  | chars set => some set
  | _ => none

/-- What two sequences begin with. -/
def commonParts : List Expr → List Expr → List Expr
  | a :: as, b :: bs => if a.same b then a :: commonParts as bs else []
  | _, _ => []

/-- The parts of an expression that is a sequence of several. -/
def several : Expr → List Expr
  | concat parts => parts
  | _ => []

/-- What all branches begin with, if they are sequences. -/
def commonBeginning : List Expr → List Expr
  | [] => []
  | branch :: rest =>
    rest.foldl (fun common other => commonParts common other.several) branch.several

/-- A choice; each round takes away what the branches begin with. -/
def choiceOf : Nat → List Expr → Expr
  | 0, exprs => .alt exprs
  | fuel + 1, exprs =>
    match exprs.flatMap branches with
    | [branch] => branch
    | all =>
      match all.mapM single? <|> all.mapM set? with
      | some sets => ofSet (.unions sets)
      | none =>
        match commonBeginning all with
        | [] => .alt all
        | beginning =>
          let rests := all.map fun branch => sequence (branch.several.drop beginning.length)
          sequence (beginning ++ [choiceOf fuel rests])

/-- A choice among expressions. -/
def choice (exprs : List Expr) : Expr := choiceOf (nodesOf exprs + 1) exprs

end Expr
end StreamMask.Regex
