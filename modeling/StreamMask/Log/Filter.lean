/-
Filters: which entries are let through, by the part of the program that they come
from and by the names of their fields.

A filter is a list of directives. Of those that concern an entry the most specific
one decides: the one with the longest target, then the one with the most fields.
-/
import StreamMask.Binary64.Reading
import StreamMask.Log.Line
import StreamMask.Regex
import StreamMask.Text.Blank
import StreamMask.Text.Utf8
import StreamMask.Unicode.Recent

namespace StreamMask.Log

/-- How much is let through. -/
inductive Verbosity where
  | off
  /-- Entries of the level and graver ones. -/
  | upTo (level : Level)
deriving DecidableEq, Repr

namespace Verbosity

/-- Every verbosity, from the greatest. -/
def all : List Verbosity :=
  [.upTo .trace, .upTo .debug, .upTo .info, .upTo .warn, .upTo .error, .off]

def name : Verbosity → String
  | off => "off"
  | upTo level => level.name

/-- The place in the order of verbosities, zero for none. -/
def rank : Verbosity → Nat
  | off => 0
  | upTo level => 5 - level.rank

def admits (verbosity : Verbosity) (level : Level) : Bool := (upTo level).rank ≤ verbosity.rank

/-- The greater of two. -/
def max (a b : Verbosity) : Verbosity := if a.rank < b.rank then b else a

/-- The verbosity that a directive names: by its name in any case, or by its rank. -/
def ofDirective? (text : List Char) : Option Verbosity :=
  let digits := match text with
    | '+' :: rest => rest
    | text => text
  if digits ≠ [] ∧ digits.all Char.isDigit then
    all.find? fun verbosity => verbosity.rank = Text.digitsValue 0 digits
  else
    let name := (String.ofList text).map Char.toLower
    all.find? fun verbosity => verbosity.name = name

end Verbosity

/-- A field that a directive asks for. -/
structure FieldTest where
  name : String
  hasValue : Bool
deriving DecidableEq, Repr

/-- One part of a filter. -/
structure Directive where
  target : Option String := none
  span : Option String := none
  fields : List FieldTest := []
  verbosity : Verbosity := .upTo .trace
deriving DecidableEq, Repr

namespace Directive

/-- Whether the directive can decide without knowing spans or values. -/
def isPlain (directive : Directive) : Bool :=
  directive.span.isNone && directive.fields.all fun field => !field.hasValue

/-- Whether the directive concerns an entry. -/
def concerns (directive : Directive) (entry : Entry) : Bool :=
  (match directive.target with
    | some target => target.toList.isPrefixOf entry.target.toList
    | none => true) &&
  directive.fields.all fun field => entry.fields.any fun (name, _) => name = field.name

/-- How long the target is; none at all is shorter than an empty one. -/
def reach (directive : Directive) : Nat :=
  match directive.target with
  | some target => target.utf8ByteSize + 1
  | none => 0

/-- Whether one of two directives that concern the same entry is asked before the other: its target
is longer, or it asks for more fields, or for one whose name comes later. -/
def isBefore (a b : Directive) : Bool :=
  if a.reach ≠ b.reach then b.reach < a.reach
  else if a.fields.length ≠ b.fields.length then b.fields.length < a.fields.length
  else b.fields.map FieldTest.name < a.fields.map FieldTest.name

/-- Whether two directives ask for the same. -/
def sameScope (a b : Directive) : Bool :=
  a.target = b.target && a.fields.map FieldTest.name = b.fields.map FieldTest.name

/-! ## Reading -/

/-- Whether a character can begin a directive without a span. -/
def canBegin (c : Char) : Bool :=
  c = '-' || c = ':' || c = '_' || Unicode.isLetter c || Unicode.isNumber c

/-- Whether a text names a number that has no digits. -/
def isNamedNumber (text : List Char) : Bool :=
  let name := match text with
    | '+' :: rest | '-' :: rest => rest
    | text => text
  ["inf", "infinity", "nan"].contains (String.ofList (name.map Char.toLower))

/-- Whether a value to compare with can be read: as a word, as a number, or as an expression that
does not ask for the words of Unicode. -/
def isValue (text : List Char) : Bool :=
  let word := String.ofList text
  word = "true" || word = "false" || (Binary64.ofText? text).isSome || isNamedNumber text ||
    match Regex.parse? word with
    | some (expr, _) => !expr.asksUnicode
    | none => false

/-- Read a field that is asked for: a name, or a name and a value. -/
def readTest (text : List Char) : Option FieldTest :=
  if text = [] then none
  else
    let name := String.ofList (text.takeWhile (· ≠ '='))
    match text.dropWhile (· ≠ '=') with
    | [] => some ⟨name, false⟩
    | _ :: value => if isValue (value.takeWhile (· ≠ '=')) then some ⟨name, true⟩ else none

/-! A directive is read without the blanks before it, which decides where its parts begin and end.
The parts are then taken from the whole text at the same places, counted in bytes from its
beginning: `source` is the whole text. -/

/-- Read a span in brackets, after the opening one, which ends at the place `start`: its name, and
in braces the field that is asked for. What follows the brackets is left. -/
def readSpan (source : List Char) (target : Option String) (start : Nat) (text : List Char) :
    Option (Directive × List Char) :=
  let isName := fun (c : Char) => c ≠ ']' && c ≠ '\x7b'
  let stop := start + Text.byteSize (text.takeWhile isName)
  match text.dropWhile isName with
  | ']' :: rest =>
    (Text.cut? source start stop).map fun name =>
      ({ target := target, span := some (String.ofList name) }, rest)
  | '\x7b' :: rest => do
    let name ← Text.cut? source start stop
    let field := rest.takeWhile (· ≠ '\x7d')
    let test ← readTest (← Text.cut? source (stop + 1) (stop + 1 + Text.byteSize field))
    match rest.dropWhile (· ≠ '\x7d') with
    | '\x7d' :: ']' :: rest =>
      some ({ target := target, span := if name = [] then none else some (String.ofList name)
              fields := [test] }, rest)
    | _ => none
  | _ => none

/-- Read what a directive is about: a target, a span, or both. What follows is left. -/
def readScope (source : List Char) (text : List Char) : Option (Directive × List Char) :=
  match text with
  | [] => none
  | '[' :: rest => readSpan source none 1 rest
  | first :: _ =>
    if canBegin first then do
      let name := text.takeWhile fun c => c ≠ '=' && c ≠ '['
      let target := String.ofList (← Text.cut? source 0 (Text.byteSize name))
      match text.dropWhile fun c => c ≠ '=' && c ≠ '[' with
      | '[' :: rest => readSpan source (some target) (Text.byteSize name + 1) rest
      | rest => some ({ target := some target }, rest)
    else none

/-- Read a directive: what it is about, and after an equals sign a verbosity, or only a verbosity.
A directive that begins with a blank names no verbosity. -/
def read (text : List Char) : Option Directive :=
  let word := text.dropWhile Text.isBlank
  match readScope text word with
  | none => none
  | some (directive, '=' :: level) =>
    if word.length < text.length then none
    else if level = [] then some directive
    else (Verbosity.ofDirective? level).map fun verbosity =>
      { directive with verbosity := verbosity }
  | some (directive, rest) =>
    if !rest.all Text.isBlank then none
    else if directive.span.isSome || !directive.fields.isEmpty then some directive
    else
      match Verbosity.ofDirective? text with
      | some verbosity => some { verbosity := verbosity }
      | none => some { target := some (String.ofList text) }

end Directive

/-- Directives in the order in which they were given. -/
structure Filter where
  directives : List Directive
deriving DecidableEq, Repr

namespace Filter

/-- The parts of a text between commas. -/
def split : List Char → List (List Char)
  | [] => [[]]
  | c :: rest =>
    if c = ',' then [] :: split rest
    else
      match split rest with
      | [] => [[c]]
      | part :: parts => (c :: part) :: parts

/-- The filter that a text says; all of its parts that are not empty must be directives. -/
def ofText? (text : String) : Option Filter :=
  (((split text.toList).filter (· ≠ [])).mapM Directive.read).map Filter.mk

/-- The filter that lets through so much of each target. -/
def ofTargets (targets : List String) (verbosity : Verbosity) : Filter :=
  ⟨targets.map fun target => { target := some target, verbosity := verbosity }⟩

/-- The greatest verbosity of all directives; values that are asked for may ask for everything. -/
def greatest (filter : Filter) : Verbosity :=
  if filter.directives.any fun directive => directive.fields.any FieldTest.hasValue then
    .upTo .trace
  else filter.directives.foldl (fun verbosity directive => verbosity.max directive.verbosity) .off

/-- Of two directives that concern an entry, the one that decides: the more specific one, or the
later one if both ask for the same. -/
def prefer (best : Option Directive) (directive : Directive) : Option Directive :=
  match best with
  | none => some directive
  | some best =>
    if best.sameScope directive || directive.isBefore best then some directive else some best

/-- Whether an entry outside all spans is let through. -/
def admits (filter : Filter) (entry : Entry) : Bool :=
  let concerned := filter.directives.filter fun directive =>
    directive.isPlain && directive.concerns entry
  match concerned.foldl prefer none with
  | none => false
  | some directive => directive.verbosity.admits entry.level

end Filter
end StreamMask.Log
