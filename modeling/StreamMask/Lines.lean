/-
Masking of texts that stand on lines of their own.
-/
import StreamMask.Json.Replay
import StreamMask.Text.Blank

namespace StreamMask

/-- A failure and the number of the line where it arose. -/
structure LineFailure where
  line : Nat
  failure : Failure
deriving DecidableEq, Repr

def LineFailure.message (fault : LineFailure) : String :=
  "line " ++ toString fault.line ++ ": " ++ fault.failure.message

namespace Lines

/-- The lines of bytes; `current` holds those of the line in progress, last first. A line that is
ended may have a carriage return before its end, which is none of it. A last line without an end is
a line if there is anything on it. -/
def split (current : List UInt8) : List UInt8 → List (List UInt8)
  | [] => if current = [] then [] else [current.reverse]
  | b :: rest =>
    if b = 10 then
      (match current with
        | 13 :: line => line.reverse
        | line => line.reverse) :: split [] rest
    else split (b :: current) rest

variable {ω : Type} [Output ω]

/-- What is written for a line: nothing if it is blank. -/
def maskLine (set : MaskerSet) (line : List UInt8) : Except Failure (Option String) :=
  match Text.ofBytes? line with
  | none => .error (.io .notUtf8)
  | some text => if Text.isAllBlank text then .ok none else (maskText set text).map some

/-- Mask lines one by one up to the first that fails. `number` is the number of the last line so
far and `count` that of texts masked so far. -/
def maskFrom (set : MaskerSet) (output : ω) (number count : Nat) :
    List (List UInt8) → ω × Except LineFailure Nat
  | [] =>
    match Output.flush output with
    | (output, none) => (output, .ok count)
    | (output, some fault) => (output, .error ⟨number, .io fault⟩)
  | line :: rest =>
    match maskLine set line with
    | .error failure => (output, .error ⟨number + 1, failure⟩)
    | .ok none => maskFrom set output (number + 1) count rest
    | .ok (some masked) =>
      match Output.put output (masked ++ "\n") with
      | (output, none) => maskFrom set output (number + 1) (count + 1) rest
      | (output, some fault) => (output, .error ⟨number + 1, .io fault⟩)

end Lines

/-- Mask every line that is not blank, each as one text on a line of its own: how many there were.
The first failure ends the work, and what was written before stays written. -/
def maskLines {ω : Type} [Output ω] (set : MaskerSet) (input : List UInt8) (output : ω) :
    ω × Except LineFailure Nat :=
  Lines.maskFrom set output 0 0 (Lines.split [] input)

end StreamMask
