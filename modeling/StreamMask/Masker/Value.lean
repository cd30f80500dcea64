/-
Value maskers: whether a scalar, or part of its text, is masked.

Value maskers form a chain: each sees what the one before it made of the scalar.
-/
import StreamMask.Regex

namespace StreamMask

/-- Replaces what a regular expression matches. -/
structure RegexMasker where
  regex : Regex
  mask : Mask

namespace RegexMasker

/-- Read the expression of a masker. -/
def parse (pattern : String) (mask : Mask) : Except Failure RegexMasker :=
  match Regex.compile pattern with
  | .error fault => .error (.invalidRegex pattern fault)
  | .ok regex => .ok ⟨regex, mask⟩

/-- A textual mask replaces every match; any other mask replaces the whole value once there is a
match. A replacement that changes nothing is none. -/
def mask? (masker : RegexMasker) (value : Scalar) : Option Mask :=
  match value.text? with
  | none => none
  | some text =>
    if masker.regex.isMatch text then
      match masker.mask.template? with
      | some template =>
        let replaced := masker.regex.replaceAll text template
        if replaced = text then none else some (.string replaced)
      | none => some masker.mask
    else none

end RegexMasker

/-- What decides whether a scalar is masked. -/
inductive ValueMasker where
  | regex (masker : RegexMasker)
  /-- A masker supplied from outside. It may fail, and its failure is passed on as it is. -/
  | custom (decide : Position → Scalar → Except Failure (Option Mask))

namespace ValueMasker

/-- The mask for the scalar at the position, if it is to be masked. -/
def mask : ValueMasker → Position → Scalar → Except Failure (Option Mask)
  | regex masker, _, value => .ok (masker.mask? value)
  | custom decide, position, value => decide position value

/-- What a chain of maskers makes of a scalar. -/
def chain : List ValueMasker → Position → Scalar → Except Failure Scalar
  | [], _, value => .ok value
  | masker :: rest, position, value =>
    match masker.mask position value with
    | .error failure => .error failure
    | .ok none => chain rest position value
    | .ok (some mask) => chain rest position mask.toScalar

end ValueMasker
end StreamMask
