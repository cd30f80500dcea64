/-
Rules, and the masker sets that are built from them.

Rules name paths and regular expressions, with a mask of their own or without.
Building reads every one of them, so that a bad rule is found before any
document is. Names alone are gathered in one name set for each mask; what else
there is of paths keeps its order, without what repeats it.
-/
import StreamMask.Masker.Set

namespace StreamMask

/-- Patterns that share a mask; without one they have the default mask. -/
structure Rule where
  patterns : List String
  mask : Option Mask
deriving DecidableEq, Repr

/-- All rules, in the order in which they were given. -/
structure Rules where
  defaultMask : Mask := .standard
  pathRules : List Rule := []
  valueRules : List Rule := []
  fieldMaskers : List FieldMasker := []
  valueMaskers : List ValueMasker := []

/-- The field maskers that paths amount to. -/
structure FieldPlan where
  nameSets : List NameSet := []
  paths : List PathMasker := []

namespace FieldPlan

/-- Add a name to the first set whose mask is equal, or else to a new set at the end. -/
def insertName (name : String) (mask : Mask) : List NameSet → List NameSet
  | [] => [⟨[name], mask⟩]
  | set :: rest =>
    if set.mask.agrees mask then set.insert name :: rest else set :: insertName name mask rest

/-- Add the masker of one path. -/
def add (plan : FieldPlan) (masker : PathMasker) : FieldPlan :=
  match masker.pattern.singleName? with
  | some name => { plan with nameSets := insertName name masker.mask plan.nameSets }
  | none =>
    if plan.paths.any (·.agrees masker) then plan
    else { plan with paths := plan.paths ++ [masker] }

def ofPaths (maskers : List PathMasker) : FieldPlan := maskers.foldl add {}

end FieldPlan

namespace Rules

/-- Every pattern of some rules with its mask. -/
def masked (defaultMask : Mask) (rules : List Rule) : List (String × Mask) :=
  rules.flatMap fun rule => rule.patterns.map fun pattern => (pattern, rule.mask.getD defaultMask)

/-- Read patterns one by one, up to the first that cannot be read. -/
def readAll {α : Type} (read : String → Mask → Except Failure α) :
    List (String × Mask) → Except Failure (List α)
  | [] => .ok []
  | (pattern, mask) :: rest =>
    match read pattern mask with
    | .error failure => .error failure
    | .ok value => (readAll read rest).map (value :: ·)

/-- The set of maskers that the rules amount to: name sets, then paths, then the field maskers
supplied from outside; regular expressions, then the value maskers supplied from outside. -/
def build (rules : Rules) : Except Failure MaskerSet :=
  match readAll PathMasker.parse (masked rules.defaultMask rules.pathRules) with
  | .error failure => .error failure
  | .ok paths =>
    match readAll RegexMasker.parse (masked rules.defaultMask rules.valueRules) with
    | .error failure => .error failure
    | .ok regexes =>
      let plan := FieldPlan.ofPaths paths
      .ok {
        fieldMaskers := plan.nameSets.map .names ++ plan.paths.map .path ++ rules.fieldMaskers
        valueMaskers := regexes.map .regex ++ rules.valueMaskers
        counts := {
          nameSets := plan.nameSets.length
          names := plan.nameSets.foldr (fun set count => set.names.length + count) 0
          paths := plan.paths.length
          regexes := regexes.length
          customFields := rules.fieldMaskers.length
          customValues := rules.valueMaskers.length } }

/-! ## Adding rules -/

def withDefaultMask (rules : Rules) (mask : Mask) : Rules := { rules with defaultMask := mask }

/-- Mask the fields that the paths select. -/
def maskPaths (rules : Rules) (paths : List String) (mask : Option Mask) : Rules :=
  { rules with pathRules := rules.pathRules ++ [⟨paths, mask⟩] }

/-- Mask what the regular expressions match. -/
def maskValues (rules : Rules) (patterns : List String) (mask : Option Mask) : Rules :=
  { rules with valueRules := rules.valueRules ++ [⟨patterns, mask⟩] }

def addFieldMasker (rules : Rules) (masker : FieldMasker) : Rules :=
  { rules with fieldMaskers := rules.fieldMaskers ++ [masker] }

def addValueMasker (rules : Rules) (masker : ValueMasker) : Rules :=
  { rules with valueMaskers := rules.valueMaskers ++ [masker] }

end Rules
end StreamMask
