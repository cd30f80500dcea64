/-
Configurations: rules as they are kept in a file.
-/
import StreamMask.Masker.Rules

namespace StreamMask

/-- What a configuration file says. -/
structure Config where
  schemaVersion : String := "1.0.0"
  /-- The mask of all rules that do not name one. -/
  defaultMask : Mask := .standard
  paths : List String := []
  pathMasks : List Rule := []
  values : List String := []
  valueMasks : List Rule := []
deriving DecidableEq, Repr

/-- Whether two rules have the same patterns and equal masks, or no mask both. -/
def Rule.agrees (a b : Rule) : Bool :=
  a.patterns = b.patterns &&
    match a.mask, b.mask with
    | some x, some y => x.agrees y
    | none, none => true
    | _, _ => false

namespace Config

instance : Inhabited Config := ⟨{}⟩

/-- Whether two lists of rules are equal rule by rule. -/
def rulesAgree : List Rule → List Rule → Bool
  | [], [] => true
  | a :: as, b :: bs => a.agrees b && rulesAgree as bs
  | _, _ => false

/-- Whether two configurations say the same; a mask that is not a number is equal to none. -/
def agrees (a b : Config) : Bool :=
  a.schemaVersion = b.schemaVersion && a.defaultMask.agrees b.defaultMask && a.paths = b.paths &&
    rulesAgree a.pathMasks b.pathMasks && a.values = b.values &&
    rulesAgree a.valueMasks b.valueMasks

/-- Whether the configuration has no rule that names anything. -/
def isEmpty (config : Config) : Bool :=
  config.paths.isEmpty && config.values.isEmpty &&
    config.pathMasks.all (fun rule => rule.patterns.isEmpty) &&
    config.valueMasks.all (fun rule => rule.patterns.isEmpty)

/-- The rules of a configuration. More may be added to them. -/
def rules (config : Config) : Rules where
  defaultMask := config.defaultMask
  pathRules := ⟨config.paths, none⟩ :: config.pathMasks
  valueRules := ⟨config.values, none⟩ :: config.valueMasks

end Config
end StreamMask
