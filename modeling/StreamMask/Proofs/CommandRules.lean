/-
Which rules a command masks with.

The configuration is that of the file which the command line names, or else the
environment, and the default one where neither does (`Config.Applies`). The command
line adds its paths and regular expressions behind those of the configuration. What is
built of them all is what is built of a list in which every pattern has its mask at hand
(`MaskOptions.build_extend`).
-/
import StreamMask.Proofs.MaskArguments
import StreamMask.Proofs.SelectedFields
import StreamMask.Proofs.Utf8Facts

namespace StreamMask

theorem mapError_eq_ok {α ε ε' : Type} {read : Except ε α} {f : ε → ε'} {value : α} :
    read.mapError f = .ok value ↔ read = .ok value := by
  cases read <;> simp [Except.mapError]

/-! ## Configurations -/

namespace Config

/-- Whether a file holds a configuration, as text in the format that goes with its name. -/
inductive IsIn (read : String → Except IoFault (List UInt8)) (path : String) : Config → Prop where
  | json {text : String} {config : Config} (content : read path = .ok (Text.encode text.toList))
      (format : extension? path = some "json") (reading : ofJson text.toList = .ok config) :
    IsIn read path config
  | toml {text : String} {config : Config} (content : read path = .ok (Text.encode text.toList))
      (format : extension? path = some "toml") (reading : ofToml text.toList = .ok config) :
    IsIn read path config

/-- Which configuration is used, for the file that the command line names, if any, and the one that the
environment names. An empty name in the environment is none. -/
inductive Applies (read : String → Except IoFault (List UInt8)) :
    Option String → Option String → Config → Prop where
  | argument {path : String} {environment : Option String} {config : Config}
      (holds : IsIn read path config) : Applies read (some path) environment config
  | environment {path : String} {config : Config} (named : path ≠ "")
      (holds : IsIn read path config) : Applies read none (some path) config
  | unnamed : Applies read none (some "") {}
  | unset : Applies read none none {}

variable {read : String → Except IoFault (List UInt8)}

theorem ofFile_eq_ok {path : String} {config : Config} :
    ofFile path (read path) = .ok config ↔ IsIn read path config := by
  constructor
  · intro h
    unfold ofFile at h
    split at h
    · contradiction
    · next bytes hbytes =>
      split at h
      · contradiction
      · next text htext =>
        rw [Text.ofBytes?_eq_some.mp htext] at hbytes
        split at h
        · next hformat => exact .json hbytes hformat (mapError_eq_ok.mp h)
        · next hformat => exact .toml hbytes hformat (mapError_eq_ok.mp h)
        · contradiction
  · intro h
    cases h with
    | @json text _ content format reading =>
      have htext : Text.ofBytes? (Text.encode text.toList) = some text := Text.ofBytes?_eq_some.mpr rfl
      simp only [ofFile, content, htext, format, mapError_eq_ok.mpr reading]
    | @toml text _ content format reading =>
      have htext : Text.ofBytes? (Text.encode text.toList) = some text := Text.ofBytes?_eq_some.mpr rfl
      simp only [ofFile, content, htext, format, mapError_eq_ok.mpr reading]

/-- A file that is named must hold a configuration. -/
theorem resolve_of_choose {argument environment : Option String} {path : String} {source : Source}
    (h : Resolved.choose argument environment = some (path, source)) {config : Config} :
    (∃ resolved, Resolved.resolve read argument environment = .ok resolved ∧
        resolved.config = config) ↔ IsIn read path config := by
  rw [← ofFile_eq_ok]
  simp only [Resolved.resolve, h]
  cases read path with
  | error fault => by_cases habsent : fault.isAbsence = true <;> simp [ofFile, habsent]
  | ok bytes => cases ofFile path (.ok bytes) <;> simp

/-- **The configuration that is found is the one that applies.** -/
theorem resolve_isOk {argument environment : Option String} {config : Config} :
    (∃ resolved, Resolved.resolve read argument environment = .ok resolved ∧
        resolved.config = config) ↔ Applies read argument environment config := by
  have hbuiltin (h : Resolved.choose argument environment = none) :
      (∃ resolved, Resolved.resolve read argument environment = .ok resolved ∧
        resolved.config = config) ↔ config = {} := by
    simp [Resolved.resolve, h, eq_comm]
  cases argument with
  | some path =>
    rw [resolve_of_choose rfl]
    exact ⟨.argument, fun h => by cases h; assumption⟩
  | none =>
    cases environment with
    | none =>
      rw [hbuiltin rfl]
      exact ⟨fun h => h ▸ .unset, fun h => by cases h; rfl⟩
    | some path =>
      by_cases hpath : path = ""
      · subst hpath
        rw [hbuiltin rfl]
        refine ⟨fun h => h ▸ .unnamed, fun h => ?_⟩
        cases h with
        | environment named holds => exact absurd rfl named
        | unnamed => rfl
      · have hchoose : Resolved.choose none (some path) = some (path, .environment) := if_neg hpath
        rw [resolve_of_choose hchoose]
        refine ⟨.environment hpath, fun h => ?_⟩
        cases h with
        | environment named holds => exact holds
        | unnamed => exact absurd rfl hpath

end Config

/-! ## Rules -/

namespace Rules

/-- Rules for patterns that each have a mask. -/
def ofPairs (paths values : List (String × Mask)) : Rules where
  pathRules := paths.map fun (path, mask) => ⟨[path], some mask⟩
  valueRules := values.map fun (text, mask) => ⟨[text], some mask⟩

theorem masked_pairs (default : Mask) (pairs : List (String × Mask)) :
    masked default (pairs.map fun (pattern, mask) => ⟨[pattern], some mask⟩) = pairs := by
  induction pairs with
  | nil => rfl
  | cons pair pairs ih => exact congrArg (pair :: ·) ih

/-- What is built depends on the patterns and their masks alone, and the maskers from outside. -/
theorem build_congr {rules more : Rules}
    (hpaths : masked rules.defaultMask rules.pathRules = masked more.defaultMask more.pathRules)
    (hvalues : masked rules.defaultMask rules.valueRules = masked more.defaultMask more.valueRules)
    (hfields : rules.fieldMaskers = more.fieldMaskers)
    (hmaskers : rules.valueMaskers = more.valueMaskers) : rules.build = more.build := by
  rw [build, build, hpaths, hvalues, hfields, hmaskers]

end Rules

namespace MaskOptions

/-- The default mask: that of the configuration, or the one that an argument says. -/
inductive DefaultMask (config : Config) : Option String → Mask → Prop where
  | config : DefaultMask config none config.defaultMask
  | json {argument : String} {mask : Mask} (h : mask.IsJson argument.toList) :
    DefaultMask config (some argument) mask
  | text {argument : String} (h : ∀ mask : Mask, ¬mask.IsJson argument.toList) :
    DefaultMask config (some argument) (.string argument)

/-- Patterns in order, each with its mask: those that a configuration lists without rules, those of its
rules, and those that are added to them. -/
def listed (default : Mask) (patterns : List String) (rules : List Rule) (added : List String) :
    List (String × Mask) :=
  patterns.map (·, default) ++
    rules.flatMap (fun rule => rule.patterns.map (·, rule.mask.getD default)) ++
    added.map (·, default)

/-- The rules of a configuration and of the command line, every pattern with its mask. -/
def allRules (options : MaskOptions) (config : Config) (default : Mask) : Rules :=
  .ofPairs (listed default config.paths config.pathMasks options.paths)
    (listed default config.values config.valueMasks options.values)

/-- Whether all paths and regular expressions can be read. -/
structure Readable (options : MaskOptions) (config : Config) : Prop where
  paths : ∀ path ∈ config.paths ++ config.pathMasks.flatMap Rule.patterns ++ options.paths,
    ∃ pattern, Pattern.parse path = .ok pattern
  values : ∀ text ∈ config.values ++ config.valueMasks.flatMap Rule.patterns ++ options.values,
    ∃ regex, Regex.compile text = .ok regex

theorem masked_eq_listed (default : Mask) (patterns : List String) (rules : List Rule)
    (added : List String) :
    Rules.masked default (⟨patterns, none⟩ :: rules ++ [⟨added, none⟩]) =
      listed default patterns rules added := by
  simp [Rules.masked, listed]

/-- The command line comes last. -/
theorem extend_rules (options : MaskOptions) (config : Config) :
    let rules := options.extend config.rules
    DefaultMask config options.mask rules.defaultMask ∧
      rules.pathRules = ⟨config.paths, none⟩ :: config.pathMasks ++ [⟨options.paths, none⟩] ∧
      rules.valueRules = ⟨config.values, none⟩ :: config.valueMasks ++ [⟨options.values, none⟩] ∧
      rules.fieldMaskers = [] ∧ rules.valueMaskers = [] := by
  unfold extend
  cases options.mask with
  | none => exact ⟨.config, rfl, rfl, rfl, rfl⟩
  | some argument =>
    refine ⟨?_, rfl, rfl, rfl, rfl⟩
    rcases Mask.ofArgument_cases argument with hjson | ⟨hnone, htext⟩
    · exact .json hjson
    · have hdefault : DefaultMask config (some argument) (.string argument) := .text hnone
      rwa [← htext] at hdefault

/-- **What is built of the rules** is what is built of all patterns with their masks. -/
theorem build_extend (options : MaskOptions) (config : Config) :
    ∃ default, DefaultMask config options.mask default ∧
      (options.extend config.rules).build = (options.allRules config default).build := by
  obtain ⟨hdefault, hpaths, hvalues, hfields, hmaskers⟩ := options.extend_rules config
  refine ⟨_, hdefault, Rules.build_congr ?_ ?_ hfields hmaskers⟩
  · rw [hpaths, masked_eq_listed, allRules, Rules.ofPairs, Rules.masked_pairs]
  · rw [hvalues, masked_eq_listed, allRules, Rules.ofPairs, Rules.masked_pairs]

/-- The rules can be built just if all patterns can be read. -/
theorem extend_isOk {options : MaskOptions} {config : Config} :
    (∃ set, (options.extend config.rules).build = .ok set) ↔ options.Readable config := by
  obtain ⟨-, hpaths, hvalues, -, -⟩ := options.extend_rules config
  rw [Rules.build_isOk, Rules.paths, hpaths, hvalues]
  simp only [List.cons_append, List.flatMap_cons, List.flatMap_append, List.flatMap_nil,
    List.append_nil, ← List.append_assoc]
  constructor
  · rintro ⟨hread, hcompile⟩
    exact ⟨hread, hcompile⟩
  · rintro ⟨hread, hcompile⟩
    exact ⟨hread, hcompile⟩

/-- No masker of a command comes from outside. -/
theorem neverFails_of_build {options : MaskOptions} {config : Config} {set : MaskerSet}
    (h : (options.extend config.rules).build = .ok set) : set.NeverFails := by
  obtain ⟨-, -, -, hfields, hmaskers⟩ := options.extend_rules config
  obtain ⟨hfield, hvalue⟩ := Rules.custom_mem_of_build h
  rw [hfields] at hfield
  rw [hmaskers] at hvalue
  exact .of_no_custom (by simp [hfield]) (by simp [hvalue])

end MaskOptions
end StreamMask
