/-
What is built of rules.

A set is built just if all paths and all regular expressions can be read; otherwise the
first path that cannot be read is the reason, and if there is none the first regular
expression (`Rules.build_eq_error`). What is built has every name under every mask that it
is listed with, every other path and every regular expression, and nothing else; names and
paths that repeat an earlier one with an equal mask are in it once, and names with equal
masks are together (`Rules.Yields`).
-/
import Mathlib.Data.List.Forall2
import StreamMask.Config
import StreamMask.Proofs.GatheredNames
import StreamMask.Proofs.SelectedFields

namespace StreamMask

/-! ## Patterns that cannot be read -/

/-- Why a text is no path, if it is none. -/
def Failure.ofPath? (path : String) : Option Failure :=
  match Pattern.parse path with
  | .error fault => some (.invalidPath path fault)
  | .ok _ => none

/-- Why a text is no regular expression, if it is none. -/
def Failure.ofRegex? (text : String) : Option Failure :=
  match Regex.compile text with
  | .error fault => some (.invalidRegex text fault)
  | .ok _ => none

namespace Rules

theorem masked_patterns (defaultMask : Mask) (rules : List Rule) :
    (masked defaultMask rules).map Prod.fst = rules.flatMap Rule.patterns := by
  rw [masked, List.map_flatMap]
  refine congrArg (fun f => List.flatMap f rules) (funext fun rule => ?_)
  rw [List.map_map]
  exact List.map_id _

/-- Reading fails with what is wrong with the first pattern that cannot be read. -/
theorem readAll_eq_error {α : Type} {read : String → Mask → Except Failure α}
    {failure? : String → Option Failure}
    (h : ∀ pattern mask, (∃ value, read pattern mask = .ok value) ∧ failure? pattern = none ∨
      ∃ failure, read pattern mask = .error failure ∧ failure? pattern = some failure)
    {listed : List (String × Mask)} {failure : Failure} :
    readAll read listed = .error failure ↔
      (listed.map Prod.fst).findSome? failure? = some failure := by
  induction listed with
  | nil => simp [readAll]
  | cons rule rest ih =>
    rw [readAll, List.map_cons, List.findSome?_cons]
    rcases h rule.1 rule.2 with ⟨⟨value, hvalue⟩, hnone⟩ | ⟨reported, hreported, hsome⟩
    · rw [hvalue, hnone, ← ih]
      cases readAll read rest <;> simp [Except.map]
    · rw [hreported, hsome]
      simp

theorem parse_or_ofPath? (path : String) (mask : Mask) :
    (∃ masker, PathMasker.parse path mask = .ok masker) ∧ Failure.ofPath? path = none ∨
      ∃ failure, PathMasker.parse path mask = .error failure ∧ Failure.ofPath? path = some failure := by
  unfold PathMasker.parse Failure.ofPath?
  cases Pattern.parse path <;> simp

theorem compile_or_ofRegex? (text : String) (mask : Mask) :
    (∃ masker, RegexMasker.parse text mask = .ok masker) ∧ Failure.ofRegex? text = none ∨
      ∃ failure, RegexMasker.parse text mask = .error failure ∧ Failure.ofRegex? text = some failure := by
  unfold RegexMasker.parse Failure.ofRegex?
  cases Regex.compile text <;> simp

variable {rules : Rules}

/-- **The first path that cannot be read is why rules cannot be built**, or else the first regular
expression. -/
theorem build_eq_error {failure : Failure} :
    rules.build = .error failure ↔
      (rules.paths.findSome? Failure.ofPath?).or
        ((rules.valueRules.flatMap Rule.patterns).findSome? Failure.ofRegex?) = some failure := by
  have hpaths (reported : Failure) :
      readAll PathMasker.parse (masked rules.defaultMask rules.pathRules) = .error reported ↔
        rules.paths.findSome? Failure.ofPath? = some reported := by
    rw [readAll_eq_error parse_or_ofPath?, masked_patterns, paths]
  have hvalues (reported : Failure) :
      readAll RegexMasker.parse (masked rules.defaultMask rules.valueRules) = .error reported ↔
        (rules.valueRules.flatMap Rule.patterns).findSome? Failure.ofRegex? = some reported := by
    rw [readAll_eq_error compile_or_ofRegex?, masked_patterns]
  unfold build
  cases hread : readAll PathMasker.parse (masked rules.defaultMask rules.pathRules) with
  | error reported =>
    rw [(hpaths reported).1 hread]
    simp
  | ok parsed =>
    have hnone : rules.paths.findSome? Failure.ofPath? = none :=
      Option.eq_none_iff_forall_ne_some.2 fun reported hsome => by
        rw [(hpaths reported).2 hsome] at hread
        cases hread
    rw [hnone, Option.none_or, ← hvalues]
    cases readAll RegexMasker.parse (masked rules.defaultMask rules.valueRules) <;> simp

theorem compile_eq_ok {text : String} {mask : Mask} {masker : RegexMasker} :
    RegexMasker.parse text mask = .ok masker ↔
      Regex.compile text = .ok masker.regex ∧ masker.mask = mask := by
  obtain ⟨regex, first⟩ := masker
  rw [RegexMasker.parse]
  cases Regex.compile text with
  | error fault => simp
  | ok other => simp [eq_comm]

/-- Patterns that are read one by one are read in their order. -/
theorem forall₂_of_readAll {α : Type} {read : String → Mask → Except Failure α}
    {reads : String × Mask → α → Prop}
    (h : ∀ rule value, read rule.1 rule.2 = .ok value → reads rule value)
    {listed : List (String × Mask)} {values : List α} (hread : readAll read listed = .ok values) :
    List.Forall₂ reads listed values := by
  have hsame := readAll_eq_ok.1 hread
  rw [← List.forall₂_eq_eq_eq, List.forall₂_map_left_iff, List.forall₂_map_right_iff] at hsame
  exact hsame.imp fun rule value heq => h rule value heq

end Rules

/-! ## Sets -/

namespace Rules

/-- What a set that is built of rules consists of: the paths as they are read, sets of names, paths
that are no names, and regular expressions. A mask that is not a number is equal to none. -/
structure Yields (rules : Rules) (set : MaskerSet) (parsed : List PathMasker)
    (nameSets : List NameSet) (paths : List PathMasker) (regexes : List RegexMasker) : Prop where
  /-- Every path of the rules is read, in their order. -/
  parses : List.Forall₂ (fun listed masker =>
    Pattern.parse listed.1 = .ok masker.pattern ∧ masker.mask = listed.2)
    (masked rules.defaultMask rules.pathRules) parsed
  /-- Every regular expression is compiled, in their order, and those that repeat are kept. -/
  compiles : List.Forall₂ (fun listed masker =>
    Regex.compile listed.1 = .ok masker.regex ∧ masker.mask = listed.2)
    (masked rules.defaultMask rules.valueRules) regexes
  fieldMaskers : set.fieldMaskers = nameSets.map .names ++ paths.map .path ++ rules.fieldMaskers
  valueMaskers : set.valueMaskers = regexes.map .regex ++ rules.valueMaskers
  named : ∀ nameSet ∈ nameSets, nameSet.names ≠ [] ∧ nameSet.names.Nodup
  /-- There is a set for each mask that names are listed with, in the order in which they come first. -/
  masks : nameSets.map (·.mask) =
    ((parsed.filterMap PathMasker.named?).map Prod.snd).eraseDupsBy Mask.agrees
  /-- No two sets have equal masks. -/
  apart : nameSets.Pairwise fun earlier later => later.mask.agrees earlier.mask = false
  /-- A name is in a set with a mask just if it is listed with an equal one. -/
  names_listed : ∀ (name : String) (mask : Mask),
    (∃ nameSet ∈ nameSets, name ∈ nameSet.names ∧ mask.agrees nameSet.mask = true) ↔
      ∃ masker ∈ parsed, masker.pattern.singleName? = some name ∧ mask.agrees masker.mask = true
  unnamed : ∀ masker ∈ paths, masker.pattern.singleName? = none
  /-- No two paths are the same and have equal masks. -/
  different : paths.Pairwise fun earlier later =>
    ¬(later.pattern = earlier.pattern ∧ later.mask.agrees earlier.mask = true)
  /-- A path is kept where it comes first. -/
  ordered : paths = (parsed.filter fun masker => !masker.isName).eraseDupsBy PathMasker.agrees
  /-- A path has a masker with a mask just if it is listed with an equal one. -/
  paths_listed : ∀ (pattern : Pattern) (mask : Mask),
    (∃ masker ∈ paths, masker.pattern = pattern ∧ mask.agrees masker.mask = true) ↔
      pattern.singleName? = none ∧
        ∃ masker ∈ parsed, masker.pattern = pattern ∧ mask.agrees masker.mask = true
  /-- As many names are counted as there are names with different masks. -/
  counts : set.counts = {
    nameSets := nameSets.length
    names := ((parsed.filterMap PathMasker.named?).eraseDupsBy sameName).length
    paths := paths.length
    regexes := regexes.length
    customFields := rules.fieldMaskers.length
    customValues := rules.valueMaskers.length }

theorem any_named (parsed : List PathMasker) (name : String) (mask : Mask) :
    (parsed.filterMap PathMasker.named?).any (sameName (name, mask)) = true ↔
      ∃ masker ∈ parsed, masker.pattern.singleName? = some name ∧ mask.agrees masker.mask = true := by
  simp only [List.any_eq_true, List.mem_filterMap, PathMasker.named?, Option.map_eq_some_iff, sameName,
    Bool.and_eq_true, decide_eq_true_eq]
  constructor
  · rintro ⟨pair, ⟨masker, hmem, other, hother, rfl⟩, rfl, hmask⟩
    exact ⟨masker, hmem, hother, hmask⟩
  · rintro ⟨masker, hmem, hname, hmask⟩
    exact ⟨_, ⟨masker, hmem, name, hname, rfl⟩, rfl, hmask⟩

theorem holds_eq_true {sets : List NameSet} {name : String} {mask : Mask} :
    FieldPlan.holds sets name mask = true ↔
      ∃ nameSet ∈ sets, name ∈ nameSet.names ∧ mask.agrees nameSet.mask = true := by
  simp only [FieldPlan.holds, List.any_eq_true, Bool.and_eq_true, List.contains_iff_mem]

theorem any_paths (parsed : List PathMasker) (pattern : Pattern) (mask : Mask) :
    (∃ masker ∈ (parsed.filter fun masker => !masker.isName).eraseDupsBy PathMasker.agrees,
        masker.pattern = pattern ∧ mask.agrees masker.mask = true) ↔
      pattern.singleName? = none ∧
        ∃ masker ∈ parsed, masker.pattern = pattern ∧ mask.agrees masker.mask = true := by
  have hany (maskers : List PathMasker) :
      maskers.any (PathMasker.agrees ⟨pattern, mask⟩) = true ↔
        ∃ masker ∈ maskers, masker.pattern = pattern ∧ mask.agrees masker.mask = true := by
    simp only [List.any_eq_true, PathMasker.agrees, Bool.and_eq_true, decide_eq_true_eq,
      eq_comm (a := pattern)]
  rw [← hany, any_eraseDupsBy PathMasker.agrees_trans, hany]
  constructor
  · rintro ⟨masker, hmem, rfl, hmask⟩
    obtain ⟨hparsed, hother⟩ := List.mem_filter.1 hmem
    exact ⟨by simpa [PathMasker.isName] using hother, masker, hparsed, rfl, hmask⟩
  · rintro ⟨hother, masker, hmem, rfl, hmask⟩
    exact ⟨masker, List.mem_filter.2 ⟨hmem, by simp [PathMasker.isName, hother]⟩, rfl, hmask⟩

/-- **What is built of rules.** -/
theorem yields_of_build {rules : Rules} {set : MaskerSet} (h : rules.build = .ok set) :
    ∃ parsed nameSets paths regexes, rules.Yields set parsed nameSets paths regexes := by
  unfold build at h
  split at h
  · cases h
  next parsed hparsed =>
    split at h
    · cases h
    next regexes hregexes =>
      cases h
      have hnames := FieldPlan.nameSets_ofPaths parsed
      have hpaths := FieldPlan.paths_ofPaths parsed
      have hothers := pairwise_eraseDupsBy PathMasker.agrees
        (parsed.filter fun masker => !masker.isName)
      refine ⟨parsed, (FieldPlan.ofPaths parsed).nameSets, (FieldPlan.ofPaths parsed).paths, regexes, ?_⟩
      constructor
      case parses => exact forall₂_of_readAll (fun _ _ => parse_eq_ok.1) hparsed
      case compiles => exact forall₂_of_readAll (fun _ _ => compile_eq_ok.1) hregexes
      case fieldMaskers => rfl
      case valueMaskers => rfl
      case named =>
        rw [hnames]
        exact forall_gathered _
      case masks =>
        rw [hnames]
        exact masks_gathered _
      case apart =>
        rw [hnames]
        exact pairwise_gathered _
      case names_listed =>
        intro name mask
        rw [hnames, ← any_named, ← holds_gathered, holds_eq_true]
      case unnamed =>
        intro masker hmem
        rw [hpaths] at hmem
        have hother := (List.mem_filter.1 ((eraseDupsBy_sublist _ _).subset hmem)).2
        simpa [PathMasker.isName] using hother
      case different =>
        rw [hpaths]
        refine hothers.imp fun hdifferent => ?_
        simpa [PathMasker.agrees] using hdifferent
      case ordered => exact hpaths
      case paths_listed =>
        intro pattern mask
        rw [hpaths]
        exact any_paths parsed pattern mask
      case counts =>
        have hsum := sum_gathered (parsed.filterMap PathMasker.named?)
        rw [← hnames] at hsum
        rw [hsum]

section

variable {rules : Rules} {set : MaskerSet} {parsed paths : List PathMasker}
  {nameSets : List NameSet} {regexes : List RegexMasker}

theorem Yields.length_fieldMaskers (h : rules.Yields set parsed nameSets paths regexes) :
    set.fieldMaskers.length = set.counts.nameSets + set.counts.paths + set.counts.customFields := by
  simp [h.fieldMaskers, h.counts, Nat.add_assoc]

theorem Yields.length_valueMaskers (h : rules.Yields set parsed nameSets paths regexes) :
    set.valueMaskers.length = set.counts.regexes + set.counts.customValues := by
  simp [h.valueMaskers, h.counts]

/-- Where nothing is built, nothing is listed. -/
theorem Yields.eq_nil (h : rules.Yields set parsed nameSets paths regexes)
    (hset : set.isEmpty = true) :
    rules.paths = [] ∧ rules.valueRules.flatMap Rule.patterns = [] := by
  obtain ⟨hfields, hvalues⟩ : set.fieldMaskers = [] ∧ set.valueMaskers = [] := by
    simpa [MaskerSet.isEmpty] using hset
  rw [h.fieldMaskers, List.append_eq_nil_iff, List.append_eq_nil_iff, List.map_eq_nil_iff,
    List.map_eq_nil_iff] at hfields
  rw [h.valueMaskers, List.append_eq_nil_iff, List.map_eq_nil_iff] at hvalues
  obtain ⟨⟨rfl, rfl⟩, -⟩ := hfields
  obtain ⟨rfl, -⟩ := hvalues
  have hnames : parsed.filterMap PathMasker.named? = [] :=
    List.map_eq_nil_iff.1 (eraseDupsBy_eq_nil.1 h.masks.symm)
  have hothers : (parsed.filter fun masker => !masker.isName) = [] :=
    eraseDupsBy_eq_nil.1 h.ordered.symm
  have hparsed : parsed = [] := by
    refine List.eq_nil_iff_forall_not_mem.2 fun masker hmem => ?_
    have hname := List.filterMap_eq_nil_iff.1 hnames masker hmem
    have hother := List.filter_eq_nil_iff.1 hothers masker hmem
    simp only [PathMasker.named?, Option.map_eq_none_iff] at hname
    simp [PathMasker.isName, hname] at hother
  have hparses := h.parses.length_eq
  have hcompiles := h.compiles.length_eq
  rw [hparsed, List.length_nil, List.length_eq_zero_iff] at hparses
  rw [List.length_nil, List.length_eq_zero_iff] at hcompiles
  exact ⟨by rw [Rules.paths, ← masked_patterns, hparses]; rfl,
    by rw [← masked_patterns, hcompiles]; rfl⟩

end

/-- Of no patterns the maskers from outside are built. -/
theorem build_of_no_patterns {rules : Rules} (hpaths : rules.paths = [])
    (hvalues : rules.valueRules.flatMap Rule.patterns = []) :
    ∃ set, rules.build = .ok set ∧ set.fieldMaskers = rules.fieldMaskers ∧
      set.valueMaskers = rules.valueMaskers := by
  rw [Rules.paths, ← masked_patterns rules.defaultMask, List.map_eq_nil_iff] at hpaths
  rw [← masked_patterns rules.defaultMask, List.map_eq_nil_iff] at hvalues
  unfold build
  rw [hpaths, hvalues]
  exact ⟨_, rfl, rfl, rfl⟩

end Rules

/-- **A configuration is empty** just if nothing is built of it. -/
theorem Config.isEmpty_iff {config : Config} :
    config.isEmpty = true ↔ ∃ set, config.rules.build = .ok set ∧ set.isEmpty = true := by
  have hempty : config.isEmpty = true ↔
      config.rules.paths = [] ∧ config.rules.valueRules.flatMap Rule.patterns = [] := by
    simp [isEmpty, rules, Rules.paths, and_assoc, and_left_comm]
  rw [hempty]
  constructor
  · rintro ⟨hpaths, hvalues⟩
    obtain ⟨set, hbuild, hfields, hvalues⟩ := Rules.build_of_no_patterns hpaths hvalues
    refine ⟨set, hbuild, ?_⟩
    rw [MaskerSet.isEmpty, hfields, hvalues]
    rfl
  · rintro ⟨set, hbuild, hset⟩
    obtain ⟨parsed, nameSets, paths, regexes, hyields⟩ := Rules.yields_of_build hbuild
    exact hyields.eq_nil hset

namespace Rules

/-- **What a build yields.** It succeeds just if all paths and all regular expressions can be read, and
fails with what is wrong with the first path that cannot, or else the first regular expression. The
set has the names and the other paths that are listed, each once for equal masks, then the field
maskers from outside, and all regular expressions, then the value maskers from outside, as many as
are counted. A configuration is empty just if the set that is built of it is. -/
theorem build_yields (rules : Rules) :
    ((∃ set, rules.build = .ok set) ↔
      (∀ path ∈ rules.paths, ∃ pattern, Pattern.parse path = .ok pattern) ∧
        ∀ text ∈ rules.valueRules.flatMap Rule.patterns, ∃ regex, Regex.compile text = .ok regex) ∧
    (∀ failure, rules.build = .error failure ↔
      (rules.paths.findSome? Failure.ofPath?).or
        ((rules.valueRules.flatMap Rule.patterns).findSome? Failure.ofRegex?) = some failure) ∧
    (∀ set, rules.build = .ok set →
      (∃ parsed nameSets paths regexes, rules.Yields set parsed nameSets paths regexes) ∧
      set.fieldMaskers.length = set.counts.nameSets + set.counts.paths + set.counts.customFields ∧
      set.valueMaskers.length = set.counts.regexes + set.counts.customValues) ∧
    ∀ config : Config,
      config.isEmpty = true ↔ ∃ set, config.rules.build = .ok set ∧ set.isEmpty = true := by
  refine ⟨build_isOk, fun failure => build_eq_error, fun set hbuild => ?_,
    fun config => Config.isEmpty_iff⟩
  obtain ⟨parsed, nameSets, paths, regexes, hyields⟩ := yields_of_build hbuild
  exact ⟨⟨parsed, nameSets, paths, regexes, hyields⟩, hyields.length_fieldMaskers,
    hyields.length_valueMaskers⟩

/-- Names and a path under masks that are equal but not the same, a name that is listed twice with one
mask, regular expressions that repeat, and a masker from outside; and two paths that are none, in front
of a regular expression that is none. -/
theorem build_yields_zeros :
    let rules : Rules := {
      pathRules := [⟨["pin", "/a/b", "pin"], none⟩, ⟨["pin", "id"], some (.string "****")⟩,
        ⟨["code", "/a/b"], some (.float .zero)⟩, ⟨["code", "/a/b"], some (.float Binary64.zero.neg)⟩]
      valueRules := [⟨["a", "a"], none⟩]
      fieldMaskers := [.custom fun _ => .ok none] }
    let faulty : Rules :=
      { pathRules := [⟨["pin", "/"], none⟩, ⟨["a~"], none⟩], valueRules := [⟨["("], none⟩] }
    let config : Config := { pathMasks := [⟨[], some .null⟩] }
    (∃ set parsed nameSets paths regexes, rules.build = .ok set ∧
      rules.Yields set parsed nameSets paths regexes ∧
      set.counts = { nameSets := 2, names := 3, paths := 2, regexes := 2, customFields := 1 } ∧
      set.fieldMaskers.length = 5) ∧
    faulty.build = .error (.invalidPath "/" .noTokens) ∧
    ∃ set, config.rules.build = .ok set ∧ set.isEmpty = true := by
  intro rules faulty config
  obtain ⟨-, -, hbuilt, hconfig⟩ := build_yields rules
  obtain ⟨-, hfails, -⟩ := build_yields faulty
  refine ⟨?_, (hfails _).2 rfl, (hconfig config).1 rfl⟩
  obtain ⟨set, hset⟩ : ∃ set, rules.build = .ok set := ⟨_, rfl⟩
  have hcounts : rules.build.map (·.counts) =
      .ok { nameSets := 2, names := 3, paths := 2, regexes := 2, customFields := 1 } := rfl
  rw [hset] at hcounts
  obtain ⟨⟨parsed, nameSets, paths, regexes, hyields⟩, hlength, -⟩ := hbuilt set hset
  have hcounts : set.counts = _ := Except.ok.inj hcounts
  rw [hcounts] at hlength
  exact ⟨set, parsed, nameSets, paths, regexes, hset, hyields, hcounts, hlength⟩

end Rules
end StreamMask
