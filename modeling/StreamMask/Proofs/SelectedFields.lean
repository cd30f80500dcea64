/-
Which fields rules select, whatever they write.

Building gathers names, leaves out repetitions and puts maskers into an order, but
whether some masker answers for a field depends on two things alone: the paths
that occur in the rules, and the maskers supplied from outside
(`Rules.masks_iff_selects`). Whether a set can be built at all depends on the
paths and the regular expressions that occur (`Rules.build_isOk`).
-/
import StreamMask.Proofs.FieldPlans
import StreamMask.Proofs.Noninterference
import StreamMask.Proofs.UnfailingMaskers

namespace StreamMask

/-! ## Plans -/

namespace MaskGroup

theorem mem_join {masker : PathMasker} {groups : List MaskGroup} {pattern : Pattern} :
    pattern ∈ (join masker groups).flatMap patterns ↔
      pattern ∈ groups.flatMap patterns ∨ pattern = masker.pattern := by
  induction groups with
  | nil => simp [join]
  | cons group groups ih =>
    rw [join]
    split
    · simp only [List.flatMap_cons, List.mem_append, List.mem_singleton]
      exact or_right_comm
    · simp only [List.flatMap_cons, List.mem_append, ih, or_assoc]

end MaskGroup

namespace PathMasker

theorem mem_groups {maskers : List PathMasker} {pattern : Pattern} :
    pattern ∈ (groups maskers).flatMap MaskGroup.patterns ↔
      ∃ masker ∈ maskers, masker.isName = true ∧ masker.pattern = pattern := by
  induction maskers using List.reverseRecOn with
  | nil => simp [groups]
  | append_singleton maskers masker ih =>
    rw [groups_append]
    simp only [List.mem_append, List.mem_singleton, or_and_right, exists_or, exists_eq_left]
    split
    next h => rw [MaskGroup.mem_join, ih, and_iff_right h, eq_comm (a := pattern)]
    next h => rw [ih, iff_self_or]; exact fun hname => absurd hname.1 h

/-- The plain maskers have the paths that they are made of. -/
theorem mem_plain {maskers : List PathMasker} {pattern : Pattern} :
    (∃ masker ∈ plain maskers, masker.pattern = pattern) ↔
      ∃ masker ∈ maskers, masker.pattern = pattern := by
  have hgroups : (∃ masker ∈ (groups maskers).flatMap MaskGroup.maskers, masker.pattern = pattern) ↔
      pattern ∈ (groups maskers).flatMap MaskGroup.patterns := by
    simp [MaskGroup.maskers]
  simp only [plain, List.mem_append, or_and_right, exists_or, hgroups, mem_groups, List.mem_filter,
    Bool.not_eq_true', and_assoc]
  constructor
  · rintro (⟨masker, hmem, -, h⟩ | ⟨masker, hmem, -, h⟩)
    · exact ⟨masker, hmem, h⟩
    · exact ⟨masker, hmem, h⟩
  · rintro ⟨masker, hmem, h⟩
    cases hname : masker.isName with
    | true => exact .inl ⟨masker, hmem, hname, h⟩
    | false => exact .inr ⟨masker, hmem, hname, h⟩

theorem mask?_isSome {masker : PathMasker} {place : Position} :
    (masker.mask? place).isSome = true ↔ masker.pattern.fits place = true := by
  unfold mask?
  split <;> simp_all

end PathMasker

@[simp] theorem FieldMasker.mask_names (set : NameSet) (place : Position) :
    (names set).mask place = .ok (set.mask? place) := rfl

@[simp] theorem FieldMasker.mask_path (masker : PathMasker) (place : Position) :
    (path masker).mask place = .ok (masker.mask? place) := rfl

/-- A plan answers for a field just if one of its paths fits it. -/
theorem FieldPlan.answers_iff (maskers : List PathMasker) (place : Position) (name : String) :
    (∃ set ∈ (ofPaths maskers).nameSets, (set.mask? (place.inField name)).isSome = true) ∨
        (∃ masker ∈ (ofPaths maskers).paths, (masker.mask? (place.inField name)).isSome = true) ↔
      ∃ masker ∈ maskers, masker.pattern.fits (place.inField name) = true := by
  have hplain := congrArg Option.isSome (findSome?_plain maskers place name)
  rw [Option.isSome_or, Bool.eq_iff_iff, Bool.or_eq_true, List.findSome?_isSome_iff,
    List.findSome?_isSome_iff, List.findSome?_isSome_iff] at hplain
  rw [hplain]
  simp only [PathMasker.mask?_isSome]
  constructor
  · rintro ⟨masker, hmem, hfits⟩
    obtain ⟨first, hfirst, hpattern⟩ := PathMasker.mem_plain.1 ⟨masker, hmem, rfl⟩
    exact ⟨first, hfirst, hpattern ▸ hfits⟩
  · rintro ⟨masker, hmem, hfits⟩
    obtain ⟨first, hfirst, hpattern⟩ := PathMasker.mem_plain.2 ⟨masker, hmem, rfl⟩
    exact ⟨first, hfirst, hpattern ▸ hfits⟩

/-! ## Rules -/

namespace Rules

/-- The paths of some rules, as they are written. -/
def paths (rules : Rules) : List String := rules.pathRules.flatMap Rule.patterns

/-- Whether a path of the rules fits the place, or a masker supplied from outside has an answer. -/
def Selects (rules : Rules) (place : Position) : Prop :=
  (∃ path ∈ rules.paths, ∃ pattern, Pattern.parse path = .ok pattern ∧ pattern.fits place = true) ∨
    ∃ masker ∈ rules.fieldMaskers, ∃ mask, masker.mask place = .ok (some mask)

/-- Rules with the paths and the outside maskers of others select what these select. -/
theorem Selects.mono {rules more : Rules} (hpaths : rules.paths ⊆ more.paths)
    (hmaskers : rules.fieldMaskers ⊆ more.fieldMaskers) {place : Position}
    (h : rules.Selects place) : more.Selects place :=
  h.imp (fun ⟨path, hmem, hpath⟩ => ⟨path, hpaths hmem, hpath⟩)
    fun ⟨masker, hmem, hmasker⟩ => ⟨masker, hmaskers hmem, hmasker⟩

theorem mem_masked (defaultMask : Mask) {rules : List Rule} {pattern : String} :
    (∃ mask, (pattern, mask) ∈ masked defaultMask rules) ↔ pattern ∈ rules.flatMap Rule.patterns := by
  simp [masked]

section

variable {α : Type} {read : String → Mask → Except Failure α} {listed : List (String × Mask)}

/-- Reading gives values just if each pattern can be read, and then those that it gives. -/
theorem readAll_eq_ok {values : List α} :
    readAll read listed = .ok values ↔
      listed.map (fun rule => read rule.1 rule.2) = values.map .ok := by
  induction listed generalizing values with
  | nil => cases values <;> simp [readAll]
  | cons rule rest ih =>
    rw [readAll, List.map_cons]
    cases read rule.1 rule.2 with
    | error failure => cases values <;> simp
    | ok value =>
      dsimp only
      cases hrest : readAll read rest with
      | error failure =>
        have hnone : ∀ others : List α, rest.map (fun rule => read rule.1 rule.2) ≠ others.map .ok :=
          fun others hothers => by
            rw [ih.2 hothers] at hrest
            cases hrest
        cases values <;> simp [Except.map, hnone]
      | ok others =>
        rw [ih.1 hrest]
        cases values <;> simp [Except.map, List.map_inj_right]

theorem mem_of_readAll {values : List α} (h : readAll read listed = .ok values) {value : α} :
    value ∈ values ↔ ∃ rule ∈ listed, read rule.1 rule.2 = .ok value := by
  have hmem : value ∈ values ↔ Except.ok value ∈ values.map (Except.ok (ε := Failure)) := by simp
  rw [hmem, ← readAll_eq_ok.1 h, List.mem_map]

theorem readAll_isOk :
    (∃ values, readAll read listed = .ok values) ↔
      ∀ rule ∈ listed, ∃ value, read rule.1 rule.2 = .ok value := by
  constructor
  · rintro ⟨values, hvalues⟩ rule hmem
    have hread := List.mem_map_of_mem (f := fun rule : String × Mask => read rule.1 rule.2) hmem
    rw [readAll_eq_ok.1 hvalues] at hread
    obtain ⟨value, -, hvalue⟩ := List.mem_map.1 hread
    exact ⟨value, hvalue.symm⟩
  · intro h
    induction listed with
    | nil => exact ⟨[], rfl⟩
    | cons rule rest ih =>
      obtain ⟨⟨value, hvalue⟩, hrest⟩ := List.forall_mem_cons.1 h
      obtain ⟨values, hvalues⟩ := ih hrest
      exact ⟨value :: values, by rw [readAll, hvalue, hvalues]; rfl⟩

/-- Whether all patterns of some rules can be read does not depend on their masks. -/
theorem readAll_masked_isOk (read : String → Mask → Except Failure α) (readable : String → Prop)
    (h : ∀ pattern mask, (∃ value, read pattern mask = .ok value) ↔ readable pattern)
    (defaultMask : Mask) (rules : List Rule) :
    (∃ values, readAll read (masked defaultMask rules) = .ok values) ↔
      ∀ pattern ∈ rules.flatMap Rule.patterns, readable pattern := by
  rw [readAll_isOk]
  constructor
  · intro hread pattern hmem
    obtain ⟨mask, hlisted⟩ := (mem_masked defaultMask).2 hmem
    exact (h pattern mask).1 (hread (pattern, mask) hlisted)
  · rintro hreadable ⟨pattern, mask⟩ hlisted
    exact (h pattern mask).2 (hreadable pattern ((mem_masked _).1 ⟨mask, hlisted⟩))

end

theorem parse_eq_ok {path : String} {mask : Mask} {masker : PathMasker} :
    PathMasker.parse path mask = .ok masker ↔
      Pattern.parse path = .ok masker.pattern ∧ masker.mask = mask := by
  obtain ⟨pattern, first⟩ := masker
  rw [PathMasker.parse]
  cases Pattern.parse path with
  | error fault => simp
  | ok other => simp [eq_comm]

/-- What is built from rules answers for a field just if the rules select it. -/
theorem masks_iff_selects {rules : Rules} {set : MaskerSet} (h : rules.build = .ok set)
    (place : Position) (name : String) :
    set.Masks (place.inField name) ↔ rules.Selects (place.inField name) := by
  obtain ⟨paths, hpaths, hset⟩ := build_eq_ok h
  have hparsed : (∃ masker ∈ paths, masker.pattern.fits (place.inField name) = true) ↔
      ∃ path ∈ rules.paths, ∃ pattern,
        Pattern.parse path = .ok pattern ∧ pattern.fits (place.inField name) = true := by
    constructor
    · rintro ⟨masker, hmem, hfits⟩
      obtain ⟨⟨path, mask⟩, hlisted, hparse⟩ := (mem_of_readAll hpaths).1 hmem
      exact ⟨path, (mem_masked _).1 ⟨mask, hlisted⟩, masker.pattern, (parse_eq_ok.1 hparse).1, hfits⟩
    · rintro ⟨path, hmem, pattern, hparse, hfits⟩
      obtain ⟨mask, hlisted⟩ := (mem_masked _).2 hmem
      have hmasker : PathMasker.parse path mask = .ok ⟨pattern, mask⟩ := parse_eq_ok.2 ⟨hparse, rfl⟩
      exact ⟨⟨pattern, mask⟩, (mem_of_readAll hpaths).2 ⟨(path, mask), hlisted, hmasker⟩, hfits⟩
  unfold MaskerSet.Masks Selects
  rw [hset, ← hparsed, ← FieldPlan.answers_iff]
  simp [or_and_right, exists_or, or_assoc, Option.isSome_iff_exists]

/-- Rules can be built just if all their paths and regular expressions can be read. -/
theorem build_isOk {rules : Rules} :
    (∃ set, rules.build = .ok set) ↔
      (∀ path ∈ rules.paths, ∃ pattern, Pattern.parse path = .ok pattern) ∧
        ∀ text ∈ rules.valueRules.flatMap Rule.patterns, ∃ regex, Regex.compile text = .ok regex := by
  have hpaths := readAll_masked_isOk PathMasker.parse
    (fun path => ∃ pattern, Pattern.parse path = .ok pattern) (fun path mask => by
      rw [PathMasker.parse]
      cases Pattern.parse path <;> simp) rules.defaultMask rules.pathRules
  have hvalues := readAll_masked_isOk RegexMasker.parse
    (fun text => ∃ regex, Regex.compile text = .ok regex) (fun text mask => by
      rw [RegexMasker.parse]
      cases Regex.compile text <;> simp) rules.defaultMask rules.valueRules
  rw [paths, ← hpaths, ← hvalues]
  unfold build
  cases readAll PathMasker.parse (masked rules.defaultMask rules.pathRules) with
  | error failure => simp
  | ok paths =>
    cases readAll RegexMasker.parse (masked rules.defaultMask rules.valueRules) with
    | error failure => simp
    | ok regexes => simp

/-- The maskers of a built set that can fail are those supplied from outside. -/
theorem custom_mem_of_build {rules : Rules} {set : MaskerSet} (h : rules.build = .ok set) :
    (∀ decide, .custom decide ∈ set.fieldMaskers ↔ .custom decide ∈ rules.fieldMaskers) ∧
      ∀ decide, .custom decide ∈ set.valueMaskers ↔ .custom decide ∈ rules.valueMaskers := by
  unfold build at h
  split at h
  · cases h
  · split at h
    · cases h
    · cases h
      exact ⟨fun decide => by simp, fun decide => by simp⟩

/-- With the same maskers from outside nothing fails if nothing failed before. -/
theorem neverFails_of_build {rules more : Rules} {set larger : MaskerSet} (h : rules.build = .ok set)
    (hlarger : more.build = .ok larger) (hfields : more.fieldMaskers = rules.fieldMaskers)
    (hvalues : more.valueMaskers = rules.valueMaskers) (hset : set.NeverFails) :
    larger.NeverFails := by
  obtain ⟨hfield, hvalue⟩ := custom_mem_of_build h
  obtain ⟨hfield', hvalue'⟩ := custom_mem_of_build hlarger
  refine ⟨fun decide hmem => hset.field decide ?_, fun decide hmem => hset.value decide ?_⟩
  · rwa [hfield, ← hfields, ← hfield']
  · rwa [hvalue, ← hvalues, ← hvalue']

end Rules
end StreamMask
