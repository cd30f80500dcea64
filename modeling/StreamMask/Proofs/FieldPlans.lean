/-
What rules for fields amount to, and that it does not show how.

Names that are masked alike are gathered in one set, and a path that repeats
another one is left out. The plain way is to keep a masker for every path, names
first in groups (`PathMasker.plain`). A set of names differs from the paths of
its names inside arrays, where a name can be the index of an item; but a stream
asks only at fields, and there the two agree, so no stream shows which way its
maskers were made (`Rules.build_interchangeable_plain`).
-/
import Mathlib.Data.List.Induction
import StreamMask.Masker.Rules
import StreamMask.Proofs.InStep

namespace StreamMask

/-! ## Names at fields -/

namespace NameSet

theorem ofNames_append (names : List String) (name : String) (mask : Mask) :
    ofNames (names ++ [name]) mask = (ofNames names mask).insert name :=
  List.foldl_append ..

@[simp] theorem insert_mask (set : NameSet) (name : String) : (set.insert name).mask = set.mask := by
  unfold insert
  split <;> rfl

theorem mem_insert {set : NameSet} {name other : String} :
    other ∈ (set.insert name).names ↔ other ∈ set.names ∨ other = name := by
  unfold insert
  split
  next h =>
    rw [List.contains_iff_mem] at h
    exact ⟨.inl, fun hor => hor.elim id fun heq => heq ▸ h⟩
  next h => simp

@[simp] theorem ofNames_mask (names : List String) (mask : Mask) :
    (ofNames names mask).mask = mask := by
  induction names using List.reverseRecOn with
  | nil => rfl
  | append_singleton names name ih => rw [ofNames_append, insert_mask, ih]

theorem mem_ofNames {names : List String} {mask : Mask} {name : String} :
    name ∈ (ofNames names mask).names ↔ name ∈ names := by
  induction names using List.reverseRecOn with
  | nil => rfl
  | append_singleton names other ih =>
    rw [ofNames_append, mem_insert, ih, List.mem_append, List.mem_singleton]

theorem mask?_inField (set : NameSet) (place : Position) (name : String) :
    set.mask? (place.inField name) = if name ∈ set.names then some set.mask else none := by
  show (if set.names.contains name then some set.mask else none) = _
  simp only [List.contains_iff_mem]

end NameSet

namespace Pattern

theorem singleName?_eq_some {pattern : Pattern} {name : String} :
    pattern.singleName? = some name ↔ ∃ index, pattern = ⟨false, [.literal name index]⟩ := by
  obtain ⟨absolute, tokens⟩ := pattern
  constructor
  · intro h
    simp only [singleName?] at h
    split at h
    · cases h
      exact ⟨_, rfl⟩
    · cases h
  · rintro ⟨index, h⟩
    rw [h]
    rfl

/-- The path of a name, at any depth. -/
def named (name : String) : Pattern := ⟨false, [.named name]⟩

theorem singleName?_named (name : String) : (named name).singleName? = some name := rfl

/-- The path of a name fits just the fields with this name. -/
theorem fits_inField {pattern : Pattern} {name : String} (h : pattern.singleName? = some name)
    (place : Position) (field : String) :
    pattern.fits (place.inField field) = decide (field = name) := by
  obtain ⟨index, rfl⟩ := singleName?_eq_some.1 h
  by_cases hname : field = name
  · simp [fits, fitTokens, Position.inField, Path.Token.fits, hname]
  · simp [fits, fitTokens, Position.inField, Path.Token.fits, hname]

end Pattern

/-- A set of names answers at fields as the paths of its names do. -/
theorem PathMasker.findSome?_names {patterns : List Pattern}
    (h : ∀ pattern ∈ patterns, pattern.singleName?.isSome = true) (mask : Mask) (place : Position)
    (name : String) :
    (patterns.map fun pattern => PathMasker.mk pattern mask).findSome? (·.mask? (place.inField name)) =
      (NameSet.ofNames (patterns.filterMap Pattern.singleName?) mask).mask? (place.inField name) := by
  rw [NameSet.mask?_inField, NameSet.ofNames_mask]
  simp only [NameSet.mem_ofNames]
  induction patterns with
  | nil => rfl
  | cons pattern patterns ih =>
    obtain ⟨hpattern, hpatterns⟩ := List.forall_mem_cons.1 h
    obtain ⟨other, hother⟩ := Option.isSome_iff_exists.1 hpattern
    rw [List.map_cons, List.findSome?_cons, mask?, Pattern.fits_inField hother,
      List.filterMap_cons_some hother]
    by_cases hname : name = other
    · simp [hname]
    · simp [hname, ih hpatterns]

/-! ## Names in groups -/

/-- Paths of names that are masked alike, in the order of the rules, with the mask of the first. -/
structure MaskGroup where
  patterns : List Pattern
  mask : Mask

namespace MaskGroup

/-- Put the path of a masker into the first group whose mask is equal, or else into a new group at
the end. -/
def join (masker : PathMasker) : List MaskGroup → List MaskGroup
  | [] => [⟨[masker.pattern], masker.mask⟩]
  | group :: rest =>
    if group.mask.agrees masker.mask then
      { group with patterns := group.patterns ++ [masker.pattern] } :: rest
    else group :: join masker rest

/-- A masker for each path of the group. -/
def maskers (group : MaskGroup) : List PathMasker :=
  group.patterns.map fun pattern => ⟨pattern, group.mask⟩

/-- The set of the names of the group. -/
def nameSet (group : MaskGroup) : NameSet :=
  .ofNames (group.patterns.filterMap Pattern.singleName?) group.mask

theorem join_names {P : Pattern → Prop} {masker : PathMasker} (hmasker : P masker.pattern)
    {groups : List MaskGroup} (h : ∀ group ∈ groups, ∀ pattern ∈ group.patterns, P pattern) :
    ∀ group ∈ join masker groups, ∀ pattern ∈ group.patterns, P pattern := by
  induction groups with
  | nil => simpa [join] using hmasker
  | cons group groups ih =>
    obtain ⟨hgroup, hgroups⟩ := List.forall_mem_cons.1 h
    rw [join]
    split
    · refine List.forall_mem_cons.2 ⟨?_, hgroups⟩
      simpa [or_imp, forall_and] using ⟨hgroup, hmasker⟩
    · exact List.forall_mem_cons.2 ⟨hgroup, ih hgroups⟩

/-- A name goes into the set of the group that its path goes into. -/
theorem insertName_nameSets {masker : PathMasker} {name : String}
    (h : masker.pattern.singleName? = some name) (groups : List MaskGroup) :
    FieldPlan.insertName name masker.mask (groups.map nameSet) = (join masker groups).map nameSet := by
  induction groups with
  | nil =>
    simp only [List.map_nil, FieldPlan.insertName, join, List.map_cons, nameSet,
      List.filterMap_cons_some h, List.filterMap_nil]
    rfl
  | cons group groups ih =>
    have hmask : group.nameSet.mask = group.mask := NameSet.ofNames_mask ..
    rw [List.map_cons, FieldPlan.insertName, join, hmask]
    split
    · rw [List.map_cons, nameSet, nameSet, List.filterMap_append, List.filterMap_cons_some h,
        List.filterMap_nil, NameSet.ofNames_append]
    · rw [List.map_cons, ih]

end MaskGroup

namespace PathMasker

/-- Whether the path is one name, at any depth. -/
def isName (masker : PathMasker) : Bool := masker.pattern.singleName?.isSome

/-- The names among the paths of some maskers, in groups that are masked alike. -/
def groups (maskers : List PathMasker) : List MaskGroup :=
  (maskers.filter isName).foldl (fun groups masker => MaskGroup.join masker groups) []

/-- A masker for every path: names first, group by group, then the others in order. -/
def plain (maskers : List PathMasker) : List PathMasker :=
  (groups maskers).flatMap MaskGroup.maskers ++ maskers.filter fun masker => !masker.isName

theorem groups_append (maskers : List PathMasker) (masker : PathMasker) :
    groups (maskers ++ [masker]) =
      if masker.isName then MaskGroup.join masker (groups maskers) else groups maskers := by
  simp only [groups, List.filter_append, List.foldl_append]
  by_cases h : masker.isName
  · simp [h]
  · simp [h]

theorem groups_names (maskers : List PathMasker) :
    ∀ group ∈ groups maskers, ∀ pattern ∈ group.patterns, pattern.singleName?.isSome = true := by
  induction maskers using List.reverseRecOn with
  | nil => simp [groups]
  | append_singleton maskers masker ih =>
    rw [groups_append]
    split
    next h => exact MaskGroup.join_names h ih
    · exact ih

end PathMasker

/-! ## Plans -/

namespace FieldPlan

open PathMasker

theorem ofPaths_append (maskers : List PathMasker) (masker : PathMasker) :
    ofPaths (maskers ++ [masker]) = (ofPaths maskers).add masker :=
  List.foldl_append ..

theorem nameSets_eq (maskers : List PathMasker) :
    (ofPaths maskers).nameSets = (groups maskers).map MaskGroup.nameSet := by
  induction maskers using List.reverseRecOn with
  | nil => rfl
  | append_singleton maskers masker ih =>
    rw [ofPaths_append, groups_append, add]
    cases h : masker.pattern.singleName? with
    | some name =>
      have hname : masker.isName = true := by simp [isName, h]
      rw [if_pos hname, ← MaskGroup.insertName_nameSets h, ← ih]
    | none =>
      have hother : ¬masker.isName = true := by simp [isName, h]
      rw [if_neg hother, ← ih]
      dsimp only
      split <;> rfl

/-- A path that repeats an earlier one has no answer that the earlier one does not have. -/
theorem findSome?_paths (maskers : List PathMasker) (place : Position) :
    (ofPaths maskers).paths.findSome? (·.mask? place) =
      (maskers.filter fun masker => !masker.isName).findSome? (·.mask? place) := by
  induction maskers using List.reverseRecOn with
  | nil => rfl
  | append_singleton maskers masker ih =>
    rw [ofPaths_append, add, List.filter_append, List.findSome?_append, ← ih]
    cases h : masker.pattern.singleName? with
    | some name => simp [isName, h]
    | none =>
      have hother : [masker].filter (fun masker => !masker.isName) = [masker] := by simp [isName, h]
      rw [hother]
      dsimp only
      split
      next hrepeats =>
        obtain ⟨first, hmem, hagrees⟩ := List.any_eq_true.1 hrepeats
        have hpattern : first.pattern = masker.pattern := by
          simp only [agrees, Bool.and_eq_true, decide_eq_true_eq] at hagrees
          exact hagrees.1
        cases hfound : (ofPaths maskers).paths.findSome? (·.mask? place) with
        | some mask => rfl
        | none =>
          have hfirst := List.findSome?_eq_none_iff.1 hfound first hmem
          simp only [PathMasker.mask?, hpattern, ite_eq_right_iff, reduceCtorEq, imp_false] at hfirst
          simp [PathMasker.mask?, hfirst]
      next hnew => rw [List.findSome?_append]

/-- At a field the gathered maskers have the answer that the plain ones have. -/
theorem findSome?_plain (maskers : List PathMasker) (place : Position) (name : String) :
    ((ofPaths maskers).nameSets.findSome? (·.mask? (place.inField name))).or
        ((ofPaths maskers).paths.findSome? (·.mask? (place.inField name))) =
      (plain maskers).findSome? (·.mask? (place.inField name)) := by
  rw [plain, List.findSome?_append, findSome?_paths, nameSets_eq]
  congr 1
  have hnames := groups_names maskers
  generalize groups maskers = groups at hnames
  induction groups with
  | nil => rfl
  | cons group groups ih =>
    obtain ⟨hgroup, hgroups⟩ := List.forall_mem_cons.1 hnames
    rw [List.map_cons, List.findSome?_cons, List.flatMap_cons, List.findSome?_append, ← ih hgroups,
      MaskGroup.maskers, findSome?_names hgroup, MaskGroup.nameSet]
    generalize NameSet.mask? _ _ = answer
    cases answer <;> rfl

end FieldPlan

namespace FieldMasker

/-- Maskers that cannot fail have the first answer among theirs, if there is one. -/
theorem firstMask_map_append {α : Type} {masker : α → FieldMasker} {answer : α → Option Mask}
    {place : Position} (h : ∀ a, (masker a).mask place = .ok (answer a)) (as : List α)
    (rest : List FieldMasker) :
    firstMask (as.map masker ++ rest) place =
      match as.findSome? answer with
      | some mask => .ok (some mask)
      | none => firstMask rest place := by
  induction as with
  | nil => rfl
  | cons a as ih =>
    rw [List.map_cons, List.cons_append, firstMask, h, List.findSome?_cons]
    cases answer a with
    | some mask => rfl
    | none => exact ih

theorem firstMask_append_congr {xs ys : List FieldMasker} {place : Position}
    (h : firstMask xs place = firstMask ys place) (before : List FieldMasker) :
    firstMask (before ++ xs) place = firstMask (before ++ ys) place := by
  induction before with
  | nil => exact h
  | cons masker before ih => rw [List.cons_append, List.cons_append, firstMask, firstMask, ih]

/-- What a plan has for a field is what the plain maskers of its paths have. -/
theorem firstMask_plain (paths : List PathMasker) (rest : List FieldMasker) (place : Position)
    (name : String) :
    firstMask ((FieldPlan.ofPaths paths).nameSets.map .names ++
        (FieldPlan.ofPaths paths).paths.map .path ++ rest) (place.inField name) =
      firstMask ((PathMasker.plain paths).map .path ++ rest) (place.inField name) := by
  rw [List.append_assoc, firstMask_map_append (fun _ => rfl), firstMask_map_append (fun _ => rfl),
    firstMask_map_append (fun _ => rfl), ← FieldPlan.findSome?_plain]
  cases (FieldPlan.ofPaths paths).nameSets.findSome? (·.mask? (place.inField name)) <;> rfl

/-- A set of names has for a field what the paths of its names have. -/
theorem firstMask_ofNames (names : List String) (mask : Mask) (rest : List FieldMasker)
    (place : Position) (name : String) :
    firstMask (.names (.ofNames names mask) :: rest) (place.inField name) =
      firstMask (names.map (fun name => .path ⟨.named name, mask⟩) ++ rest) (place.inField name) := by
  have hpaths : names.map (fun name => FieldMasker.path ⟨.named name, mask⟩) =
      ((names.map Pattern.named).map fun pattern => PathMasker.mk pattern mask).map .path := by
    simp only [List.map_map]
    rfl
  have hsingle : ∀ pattern ∈ names.map Pattern.named, pattern.singleName?.isSome = true := by
    simp [Pattern.singleName?_named]
  have hnames : (names.map Pattern.named).filterMap Pattern.singleName? = names := by
    rw [List.filterMap_map]
    exact List.filterMap_some
  have hset : FieldMasker.names (.ofNames names mask) :: rest =
      [NameSet.ofNames names mask].map .names ++ rest := rfl
  rw [hset, hpaths, firstMask_map_append (fun _ => rfl), firstMask_map_append (fun _ => rfl),
    PathMasker.findSome?_names hsingle, hnames, List.findSome?_singleton]

end FieldMasker

/-! ## Rules -/

namespace Rules

/-- What a set that has been built consists of. -/
theorem build_eq_ok {rules : Rules} {set : MaskerSet} (h : rules.build = .ok set) :
    ∃ paths, readAll PathMasker.parse (masked rules.defaultMask rules.pathRules) = .ok paths ∧
      set.fieldMaskers = (FieldPlan.ofPaths paths).nameSets.map .names ++
        (FieldPlan.ofPaths paths).paths.map .path ++ rules.fieldMaskers := by
  unfold build at h
  split at h
  · cases h
  next paths hpaths =>
    split at h
    · cases h
    · cases h
      exact ⟨paths, hpaths, rfl⟩

/-- **Gathering names and leaving out repetitions does not show.** A set that has been built and one
with a masker for every path, names first in groups of equal masks and the maskers supplied from
outside last, do the same to every stream. So a set of names may take the place of the paths of its
names anywhere among maskers, although the two have different answers inside arrays. -/
theorem build_interchangeable_plain {rules : Rules} {set : MaskerSet} (h : rules.build = .ok set) :
    (∃ paths, readAll PathMasker.parse (masked rules.defaultMask rules.pathRules) = .ok paths ∧
        set.Interchangeable
          { set with fieldMaskers := (PathMasker.plain paths).map .path ++ rules.fieldMaskers }) ∧
      (∀ (names : List String) (mask : Mask) (before after : List FieldMasker),
        MaskerSet.Interchangeable
          { set with fieldMaskers := before ++ .names (.ofNames names mask) :: after }
          { set with
            fieldMaskers := before ++ (names.map (fun name => .path ⟨.named name, mask⟩) ++ after) }) ∧
      ∀ (mask : Mask) (place : Position),
        (FieldMasker.names (.ofNames ["0"] mask)).mask (place.inItem 0) = .ok none ∧
          (FieldMasker.path ⟨.named "0", mask⟩).mask (place.inItem 0) = .ok (some mask) := by
  refine ⟨?_, fun names mask before after => ?_, fun mask place => ⟨rfl, ?_⟩⟩
  · obtain ⟨paths, hpaths, hset⟩ := build_eq_ok h
    refine ⟨paths, hpaths, MaskerSet.Agrees.interchangeable ⟨fun place name => ?_, fun _ _ => rfl⟩⟩
    show FieldMasker.firstMask set.fieldMaskers _ = _
    rw [hset]
    exact FieldMasker.firstMask_plain paths rules.fieldMaskers place name
  · refine MaskerSet.Agrees.interchangeable ⟨fun place name => ?_, fun _ _ => rfl⟩
    exact FieldMasker.firstMask_append_congr
      (FieldMasker.firstMask_ofNames names mask after place name) before
  · have hindex : Path.Token.named "0" = .literal "0" (some 0) := by decide
    simp [FieldMasker.mask, PathMasker.mask?, Pattern.named, hindex, Pattern.fits, Pattern.fitTokens,
      Position.inItem, Path.Token.fits]

/-- For two names and a path under two masks that are equal but not the same, and one of the names
again under a mask that is not equal to itself, the plain maskers are five. -/
theorem build_interchangeable_plain_zeros :
    let rules : Rules := { pathRules := [⟨["pin", "*/id"], some (.float .zero)⟩,
      ⟨["code", "*/id"], some (.float Binary64.zero.neg)⟩, ⟨["pin"], some (.float .nan)⟩] }
    ∃ set, rules.build = .ok set ∧
      set.Interchangeable { set with fieldMaskers :=
        [.path ⟨.named "pin", .float .zero⟩, .path ⟨.named "code", .float .zero⟩,
          .path ⟨.named "pin", .float .nan⟩,
          .path ⟨⟨false, [.wildcard, .named "id"]⟩, .float .zero⟩,
          .path ⟨⟨false, [.wildcard, .named "id"]⟩, .float Binary64.zero.neg⟩] } := by
  intro rules
  have hbuild : ∃ set, rules.build = .ok set := ⟨_, rfl⟩
  have hread : readAll PathMasker.parse (masked rules.defaultMask rules.pathRules) =
      .ok [⟨.named "pin", .float .zero⟩, ⟨⟨false, [.wildcard, .named "id"]⟩, .float .zero⟩,
        ⟨.named "code", .float Binary64.zero.neg⟩,
        ⟨⟨false, [.wildcard, .named "id"]⟩, .float Binary64.zero.neg⟩,
        ⟨.named "pin", .float .nan⟩] := by rfl
  obtain ⟨set, hset⟩ := hbuild
  obtain ⟨⟨paths, hpaths, hplain⟩, -⟩ := build_interchangeable_plain hset
  cases hread.symm.trans hpaths
  exact ⟨set, hset, hplain⟩

end Rules
end StreamMask
