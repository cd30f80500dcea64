/-
Which rule decides about a name that several rules list.

Names with equal masks are gathered where the first of them stands, so a name
that is listed with a mask moves up to the first rule with this mask, whatever
name that rule is for. The deciding rule is the first one that is for the name
or whose mask equals one that the name is listed with (`Rules.decisive`); it is
the first one for the name if no rule before it has such a mask.
-/
import StreamMask.Proofs.FieldPlans
import StreamMask.Proofs.TreeMasking

namespace StreamMask

/-! ## Equal masks -/

theorem Binary64.agrees_trans {x y z : Binary64} (hxy : x.agrees y = true) (hyz : y.agrees z = true) :
    x.agrees z = true := by
  simp only [agrees, Bool.and_eq_true, Bool.or_eq_true, beq_iff_eq, Bool.not_eq_true'] at hxy hyz ⊢
  obtain ⟨⟨hx, -⟩, hxy⟩ := hxy
  obtain ⟨⟨-, hz⟩, hyz⟩ := hyz
  refine ⟨⟨hx, hz⟩, ?_⟩
  have heq : ∀ {a b : Binary64}, a.bits = b.bits → a = b := fun {a b} h => by
    cases a
    cases b
    exact congrArg _ h
  rcases hxy with hxy | ⟨hx, hy⟩
  · rw [heq hxy]
    exact hyz
  · rcases hyz with hyz | ⟨-, hz⟩
    · rw [← heq hyz]
      exact .inr ⟨hx, hy⟩
    · exact .inr ⟨hx, hz⟩

theorem Binary64.agrees_comm (x y : Binary64) : x.agrees y = y.agrees x := by
  have hbits : (x.bits == y.bits) = (y.bits == x.bits) := Bool.beq_comm
  rw [agrees, agrees, hbits, Bool.and_comm x.isZero, Bool.and_comm (!x.isNaN)]

theorem Mask.agrees_cases {a b : Mask} (h : a.agrees b = true) :
    a = b ∨ ∃ x y : Binary64, a = .float x ∧ b = .float y ∧ x.agrees y = true := by
  unfold agrees at h
  split at h
  next x y => exact .inr ⟨x, y, rfl, rfl, h⟩
  · exact .inl (of_decide_eq_true h)

theorem Mask.agrees_trans {a b c : Mask} (hab : a.agrees b = true) (hbc : b.agrees c = true) :
    a.agrees c = true := by
  rcases agrees_cases hab with rfl | ⟨x, y, rfl, rfl, hxy⟩
  · exact hbc
  · rcases agrees_cases hbc with rfl | ⟨_, z, hy, rfl, hyz⟩
    · exact hab
    · cases hy
      exact Binary64.agrees_trans hxy hyz

theorem Mask.agrees_comm (a b : Mask) : a.agrees b = b.agrees a := by
  rw [Bool.eq_iff_iff]
  constructor
  · intro h
    rcases agrees_cases h with rfl | ⟨x, y, rfl, rfl, hxy⟩
    · exact h
    · exact (Binary64.agrees_comm y x).trans hxy
  · intro h
    rcases agrees_cases h with rfl | ⟨x, y, rfl, rfl, hxy⟩
    · exact h
    · exact (Binary64.agrees_comm y x).trans hxy

/-! ## The rules for names -/

namespace Rules

/-- The name and the mask of a path that is one name. -/
def nameOf (rule : String × Mask) : Option (String × Mask) :=
  (Pattern.parse rule.1).toOption.bind fun pattern =>
    pattern.singleName?.map fun name => (name, rule.2)

/-- The names that rules list, each with its mask, if there are no other paths. -/
def names? (rules : Rules) : Option (List (String × Mask)) :=
  (masked rules.defaultMask rules.pathRules).mapM nameOf

/-- Whether a pair has a name, or its mask equals one that the name is listed with. -/
def decides (pairs : List (String × Mask)) (name : String) (pair : String × Mask) : Bool :=
  pair.1 = name || pairs.any fun listed => listed.1 = name && pair.2.agrees listed.2

/-- The first of the pairs that decide about a name. -/
def decisive (pairs : List (String × Mask)) (name : String) : Option (String × Mask) :=
  pairs.find? (decides pairs name)

variable {pairs before after : List (String × Mask)} {name other : String} {mask : Mask}

theorem decides_append_self (pair : String × Mask) :
    decides (pairs ++ [(name, mask)]) name pair = (decides pairs name pair || pair.2.agrees mask) := by
  simp [decides, Bool.or_assoc]

theorem decides_insert_other (hne : other ≠ name) :
    decides (before ++ (other, mask) :: after) name = decides (before ++ after) name := by
  funext pair
  simp [decides, hne]

theorem decides_eq_false_iff {pair : String × Mask} :
    decides pairs name pair = false ↔
      pair.1 ≠ name ∧ ∀ listed ∈ pairs, listed.1 = name → pair.2.agrees listed.2 = false := by
  simp [decides]

theorem decides_of_find?_none {P : String × Mask → Bool}
    (h : (pairs.find? fun pair => decides pairs name pair || P pair) = none) {pair : String × Mask}
    (hpair : pair.1 ≠ name) : decides pairs name pair = false := by
  have hnone : ∀ listed ∈ pairs, listed.1 ≠ name := fun listed hmem hname =>
    List.find?_eq_none.1 h listed hmem (by simp [decides, hname])
  exact decides_eq_false_iff.2 ⟨hpair, fun listed hmem hname => absurd hname (hnone listed hmem)⟩

theorem exists_decides {listed : List (String × Mask)} (h : name ∈ listed.map Prod.fst)
    (pairs : List (String × Mask)) :
    ∃ pair, listed.find? (decides pairs name) = some pair := by
  obtain ⟨first, hmem, hname⟩ := List.mem_map.1 h
  exact Option.isSome_iff_exists.1 (List.find?_isSome.2 ⟨first, hmem, by simp [decides, hname]⟩)

theorem decisive_eq_first {first : String × Mask} (hfirst : first.1 = name)
    (hbefore : ∀ earlier ∈ before, decides (before ++ first :: after) name earlier = false) :
    decisive (before ++ first :: after) name = some first := by
  have hnone : before.find? (decides (before ++ first :: after) name) = none :=
    List.find?_eq_none.2 fun earlier hmem => by simp [hbefore earlier hmem]
  rw [decisive, List.find?_append, hnone, Option.none_or, List.find?_cons_of_pos]
  simp [decides, hfirst]

/-- A pair for another name takes nothing from a name that is listed before it, nor from one that is
not listed with a mask equal to its own. -/
theorem decisive_insert_other (hne : other ≠ name)
    (h : name ∈ before.map Prod.fst ∨ decides (before ++ after) name (other, mask) = false) :
    decisive (before ++ (other, mask) :: after) name = decisive (before ++ after) name := by
  rw [decisive, decides_insert_other hne, decisive, List.find?_append, List.find?_append]
  rcases h with h | h
  · obtain ⟨pair, hpair⟩ := exists_decides h (before ++ after)
    rw [hpair, Option.some_or, Option.some_or]
  · rw [List.find?_cons, h]

/-- The sets that names are gathered in. -/
def gathered (pairs : List (String × Mask)) : List NameSet :=
  pairs.foldl (fun sets pair => FieldPlan.insertName pair.1 pair.2 sets) []

theorem gathered_append (pairs : List (String × Mask)) (pair : String × Mask) :
    gathered (pairs ++ [pair]) = FieldPlan.insertName pair.1 pair.2 (gathered pairs) :=
  List.foldl_append ..

end Rules

/-! ## Names that are gathered -/

/-- The name and the mask of a masker whose path is one name. -/
def PathMasker.named? (masker : PathMasker) : Option (String × Mask) :=
  masker.pattern.singleName?.map fun name => (name, masker.mask)

namespace FieldPlan

/-- The names among some paths are gathered as they are listed. -/
theorem nameSets_ofPaths (maskers : List PathMasker) :
    (ofPaths maskers).nameSets = Rules.gathered (maskers.filterMap PathMasker.named?) := by
  induction maskers using List.reverseRecOn with
  | nil => rfl
  | append_singleton maskers masker ih =>
    rw [ofPaths_append, add, List.filterMap_append]
    cases hname : masker.pattern.singleName? with
    | some name =>
      have hnamed : [masker].filterMap PathMasker.named? = [(name, masker.mask)] := by
        simp [PathMasker.named?, hname]
      rw [hnamed, Rules.gathered_append, ih]
    | none =>
      have hnamed : [masker].filterMap PathMasker.named? = [] := by
        simp [PathMasker.named?, hname]
      rw [hnamed, List.append_nil, ← ih]
      dsimp only
      split <;> rfl

/-- A name that goes in is then found in the first set that has it already, that satisfies something
else, or whose mask equals its own, or else in a new set at the end. -/
theorem find?_insertName_self (name : String) (mask : Mask) (P : Mask → Bool) (sets : List NameSet) :
    ((insertName name mask sets).find? fun set => set.names.contains name || P set.mask).map (·.mask) =
      some (((sets.find? fun set =>
        set.names.contains name || (P set.mask || set.mask.agrees mask)).map (·.mask)).getD mask) := by
  induction sets with
  | nil => simp [insertName]
  | cons set sets ih =>
    rw [insertName]
    split
    next hagrees =>
      have hmem : name ∈ (set.insert name).names := NameSet.mem_insert.2 (.inr rfl)
      simp [hagrees, hmem]
    next hagrees =>
      rw [List.find?_cons, List.find?_cons]
      simp only [hagrees, Bool.or_false]
      split
      · rfl
      · simpa [hagrees] using ih

/-- Another name that goes in changes the sets that have a name only by a new set at the end. -/
theorem find?_insertName_other {name other : String} (hne : other ≠ name) {mask : Mask}
    {P : Mask → Bool} (hP : ∀ first : Mask, first.agrees mask = true → P mask = true → P first = true)
    (sets : List NameSet) :
    ((insertName other mask sets).find? fun set => set.names.contains name || P set.mask).map (·.mask) =
      ((sets.find? fun set => set.names.contains name || P set.mask).map (·.mask)).or
        (if P mask then some mask else none) := by
  induction sets with
  | nil =>
    have hother : [other].contains name = false := by simpa using hne.symm
    rw [insertName, List.find?_cons, hother]
    cases P mask <;> rfl
  | cons set sets ih =>
    rw [insertName]
    split
    next hagrees =>
      have hnames : (set.insert other).names.contains name = set.names.contains name := by
        simp [NameSet.mem_insert, hne.symm]
      rw [List.find?_cons, List.find?_cons, hnames, NameSet.insert_mask]
      cases hset : set.names.contains name || P set.mask with
      | true => simp
      | false =>
        have hmask : ¬P mask = true := fun h => by simp [hP set.mask hagrees h] at hset
        simp [hmask]
    next hagrees =>
      rw [List.find?_cons, List.find?_cons]
      split
      · rfl
      · exact ih

end FieldPlan

namespace Rules

/-- The first set that has a name or satisfies something else has the mask of the first pair that
decides about the name or satisfies it. What is said of masks is true of the first of equal masks if
it is true of another. -/
theorem find?_gathered (pairs : List (String × Mask)) (name : String) :
    ∀ {P : Mask → Bool}, (∀ a b : Mask, a.agrees b = true → P b = true → P a = true) →
      ((gathered pairs).find? fun set => set.names.contains name || P set.mask).map (·.mask) =
        (pairs.find? fun pair => decides pairs name pair || P pair.2).map Prod.snd := by
  induction pairs using List.reverseRecOn with
  | nil => exact fun _ => rfl
  | append_singleton pairs pair ih =>
    intro P hP
    obtain ⟨other, mask⟩ := pair
    rw [gathered_append, List.find?_append]
    -- A pair for the name lets earlier sets with an equal mask answer as well, so the induction
    -- hypothesis is used with more than `P`.
    by_cases hname : other = name
    · subst hname
      have hequal : ∀ a b : Mask, a.agrees b = true → (P b || b.agrees mask) = true →
          (P a || a.agrees mask) = true := by
        intro a b hab hb
        rcases Bool.or_eq_true_iff.1 hb with hb | hb
        · simp [hP a b hab hb]
        · simp [Mask.agrees_trans hab hb]
      have hfound : (pairs.find? fun pair =>
            decides (pairs ++ [(other, mask)]) other pair || P pair.2) =
          pairs.find? fun pair => decides pairs other pair || (P pair.2 || pair.2.agrees mask) := by
        simp only [decides_append_self, Bool.or_assoc, Bool.or_comm (P _)]
      rw [FieldPlan.find?_insertName_self, ih hequal, hfound, List.find?_singleton,
        if_pos (by simp [decides])]
      cases List.find? _ pairs <;> rfl
    · rw [FieldPlan.find?_insertName_other hname (fun first => hP first mask), ih hP,
        decides_insert_other hname, List.append_nil, List.find?_singleton]
      cases hfound : pairs.find? fun pair => decides pairs name pair || P pair.2 with
      | some first => rfl
      | none =>
        rw [decides_of_find?_none hfound hname, Bool.false_or]
        cases P mask <;> rfl

/-- At a field, sets have the mask of the first one that has the name. -/
theorem findSome?_names (sets : List NameSet) (place : Position) (name : String) :
    sets.findSome? (·.mask? (place.inField name)) =
      (sets.find? (·.names.contains name)).map (·.mask) := by
  induction sets with
  | nil => rfl
  | cons set sets ih =>
    rw [List.findSome?_cons, List.find?_cons, NameSet.mask?_inField, ih]
    by_cases hname : name ∈ set.names
    · simp [hname]
    · simp [hname]

theorem parse_of_nameOf {rule pair : String × Mask} (h : nameOf rule = some pair) :
    ∃ pattern : Pattern, PathMasker.parse rule.1 rule.2 = .ok ⟨pattern, pair.2⟩ ∧
      pattern.singleName? = some pair.1 := by
  obtain ⟨pattern, hparse, hmap⟩ := Option.bind_eq_some_iff.1 h
  obtain ⟨name, hname, rfl⟩ := Option.map_eq_some_iff.1 hmap
  cases hpattern : Pattern.parse rule.1 with
  | error fault => simp [hpattern, Except.toOption] at hparse
  | ok first =>
    rw [hpattern] at hparse
    cases hparse
    exact ⟨pattern, by rw [PathMasker.parse, hpattern], hname⟩

/-- Where all paths are names, the names are those that are listed. -/
theorem named_of_names {listed : List (String × Mask)} {paths : List PathMasker}
    {pairs : List (String × Mask)} (hpaths : readAll PathMasker.parse listed = .ok paths)
    (hpairs : listed.mapM nameOf = some pairs) : paths.filterMap PathMasker.named? = pairs := by
  induction listed generalizing paths pairs with
  | nil =>
    cases hpaths
    cases hpairs
    rfl
  | cons rule rest ih =>
    rw [List.mapM_cons] at hpairs
    obtain ⟨pair, hpair, hpairs⟩ := Option.bind_eq_some_iff.1 hpairs
    obtain ⟨pairs, hrest, hpairs⟩ := Option.bind_eq_some_iff.1 hpairs
    cases hpairs
    obtain ⟨pattern, hparse, hname⟩ := parse_of_nameOf hpair
    rw [readAll, hparse] at hpaths
    cases hread : readAll PathMasker.parse rest with
    | error failure =>
      rw [hread] at hpaths
      cases hpaths
    | ok others =>
      rw [hread] at hpaths
      cases hpaths
      have hnamed : PathMasker.named? ⟨pattern, pair.2⟩ = some pair := by
        rw [PathMasker.named?, hname, Option.map_some]
      rw [List.filterMap_cons_some hnamed, ih hread hrest]

/-- What a set that has been built has for a field that its rules list. -/
theorem fieldMask_of_decisive {rules : Rules} {set : MaskerSet} (h : rules.build = .ok set)
    {pairs : List (String × Mask)} (hpairs : rules.names? = some pairs) {name : String}
    {pair : String × Mask} (hpair : decisive pairs name = some pair) (place : Position) :
    set.fieldMask (place.inField name) = .ok (some pair.2) := by
  obtain ⟨paths, hpaths, hset⟩ := build_eq_ok h
  have hsets : (FieldPlan.ofPaths paths).nameSets = gathered pairs := by
    rw [FieldPlan.nameSets_ofPaths, named_of_names hpaths hpairs]
  have hanswer : (gathered pairs).findSome? (·.mask? (place.inField name)) = some pair.2 := by
    have hfound := find?_gathered pairs name (P := fun _ => false) (by simp)
    simp only [Bool.or_false] at hfound
    rw [findSome?_names, hfound, ← decisive, hpair, Option.map_some]
  rw [MaskerSet.fieldMask, hset, List.append_assoc, FieldMasker.firstMask_map_append fun _ => rfl,
    hsets, hanswer]

/-- **Which rule decides about a name.** Where all paths are names, what is written for a field whose
name is listed is the mask of the first rule that is for the name or whose mask equals one that the
name is listed with. So it is that of the first rule for the name, if no rule before has such a mask,
and a further rule for another name changes it only if it comes before all rules for the name and has
such a mask. -/
theorem build_masks_decisive {rules : Rules} {set : MaskerSet} (h : rules.build = .ok set)
    {pairs : List (String × Mask)} (hpairs : rules.names? = some pairs) {name : String}
    (hname : name ∈ pairs.map Prod.fst) :
    ∃ pair, decisive pairs name = some pair ∧
      (∀ (recorder : Recorder) (place : Position) (depth : Nat), depth ≤ 1 →
        Masking.step ⟨set, recorder, place.inObject, depth⟩ (.field name) =
          (⟨set, recorder.record [.field name, .scalar pair.2.toScalar], place.inField name, 1⟩,
            .ok ())) ∧
      (∀ (before after : List (String × Mask)) (first : String × Mask),
        pairs = before ++ first :: after → first.1 = name →
        (∀ earlier ∈ before, earlier.1 ≠ name ∧
          ∀ listed ∈ pairs, listed.1 = name → earlier.2.agrees listed.2 = false) →
        pair = first) ∧
      ∀ (before after : List (String × Mask)) (other : String) (mask : Mask) (more : Rules)
        (larger : MaskerSet), pairs = before ++ after → other ≠ name →
        more.names? = some (before ++ (other, mask) :: after) → more.build = .ok larger →
        (name ∈ before.map Prod.fst ∨
          ∀ listed ∈ pairs, listed.1 = name → mask.agrees listed.2 = false) →
        ∀ place : Position,
          larger.fieldMask (place.inField name) = set.fieldMask (place.inField name) := by
  obtain ⟨pair, hpair⟩ : ∃ pair, decisive pairs name = some pair := exists_decides hname pairs
  have hmask := fieldMask_of_decisive h hpairs hpair
  refine ⟨pair, hpair, ?_, ?_, ?_⟩
  · intro recorder place depth hdepth
    rw [Masking.step_field_recorder set recorder place name hdepth, ← MaskerSet.fieldMask_eq, hmask]
  · rintro before after first rfl hfirst hbefore
    have hdecisive := decisive_eq_first hfirst fun earlier hmem =>
      decides_eq_false_iff.2 (hbefore earlier hmem)
    exact Option.some_inj.1 (hpair.symm.trans hdecisive)
  · rintro before after other mask more larger rfl hne hmore hlarger hmasks place
    have hdecisive := decisive_insert_other hne
      (hmasks.imp_right fun hnone => decides_eq_false_iff.2 ⟨hne, hnone⟩)
    rw [hmask, fieldMask_of_decisive hlarger hmore (hdecisive.trans hpair)]

/-- A name that is also listed with the mask of an earlier rule has this mask. -/
theorem build_masks_decisive_earlier :
    let rules : Rules := { pathRules := [⟨["id"], some (.string "x")⟩, ⟨["pin"], some (.string "y")⟩,
      ⟨["pin"], some (.string "x")⟩] }
    ∃ set, rules.build = .ok set ∧
      Masking.step ⟨set, .empty, Position.root.inObject, 0⟩ (.field "pin") =
        (⟨set, Recorder.empty.record [.field "pin", .scalar (.string "x")],
          Position.root.inField "pin", 1⟩, .ok ()) := by
  intro rules
  have hbuild : ∃ set, rules.build = .ok set := ⟨_, rfl⟩
  have hpairs : rules.names? =
    some [("id", .string "x"), ("pin", .string "y"), ("pin", .string "x")] := by decide
  have hname : "pin" ∈ ["id", "pin", "pin"] := by decide
  obtain ⟨set, hset⟩ := hbuild
  obtain ⟨pair, hpair, hwritten, -⟩ := build_masks_decisive hset hpairs hname
  cases hpair
  exact ⟨set, hset, hwritten .empty .root 0 (by decide)⟩

/-- The mask of the first rule for a name is not always written, and a rule for another name makes
the difference. -/
theorem first_rule_not_written :
    let rules : Rules :=
      { pathRules := [⟨["pin"], some (.string "y")⟩, ⟨["pin"], some (.string "x")⟩] }
    let more : Rules := { pathRules := ⟨["id"], some (.string "x")⟩ :: rules.pathRules }
    let pairs : List (String × Mask) :=
      [("id", .string "x"), ("pin", .string "y"), ("pin", .string "x")]
    let place := Position.root.inObject
    ∃ set larger, rules.build = .ok set ∧ more.build = .ok larger ∧ more.names? = some pairs ∧
      pairs.find? (fun pair => pair.1 = "pin") = some ("pin", .string "y") ∧
      (Masking.step ⟨set, Recorder.empty, place, 0⟩ (.field "pin")).1.sink.events.toList =
        [.field "pin", .scalar (.string "y")] ∧
      (Masking.step ⟨larger, Recorder.empty, place, 0⟩ (.field "pin")).1.sink.events.toList =
        [.field "pin", .scalar (.string "x")] := by
  exact ⟨_, _, rfl, rfl, rfl, rfl, rfl, rfl⟩

end Rules
end StreamMask
