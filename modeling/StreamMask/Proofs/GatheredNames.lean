/-
Names that are gathered by their masks.

There is one set for each mask that names are listed with (`Rules.masks_gathered`), and
it has the names that are listed with an equal mask (`Rules.holds_gathered`), each once
(`Rules.sum_gathered`). Paths that are no names are kept where they come first
(`FieldPlan.paths_ofPaths`).
-/
import Mathlib.Data.List.Nodup
import StreamMask.Proofs.NamePrecedence
import StreamMask.Proofs.Repetitions

namespace StreamMask

/-! ## Names and masks -/

/-- Whether two names are the same and have equal masks. -/
def Rules.sameName (a b : String × Mask) : Bool := a.1 = b.1 && a.2.agrees b.2

theorem Rules.sameName_trans (a b c : String × Mask) (hab : sameName a b = true)
    (hbc : sameName b c = true) : sameName a c = true := by
  simp only [sameName, Bool.and_eq_true, decide_eq_true_eq] at hab hbc ⊢
  exact ⟨hab.1.trans hbc.1, Mask.agrees_trans hab.2 hbc.2⟩

theorem PathMasker.agrees_comm (a b : PathMasker) : a.agrees b = b.agrees a := by
  rw [agrees, agrees, Mask.agrees_comm]
  congr 1
  exact decide_eq_decide.2 eq_comm

theorem PathMasker.agrees_trans (a b c : PathMasker) (hab : a.agrees b = true)
    (hbc : b.agrees c = true) : a.agrees c = true := by
  simp only [agrees, Bool.and_eq_true, decide_eq_true_eq] at hab hbc ⊢
  exact ⟨hab.1.trans hbc.1, Mask.agrees_trans hab.2 hbc.2⟩

theorem NameSet.length_insert (set : NameSet) (name : String) :
    (set.insert name).names.length = set.names.length + if set.names.contains name then 0 else 1 := by
  unfold insert
  split <;> simp

theorem NameSet.nodup_insert {set : NameSet} (h : set.names.Nodup) (name : String) :
    (set.insert name).names.Nodup := by
  unfold insert
  split
  · exact h
  next hnew =>
    rw [List.contains_iff_mem] at hnew
    simpa only [List.concat_eq_append] using List.Nodup.concat hnew h

/-- Whether one of some sets has a name and a mask equal to this one. -/
def FieldPlan.holds (sets : List NameSet) (name : String) (mask : Mask) : Bool :=
  sets.any fun set => set.names.contains name && mask.agrees set.mask

namespace FieldPlan

variable {sets : List NameSet}

/-- A set that a name goes into keeps its mask; a new one has the mask of the name. -/
theorem masks_insertName (name : String) (mask : Mask) (sets : List NameSet) :
    (insertName name mask sets).map (·.mask) =
      if (sets.map (·.mask)).any mask.agrees then sets.map (·.mask)
      else sets.map (·.mask) ++ [mask] := by
  induction sets with
  | nil => rfl
  | cons set sets ih =>
    rw [insertName, Mask.agrees_comm, List.map_cons, List.any_cons]
    cases hagrees : mask.agrees set.mask with
    | true => simp
    | false =>
      rw [if_neg Bool.false_ne_true, List.map_cons, ih, Bool.false_or]
      split <;> simp

theorem holds_insertName (name other : String) (mask mask' : Mask) (sets : List NameSet) :
    holds (insertName name mask sets) other mask' =
      (holds sets other mask' || (decide (other = name) && mask'.agrees mask)) := by
  induction sets with
  | nil => simp [insertName, holds]
  | cons set sets ih =>
    rw [insertName]
    split
    next hagrees =>
      -- The mask of the set and that of the name are equal to the same masks.
      have hmask : mask'.agrees set.mask = mask'.agrees mask := by
        rw [Bool.eq_iff_iff]
        have hback := (Mask.agrees_comm mask set.mask).trans hagrees
        exact ⟨fun h => Mask.agrees_trans h hagrees, fun h => Mask.agrees_trans h hback⟩
      have hnames : (set.insert name).names.contains other =
          (set.names.contains other || decide (other = name)) := by
        rw [Bool.eq_iff_iff]
        simp [NameSet.mem_insert]
      simp only [holds, List.any_cons, NameSet.insert_mask, hnames, hmask, Bool.and_or_distrib_right]
      ac_rfl
    · rw [holds, List.any_cons, ← holds, ih, ← Bool.or_assoc]
      rfl

/-- What is true of a set of one name and stays true when names go into a set is true of all sets. -/
theorem forall_insertName {P : NameSet → Prop} {name : String} {mask : Mask} (hnew : P ⟨[name], mask⟩)
    (hinsert : ∀ set, P set → P (set.insert name)) (h : ∀ set ∈ sets, P set) :
    ∀ set ∈ insertName name mask sets, P set := by
  induction sets with
  | nil => exact List.forall_mem_singleton.2 hnew
  | cons set sets ih =>
    obtain ⟨hset, hsets⟩ := List.forall_mem_cons.1 h
    rw [insertName]
    split
    · exact List.forall_mem_cons.2 ⟨hinsert set hset, hsets⟩
    · exact List.forall_mem_cons.2 ⟨hset, ih hsets⟩

/-- Where masks differ, a name adds one to the number of names unless a set has it with an equal
mask. -/
theorem sum_insertName (name : String) (mask : Mask)
    (h : sets.Pairwise fun earlier later => later.mask.agrees earlier.mask = false) :
    (insertName name mask sets).foldr (fun set count => set.names.length + count) 0 =
      sets.foldr (fun set count => set.names.length + count) 0 +
        if holds sets name mask then 0 else 1 := by
  induction sets with
  | nil => simp [insertName, holds]
  | cons set sets ih =>
    obtain ⟨hset, hsets⟩ := List.pairwise_cons.1 h
    rw [insertName, Mask.agrees_comm, holds, List.any_cons, ← holds]
    cases hagrees : mask.agrees set.mask with
    | true =>
      -- No later set has an equal mask as well.
      have hlater : holds sets name mask = false := by
        refine Bool.eq_false_iff.2 fun hholds => ?_
        obtain ⟨later, hmem, hboth⟩ := List.any_eq_true.1 hholds
        have hmask := (Mask.agrees_comm later.mask mask).trans (Bool.and_eq_true_iff.1 hboth).2
        have hequal := Mask.agrees_trans hmask hagrees
        rw [hset later hmem] at hequal
        cases hequal
      rw [if_pos rfl, List.foldr_cons, NameSet.length_insert, hlater, Bool.and_true, Bool.or_false,
        List.foldr_cons]
      omega
    | false =>
      rw [if_neg Bool.false_ne_true, List.foldr_cons, ih hsets, Bool.and_false, Bool.false_or,
        List.foldr_cons]
      omega

end FieldPlan

/-! ## All names -/

namespace Rules

open FieldPlan

/-- **The masks of the sets** are those that names are listed with, each once. -/
theorem masks_gathered (pairs : List (String × Mask)) :
    (gathered pairs).map (·.mask) = (pairs.map Prod.snd).eraseDupsBy Mask.agrees := by
  induction pairs using List.reverseRecOn with
  | nil => rfl
  | append_singleton pairs pair ih =>
    rw [gathered_append, masks_insertName, ih, List.map_append, List.map_singleton,
      eraseDupsBy_concat]

theorem pairwise_gathered (pairs : List (String × Mask)) :
    (gathered pairs).Pairwise fun earlier later => later.mask.agrees earlier.mask = false := by
  have hmasks := pairwise_eraseDupsBy Mask.agrees (pairs.map Prod.snd)
  rw [← masks_gathered, List.pairwise_map] at hmasks
  exact hmasks

/-- **A set has a name with a mask** just if the name is listed with an equal mask. -/
theorem holds_gathered (pairs : List (String × Mask)) (pair : String × Mask) :
    holds (gathered pairs) pair.1 pair.2 = pairs.any (sameName pair) := by
  induction pairs using List.reverseRecOn with
  | nil => rfl
  | append_singleton pairs last ih =>
    rw [gathered_append, holds_insertName, ih, List.any_append, List.any_cons, List.any_nil,
      Bool.or_false, sameName]

/-- **The sets have as many names** as there are names with different masks. -/
theorem sum_gathered (pairs : List (String × Mask)) :
    (gathered pairs).foldr (fun set count => set.names.length + count) 0 =
      (pairs.eraseDupsBy sameName).length := by
  induction pairs using List.reverseRecOn with
  | nil => rfl
  | append_singleton pairs pair ih =>
    rw [gathered_append, sum_insertName pair.1 pair.2 (pairwise_gathered pairs), ih, holds_gathered,
      eraseDupsBy_concat, any_eraseDupsBy sameName_trans]
    split <;> simp

theorem forall_gathered (pairs : List (String × Mask)) :
    ∀ set ∈ gathered pairs, set.names ≠ [] ∧ set.names.Nodup := by
  induction pairs using List.reverseRecOn with
  | nil => simp [gathered]
  | append_singleton pairs pair ih =>
    rw [gathered_append]
    refine forall_insertName ⟨List.cons_ne_nil _ _, List.nodup_singleton _⟩ (fun set hset => ?_) ih
    have hmem : pair.1 ∈ (set.insert pair.1).names := NameSet.mem_insert.2 (.inr rfl)
    exact ⟨List.ne_nil_of_mem hmem, NameSet.nodup_insert hset.2 pair.1⟩

end Rules

namespace FieldPlan

/-- The paths that are no names are kept in their order, each once. -/
theorem paths_ofPaths (maskers : List PathMasker) :
    (ofPaths maskers).paths =
      (maskers.filter fun masker => !masker.isName).eraseDupsBy PathMasker.agrees := by
  induction maskers using List.reverseRecOn with
  | nil => rfl
  | append_singleton maskers masker ih =>
    rw [ofPaths_append, add, List.filter_append]
    cases hname : masker.pattern.singleName? with
    | some name =>
      have hother : [masker].filter (fun masker => !masker.isName) = [] := by
        simp [PathMasker.isName, hname]
      rw [hother, List.append_nil, ← ih]
    | none =>
      have hother : [masker].filter (fun masker => !masker.isName) = [masker] := by
        simp [PathMasker.isName, hname]
      have hsame : (fun earlier : PathMasker => earlier.agrees masker) = masker.agrees :=
        funext fun earlier => earlier.agrees_comm masker
      rw [hother, eraseDupsBy_concat, ← ih, hsame]
      dsimp only
      split <;> rfl

end FieldPlan

end StreamMask
