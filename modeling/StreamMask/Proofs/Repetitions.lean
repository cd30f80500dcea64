/-
Lists without what repeats.

Of items that are the same, a list without repetitions keeps the first
(`List.eraseDupsBy`). Whoever puts items into such a list one by one adds one if none
that is there already is the same (`eraseDupsBy_concat`).
-/
import Mathlib.Data.List.Induction

namespace StreamMask

variable {α : Type} {same : α → α → Bool}

theorem eraseDupsBy_loop_concat (same : α → α → Bool) (items : List α) (last : α) (kept : List α) :
    List.eraseDupsBy.loop same (items ++ [last]) kept =
      if (List.eraseDupsBy.loop same items kept).any (same last) then
        List.eraseDupsBy.loop same items kept
      else List.eraseDupsBy.loop same items kept ++ [last] := by
  induction items generalizing kept with
  | nil => cases h : kept.any (same last) <;> simp [List.eraseDupsBy.loop, h]
  | cons item items ih =>
    cases h : kept.any (same item) <;>
      simp only [List.cons_append, List.eraseDupsBy.loop, h, ih]

/-- **An item at the end of a list is kept** if it is not the same as one that is kept before. -/
theorem eraseDupsBy_concat (same : α → α → Bool) (items : List α) (last : α) :
    (items ++ [last]).eraseDupsBy same =
      if (items.eraseDupsBy same).any (same last) then items.eraseDupsBy same
      else items.eraseDupsBy same ++ [last] :=
  eraseDupsBy_loop_concat same items last []

theorem eraseDupsBy_eq_nil {items : List α} : items.eraseDupsBy same = [] ↔ items = [] := by
  cases items with
  | nil => simp
  | cons item items => simp [List.eraseDupsBy_cons]

/-- What is kept is in the list, in the same order. -/
theorem eraseDupsBy_sublist (same : α → α → Bool) (items : List α) :
    (items.eraseDupsBy same).Sublist items := by
  induction items using List.reverseRecOn with
  | nil => exact .slnil
  | append_singleton items last ih =>
    rw [eraseDupsBy_concat]
    split
    · exact ih.trans (List.sublist_append_left items [last])
    · exact ih.append (.refl [last])

/-- No two items that are kept are the same. -/
theorem pairwise_eraseDupsBy (same : α → α → Bool) (items : List α) :
    (items.eraseDupsBy same).Pairwise fun earlier later => same later earlier = false := by
  induction items using List.reverseRecOn with
  | nil => simp
  | append_singleton items last ih =>
    rw [eraseDupsBy_concat]
    split
    · exact ih
    next hnew =>
      refine List.pairwise_append.mpr ⟨ih, List.pairwise_singleton _ _, fun kept hkept other hother => ?_⟩
      obtain rfl := List.mem_singleton.mp hother
      exact Bool.eq_false_iff.mpr fun hsame => hnew (List.any_eq_true.mpr ⟨kept, hkept, hsame⟩)

/-- Whatever is the same as an item of the list is the same as one that is kept. -/
theorem any_eraseDupsBy
    (htrans : ∀ a b c, same a b = true → same b c = true → same a c = true) (items : List α) (item : α) :
    (items.eraseDupsBy same).any (same item) = items.any (same item) := by
  induction items using List.reverseRecOn with
  | nil => simp
  | append_singleton items last ih =>
    rw [eraseDupsBy_concat, List.any_append, ← ih]
    split
    next hrepeats =>
      obtain ⟨kept, hkept, hsame⟩ := List.any_eq_true.mp hrepeats
      cases hlast : same item last with
      | false => simp [hlast]
      | true =>
        have hfound : (items.eraseDupsBy same).any (same item) = true :=
          List.any_eq_true.mpr ⟨kept, hkept, htrans _ _ _ hlast hsame⟩
        simp [hfound]
    · rw [List.any_append]

end StreamMask
