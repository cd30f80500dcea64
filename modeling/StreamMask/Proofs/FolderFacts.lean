/-
Files that are written and read again.

A path leads where it did before, whatever file is written at its end: only directories lie
on the way there (`Folder.walk_cons`), and no file is written in the place of a directory.
-/
import StreamMask.Folder

namespace StreamMask.Folder

variable {folder after : Folder} {place : List String} {found : Option (Option (List UInt8))}

/-- The place that a part of a path leads to. -/
def down (start : List String) (part : String) : List String :=
  if part = ".." then start.dropLast else start ++ [part]

/-- A path goes on only below directories. -/
theorem walk_cons {start parts : List String} {part : String}
    {reached : List String × Option (Option (List UInt8))} :
    folder.walk start (part :: parts) = .ok reached ↔
      part.utf8ByteSize ≤ maxName ∧ (parts = [] ∨ folder.at? (down start part) = some none) ∧
        folder.walk (down start part) parts = .ok reached := by
  rw [walk, down]
  by_cases hname : maxName < part.utf8ByteSize
  · rw [if_pos hname]
    exact iff_of_false (by simp) fun h => absurd h.1 (Nat.not_le.mpr hname)
  · rw [if_neg hname]
    dsimp only
    generalize (if part = ".." then start.dropLast else start ++ [part]) = next
    have hle := Nat.not_lt.mp hname
    rcases folder.at? next with _ | _ | content <;> cases parts <;> simp [hle]

/-- A walk that succeeds tells what is at its end. -/
theorem walk_found {start parts : List String} (h : folder.walk start parts = .ok (place, found)) :
    folder.at? place = found := by
  induction parts generalizing start with
  | nil =>
    cases h
    rfl
  | cons part parts ih => exact ih (walk_cons.mp h).2.2

/-- What is written at the end of a walk, where no directory is, is not in the way of it. -/
theorem walk_written {start parts : List String} (h : folder.walk start parts = .ok (place, found))
    (hfound : found ≠ some none) (hsame : ∀ other, other ≠ place → after.at? other = folder.at? other) :
    after.walk start parts = .ok (place, after.at? place) := by
  induction parts generalizing start with
  | nil =>
    cases h
    rfl
  | cons part parts ih =>
    obtain ⟨hname, hdirectory, hrest⟩ := walk_cons.mp h
    refine walk_cons.mpr ⟨hname, hdirectory.imp_right fun hdirectory => ?_, ih hrest⟩
    have hne : down start part ≠ place := by
      intro heq
      rw [heq, walk_found hrest] at hdirectory
      exact hfound hdirectory
    rw [hsame _ hne, hdirectory]

/-- A path that leads to anything but a directory is walked from the top. -/
theorem find_eq_walk {path : String} (h : folder.find path = .ok (place, found))
    (hfound : found ≠ some none) (other : Folder) : other.find path = other.walk [] (parts path) := by
  unfold find at h ⊢
  split at h
  · contradiction
  next hnul =>
  split at h
  · contradiction
  next hempty =>
  split at h
  · contradiction
  next hlong =>
  split at h
  · split at h
    · cases h
      contradiction
    · contradiction
  next habsolute =>
  rw [if_neg hnul, if_neg hempty, if_neg hlong, if_neg habsolute]

/-- The folder after a file has been written at a place. -/
def put (folder : Folder) (place : List String) (content : List UInt8) : Folder :=
  ⟨(place, some content) :: folder.entries.filter fun entry => entry.1 ≠ place⟩

theorem at?_put (folder : Folder) (hplace : place ≠ []) (content : List UInt8) :
    (folder.put place content).at? place = some (some content) := by
  rw [at?, if_neg hplace, put, List.lookup_cons_self]

theorem at?_put_ne (folder : Folder) {other : List String} (hne : other ≠ place)
    (content : List UInt8) : (folder.put place content).at? other = folder.at? other := by
  have hlookup : (folder.entries.filter fun entry => entry.1 ≠ place).lookup other =
      folder.entries.lookup other := by
    induction folder.entries with
    | nil => rfl
    | cons entry entries ih =>
      by_cases hentry : entry.1 = place
      · rw [List.filter_cons_of_neg (by simp [hentry]), ih, List.lookup_cons, hentry,
          beq_false_of_ne hne]
      · rw [List.filter_cons_of_pos (by simp [hentry]), List.lookup_cons, List.lookup_cons, ih]
  rw [at?, at?, put, List.lookup_cons, beq_false_of_ne hne, ← hlookup]

/-- **A file is read as it was written.** -/
theorem read_write {path : String} {content : List UInt8} (h : folder.write path content = .ok after) :
    after.read path = .ok content := by
  unfold write at h
  split at h
  · contradiction
  · contradiction
  next place found hfound hfind =>
  split at h
  · contradiction
  next hmeans =>
  have hafter : folder.put place content = after := Except.ok.inj h
  have hwalk : folder.walk [] (parts path) = .ok (place, found) :=
    (find_eq_walk hfind hfound folder).symm.trans hfind
  have hplace : place ≠ [] := by
    rintro rfl
    exact hfound (walk_found hwalk).symm
  have hreached : after.find path = .ok (place, some (some content)) := by
    subst hafter
    rw [find_eq_walk hfind hfound, walk_written hwalk hfound fun other hne => at?_put_ne folder hne content,
      at?_put folder hplace]
  rw [read, hreached]
  exact if_neg hmeans

end StreamMask.Folder
