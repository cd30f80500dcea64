/-
Lines of bytes.

Bytes are split at line feeds. Whatever a line feed ends is a line, less one carriage
return at its end; what is left behind the last line feed is a line if there is anything
(`ofBytes`). Lines of bytes that end with a line feed do not depend on what follows.
-/
import StreamMask.Lines

namespace StreamMask.Lines

/-- A line without a carriage return at its end. -/
def chomp (line : List UInt8) : List UInt8 :=
  if line.getLast? = some 13 then line.dropLast else line

/-- The lines that bytes consist of. -/
def ofBytes (input : List UInt8) : List (List UInt8) :=
  let pieces := input.splitOn 10
  pieces.dropLast.map chomp ++ pieces.getLast?.toList.filter (· ≠ [])

theorem ofBytes_unended {line : List UInt8} (h : 10 ∉ line) :
    ofBytes line = if line = [] then [] else [line] := by
  rw [ofBytes, List.splitOn_eq_singleton h]
  by_cases hnil : line = [] <;> simp [hnil]

/-- A line feed ends the lines before it. -/
theorem ofBytes_append_cons (ended rest : List UInt8) :
    ofBytes (ended ++ 10 :: rest) = (ended.splitOn 10).map chomp ++ ofBytes rest := by
  have hne := List.splitOn_ne_nil 10 rest
  simp only [ofBytes, List.splitOn_append_cons_self, List.dropLast_append_of_ne_nil hne,
    List.getLast?_append, List.getLast?_eq_some_getLast hne, Option.some_or, List.map_append,
    List.append_assoc]

theorem ofBytes_ended (ended : List UInt8) :
    ofBytes (ended ++ [10]) = (ended.splitOn 10).map chomp := by
  rw [ofBytes_append_cons, ofBytes_unended (List.not_mem_nil), if_pos rfl, List.append_nil]

/-- **What follows a line feed does not change the lines before it.** -/
theorem ofBytes_append {ended : List UInt8} (h : ended.getLast? = some 10) (rest : List UInt8) :
    ofBytes (ended ++ rest) = ofBytes ended ++ ofBytes rest := by
  obtain ⟨first, rfl⟩ := List.getLast?_eq_some_iff.mp h
  rw [List.append_assoc, List.singleton_append, ofBytes_append_cons, ofBytes_ended]

theorem split_ended (current rest : List UInt8) :
    split current (10 :: rest) = chomp current.reverse :: split [] rest := by
  rw [chomp, List.getLast?_reverse]
  by_cases h : current.head? = some 13
  · obtain ⟨line, rfl⟩ := List.head?_eq_some_iff.mp h
    rw [if_pos h, List.reverse_cons, List.dropLast_concat]
    rfl
  · conv => lhs; unfold split
    rw [if_neg h, if_pos rfl]
    split
    · contradiction
    · rfl

theorem split_eq_ofBytes {current : List UInt8} (h : 10 ∉ current) (input : List UInt8) :
    split current input = ofBytes (current.reverse ++ input) := by
  induction input generalizing current with
  | nil =>
    rw [split, List.append_nil, ofBytes_unended (by simpa using h)]
    simp only [List.reverse_eq_nil_iff]
  | cons b rest ih =>
    by_cases hb : b = 10
    · rw [hb, split_ended, ih List.not_mem_nil, ofBytes_append_cons,
        List.splitOn_eq_singleton (by simpa using h)]
      rfl
    · have hcurrent : 10 ∉ b :: current := by
        intro hmem
        rcases List.mem_cons.mp hmem with heq | hmem
        · exact hb heq.symm
        · exact h hmem
      unfold split
      rw [if_neg hb, ih hcurrent, List.reverse_cons, List.append_assoc, List.singleton_append]

/-- **Bytes are split into their lines.** -/
theorem split_eq (input : List UInt8) : split [] input = ofBytes input :=
  split_eq_ofBytes List.not_mem_nil input

end StreamMask.Lines
