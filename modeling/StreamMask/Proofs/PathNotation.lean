/-
How paths are written.

Separators at the end of a path mean nothing (`trimEnd`); one in front of it ties it
to the root, and what is left between separators are its tokens (`parts`). A text is
a path if there are any and if it is well escaped (`Pattern.parse_eq_ok`). Writing a
path that was read gives its text without the separators at the end, and that is the
one text of the path that does not end with a separator.
-/
import Mathlib.Data.List.DropRight
import StreamMask.Proofs.TokenFacts

namespace StreamMask

namespace Path

/-! ## Separators -/

/-- A text without the separators at its end. -/
def trimEnd (text : List Char) : List Char := text.rdropWhile (· = '/')

/-- A path without the separator in front of it. -/
def body (text : List Char) : List Char := if text.head? = some '/' then text.tail else text

/-- What stands between the separators of a path. -/
def parts (text : List Char) : List (List Char) := (trimEnd (body text)).splitOn '/'

theorem trimEnd_concat_separator (text : List Char) : trimEnd (text ++ ['/']) = trimEnd text :=
  List.rdropWhile_concat_pos _ _ _ (by decide)

theorem trimEnd_concat {c : Char} (h : c ≠ '/') (text : List Char) :
    trimEnd (text ++ [c]) = text ++ [c] :=
  List.rdropWhile_concat_neg _ _ _ (by simpa using h)

theorem trimEnd_trimEnd (text : List Char) : trimEnd (trimEnd text) = trimEnd text :=
  List.rdropWhile_idempotent _ _

theorem trimEnd_eq_nil {text : List Char} : trimEnd text = [] ↔ ∀ c ∈ text, c = '/' := by
  simp [trimEnd, List.rdropWhile_eq_nil_iff]

/-- A character in front of a text that does not consist of separators stays in front. -/
theorem trimEnd_cons {c : Char} {text : List Char} (h : trimEnd text ≠ []) :
    trimEnd (c :: text) = c :: trimEnd text := by
  induction text using List.reverseRecOn with
  | nil => exact absurd rfl h
  | append_singleton text last ih =>
    by_cases hlast : last = '/'
    · subst hlast
      rw [trimEnd_concat_separator] at h ⊢
      rw [← List.cons_append, trimEnd_concat_separator, ih h]
    · rw [← List.cons_append, trimEnd_concat hlast, trimEnd_concat hlast, List.cons_append]

theorem head?_trimEnd {text : List Char} (h : trimEnd text ≠ []) :
    (trimEnd text).head? = text.head? := by
  obtain ⟨rest, hrest⟩ : trimEnd text <+: text := List.rdropWhile_prefix _ _
  conv_rhs => rw [← hrest]
  rw [List.head?_append_of_ne_nil _ h]

theorem split_eq_splitOn (text : List Char) : split text = text.splitOn '/' := by
  fun_induction split text with
  | case1 => rfl
  | case2 rest ih => rw [List.splitOn_cons_eq_if_modifyHead, ih]; rfl
  | case3 c rest hc hnil ih => exact absurd (ih ▸ hnil) (List.splitOn_ne_nil _ _)
  | case4 c rest hc part parts heq ih =>
    have hne : (c == '/') = false := by simpa using hc
    rw [List.splitOn_cons_eq_if_modifyHead, hne, ← ih, heq]
    rfl

/-- The part behind the last separator is not empty, unless that is at the end. -/
theorem getLast?_splitOn {c : Char} (h : c ≠ '/') (text : List Char) :
    ((text ++ [c]).splitOn '/').getLast? ≠ some [] := by
  induction text with
  | nil => simp [List.splitOn_eq_singleton, Ne.symm h]
  | cons first text ih =>
    rw [List.cons_append, List.splitOn_cons_eq_if_modifyHead]
    cases hsplit : (text ++ [c]).splitOn '/' with
    | nil => exact absurd hsplit (List.splitOn_ne_nil _ _)
    | cons part parts =>
      rw [hsplit] at ih
      split
      · rwa [List.getLast?_cons_cons]
      · cases parts with
        | nil => simp
        | cons _ _ => rwa [List.modifyHead_cons, List.getLast?_cons_cons]

/-- **The parts of a text without the empty ones at its end** are those of the text without the
separators at its end. -/
theorem dropEmptyEnd_split (text : List Char) :
    dropEmptyEnd (split text) = if trimEnd text = [] then [] else (trimEnd text).splitOn '/' := by
  rw [split_eq_splitOn]
  induction text using List.reverseRecOn with
  | nil => rfl
  | append_singleton text last ih =>
    by_cases hlast : last = '/'
    · subst hlast
      rw [trimEnd_concat_separator, ← ih, List.splitOn_append_cons_self, List.splitOn_nil]
      exact List.rdropWhile_concat_pos _ _ _ rfl
    · have hne : text ++ [last] ≠ [] := by simp
      rw [trimEnd_concat hlast, if_neg hne]
      refine List.rdropWhile_eq_self_iff.mpr fun hsplit hempty => ?_
      have hlast := getLast?_splitOn hlast text
      rw [List.getLast?_eq_some_getLast hsplit, List.isEmpty_iff.mp hempty] at hlast
      exact hlast rfl

theorem trimEnd_body_eq_nil {text : List Char} : trimEnd (body text) = [] ↔ trimEnd text = [] := by
  rw [trimEnd_eq_nil, trimEnd_eq_nil, body]
  split
  · next h =>
    obtain ⟨rest, rfl⟩ := List.head?_eq_some_iff.mp h
    simp
  · rfl

theorem trimEnd_body_trimEnd (text : List Char) :
    trimEnd (body (trimEnd text)) = trimEnd (body text) := by
  by_cases hnil : trimEnd text = []
  · rw [hnil, trimEnd_body_eq_nil.mpr hnil]
    rfl
  · have hhead := head?_trimEnd hnil
    by_cases hroot : text.head? = some '/'
    · obtain ⟨rest, rfl⟩ := List.head?_eq_some_iff.mp hroot
      have hrest : trimEnd (body ('/' :: rest)) ≠ [] := mt trimEnd_body_eq_nil.mp hnil
      change trimEnd rest ≠ [] at hrest
      rw [trimEnd_cons hrest]
      exact trimEnd_trimEnd rest
    · rw [body, if_neg (hhead ▸ hroot), body, if_neg hroot, trimEnd_trimEnd]

/-- A text without the separators at its end is its parts with a separator between any two, and one
in front if there is. -/
theorem trimEnd_eq {text : List Char} (h : trimEnd (body text) ≠ []) :
    trimEnd text =
      (if text.head? = some '/' then ['/'] else []) ++ ['/'].intercalate (parts text) := by
  rw [parts, List.intercalate_splitOn]
  by_cases hroot : text.head? = some '/'
  · obtain ⟨rest, rfl⟩ := List.head?_eq_some_iff.mp hroot
    rw [if_pos hroot]
    exact trimEnd_cons h
  · rw [if_neg hroot, body, if_neg hroot, List.nil_append]

theorem separator_notMem_splitOn {text part : List Char} (h : part ∈ text.splitOn '/') :
    '/' ∉ part := by
  induction text generalizing part with
  | nil => simp_all
  | cons c text ih =>
    rw [List.splitOn_cons_eq_if_modifyHead] at h
    cases hsplit : text.splitOn '/' with
    | nil => exact absurd hsplit (List.splitOn_ne_nil _ _)
    | cons first others =>
      rw [hsplit] at h ih
      split at h
      · rcases List.mem_cons.mp h with rfl | hmem
        · exact List.not_mem_nil
        · exact ih hmem
      · next hc =>
        rcases List.mem_cons.mp h with rfl | hmem
        · have hne : '/' ≠ c := fun heq => hc (by simp [← heq])
          exact List.not_mem_cons_of_ne_of_not_mem hne (ih List.mem_cons_self)
        · exact ih (List.mem_cons_of_mem _ hmem)

/-! ## Escapes -/

theorem wellEscaped_cons {c : Char} (h : c ≠ '~') (rest : List Char) :
    wellEscaped (c :: rest) = wellEscaped rest := by
  rw [Bool.eq_iff_iff, wellEscaped_iff, wellEscaped_iff, tildesFollowed_cons]
  exact and_iff_right fun hc => absurd hc h

/-- What a text begins with, its first part begins with, unless it is a separator. -/
theorem head?_splitOn {c : Char} (h : c ≠ '/') {text part : List Char} {others : List (List Char)}
    (hsplit : text.splitOn '/' = part :: others) : part.head? = some c ↔ text.head? = some c := by
  cases text with
  | nil =>
    cases hsplit
    rfl
  | cons first rest =>
    rw [List.splitOn_cons_eq_if_modifyHead] at hsplit
    split at hsplit
    · next hfirst =>
      cases hsplit
      simpa [eq_comm] using fun heq => h (heq.trans (by simpa using hfirst))
    · cases hrest : rest.splitOn '/' with
      | nil => exact absurd hrest (List.splitOn_ne_nil _ _)
      | cons part' others' =>
        rw [hrest] at hsplit
        cases hsplit
        rfl

/-- **A text is well escaped if each of its parts is**: no escape has a separator in it. -/
theorem wellEscaped_splitOn {text : List Char} :
    (∀ part ∈ text.splitOn '/', wellEscaped part = true) ↔ wellEscaped text = true := by
  induction text with
  | nil => simp
  | cons c text ih =>
    rw [List.splitOn_cons_eq_if_modifyHead]
    cases hsplit : text.splitOn '/' with
    | nil => exact absurd hsplit (List.splitOn_ne_nil _ _)
    | cons part others =>
      rw [hsplit] at ih
      split
      · next hc =>
        obtain rfl : c = '/' := by simpa using hc
        rw [wellEscaped_cons (by decide), ← ih]
        simp [wellEscaped]
      · have hzero := head?_splitOn (c := '0') (by decide) hsplit
        have hone := head?_splitOn (c := '1') (by decide) hsplit
        simp only [wellEscaped_iff, List.modifyHead_cons, List.forall_mem_cons, tildesFollowed_cons,
          hzero, hone, and_assoc] at ih ⊢
        rw [ih]

theorem wellEscaped_trimEnd (text : List Char) : wellEscaped (trimEnd text) = wellEscaped text := by
  induction text using List.reverseRecOn with
  | nil => rfl
  | append_singleton text last ih =>
    by_cases hlast : last = '/'
    · subst hlast
      rw [trimEnd_concat_separator, ih, Bool.eq_iff_iff, ← wellEscaped_splitOn,
        ← wellEscaped_splitOn, List.splitOn_append_cons_self]
      simp [or_imp, forall_and, wellEscaped]
    · rw [trimEnd_concat hlast]

theorem wellEscaped_body (text : List Char) : wellEscaped (body text) = wellEscaped text := by
  unfold body
  split
  · next h =>
    obtain ⟨rest, rfl⟩ := List.head?_eq_some_iff.mp h
    rw [wellEscaped_cons (by decide), List.tail_cons]
  · rfl

theorem wellEscaped_parts {text : List Char} :
    (∀ part ∈ parts text, wellEscaped part = true) ↔ wellEscaped text = true := by
  rw [parts, wellEscaped_splitOn, wellEscaped_trimEnd, wellEscaped_body]

theorem parseTokens_eq_ok {parts : List (List Char)} {tokens : List Token} :
    parseTokens parts = .ok tokens ↔
      (∀ part ∈ parts, wellEscaped part = true) ∧ tokens = parts.map Token.ofPart := by
  induction parts generalizing tokens with
  | nil =>
    simp only [parseTokens, List.map_nil, Except.ok.injEq]
    exact ⟨fun h => ⟨List.forall_mem_nil _, h.symm⟩, fun h => h.2.symm⟩
  | cons part parts ih =>
    rw [parseTokens]
    cases htoken : Token.parse part with
    | error fault =>
      have hnot : wellEscaped part ≠ true := fun h => by
        rw [Token.parse_eq_ok.mpr ⟨h, rfl⟩] at htoken
        contradiction
      simp [hnot]
    | ok token =>
      obtain ⟨hpart, rfl⟩ := Token.parse_eq_ok.mp htoken
      cases hrest : parseTokens parts with
      | error fault =>
        have hnot : ¬∀ part ∈ parts, wellEscaped part = true := fun h => by
          rw [ih.mpr ⟨h, rfl⟩] at hrest
          contradiction
        simp [Except.map, hnot]
      | ok others =>
        obtain ⟨hparts, rfl⟩ := ih.mp hrest
        simp only [Except.map, List.forall_mem_cons, hpart, true_and, List.map_cons,
          Except.ok.injEq]
        exact ⟨fun h => ⟨hparts, h.symm⟩, fun h => h.2.symm⟩

end Path

namespace Pattern

open StreamMask.Path

/-! ## Paths -/

/-- A path without the separators at its end. -/
def trimmed (text : String) : String := String.ofList (trimEnd text.toList)

/-- **A text is read as a path** if there is anything between its separators and it is well escaped;
its parts are the tokens. -/
theorem parse_eq_ok {text : String} {p : Pattern} :
    parse text = .ok p ↔
      trimEnd (body text.toList) ≠ [] ∧ wellEscaped text.toList = true ∧
        p = ⟨text.toList.head? = some '/', (parts text.toList).map Token.ofPart⟩ := by
  unfold parse
  cases htext : text.toList with
  | nil => simp [body, trimEnd]
  | cons first rest =>
    have hbody : (if first = '/' then rest else first :: rest) = body (first :: rest) := by
      simp [body]
    dsimp only
    rw [hbody, dropEmptyEnd_split]
    by_cases hnil : trimEnd (body (first :: rest)) = []
    · simp [hnil]
    · rw [if_neg hnil, ← parts]
      cases hparts : parts (first :: rest) with
      | nil => exact absurd hparts (List.splitOn_ne_nil _ _)
      | cons part others =>
        dsimp only
        rw [← hparts, ← wellEscaped_parts]
        cases htokens : parseTokens (parts (first :: rest)) with
        | error fault =>
          have hnot : ¬∀ part ∈ parts (first :: rest), wellEscaped part = true := fun h => by
            rw [parseTokens_eq_ok.mpr ⟨h, rfl⟩] at htokens
            contradiction
          simp [Except.map, hnot]
        | ok tokens =>
          obtain ⟨hescaped, rfl⟩ := parseTokens_eq_ok.mp htokens
          simp only [Except.map, Except.ok.injEq, ne_eq, hnil, not_false_eq_true, true_and]
          exact ⟨fun h => ⟨hescaped, by rw [← h]; simp⟩, fun h => by rw [h.2]; simp⟩

/-- A path that was read is written without the separators at its end. -/
theorem text_of_parse {text : String} {p : Pattern} (h : parse text = .ok p) :
    p.text = trimmed text := by
  obtain ⟨hparts, hescaped, rfl⟩ := parse_eq_ok.mp h
  have htokens : ((parts text.toList).map Token.ofPart).map (fun token => token.text.toList) =
      parts text.toList := by
    rw [List.map_map]
    refine (List.map_congr_left fun part hpart => ?_).trans (List.map_id _)
    have hpart' := wellEscaped_parts.mpr hescaped part hpart
    simp [Token.text_ofPart hpart' (separator_notMem_splitOn hpart)]
  have hroot : (if decide (text.toList.head? = some '/') = true then "/" else "").toList =
      if text.toList.head? = some '/' then ['/'] else [] := by
    by_cases hroot : text.toList.head? = some '/' <;> simp [hroot]
  apply String.toList_inj.mp
  rw [trimmed, String.toList_ofList, trimEnd_eq hparts, Pattern.text, String.toList_append,
    String.toList_intercalate, List.map_map]
  exact congrArg₂ (· ++ ·) hroot (congrArg _ htokens)

/-- Separators at the end of a path mean nothing. -/
theorem parse_trimmed {text : String} {p : Pattern} :
    parse (trimmed text) = .ok p ↔ parse text = .ok p := by
  rw [parse_eq_ok, parse_eq_ok, trimmed, String.toList_ofList, trimEnd_body_trimEnd,
    wellEscaped_trimEnd, parts, trimEnd_body_trimEnd, ← parts]
  refine and_congr_right fun hparts => ?_
  rw [head?_trimEnd (mt trimEnd_body_eq_nil.mpr hparts)]

/-- **Which texts are paths, and how a path is written.** A text is read as a path if and only if it
has a character that is no separator and a zero or a one follows each of its tildes. The path is
absolute if and only if a separator is in front. It is written as the text without the separators at
its end, read again from that it is the same path, and two texts are read as the same path if and
only if they differ in the separators at their ends alone. -/
theorem parse_reads_trimmed (text : String) :
    ((∃ p, parse text = .ok p) ↔
        (∃ c ∈ text.toList, c ≠ '/') ∧ TildesFollowed text.toList) ∧
      ∀ p, parse text = .ok p →
        (p.absolute = true ↔ text.toList.head? = some '/') ∧
        p.text = trimmed text ∧ parse p.text = .ok p ∧
        ∀ (other : String) (q : Pattern), parse other = .ok q →
          (p = q ↔ trimmed text = trimmed other) := by
  have hseparators : trimEnd (body text.toList) ≠ [] ↔ ∃ c ∈ text.toList, c ≠ '/' := by
    rw [ne_eq, trimEnd_body_eq_nil, trimEnd_eq_nil]
    simp only [not_forall, exists_prop, ne_eq]
  refine ⟨?_, fun p hp => ?_⟩
  · constructor
    · rintro ⟨p, hp⟩
      obtain ⟨hparts, hescaped, -⟩ := parse_eq_ok.mp hp
      exact ⟨hseparators.mp hparts, wellEscaped_iff.mp hescaped⟩
    · rintro ⟨hparts, hescaped⟩
      exact ⟨_, parse_eq_ok.mpr ⟨hseparators.mpr hparts, wellEscaped_iff.mpr hescaped, rfl⟩⟩
  · have htext := text_of_parse hp
    have hagain : parse p.text = .ok p := by rwa [htext, parse_trimmed]
    refine ⟨?_, htext, hagain, fun other q hq => ?_⟩
    · obtain ⟨-, -, rfl⟩ := parse_eq_ok.mp hp
      exact decide_eq_true_iff
    · constructor
      · rintro rfl
        rw [← htext, text_of_parse hq]
      · intro hsame
        -- Both are read from the same text.
        rw [htext, hsame, parse_trimmed, hq] at hagain
        exact (Except.ok.inj hagain).symm

/-- An absolute path with an escape, an empty token and separators at its end. -/
theorem parse_reads_trimmed_slashes :
    let p : Pattern := ⟨true, [.named "a/b", .named "", .wildcard]⟩
    parse "/a~1b//*//" = .ok p ∧ p.text = trimmed "/a~1b//*//" ∧ parse p.text = .ok p ∧
      parse "/a~1b//*" = .ok p ∧ trimmed "/a~1b//*//" = trimmed "/a~1b//*" := by
  intro p
  have hp : parse "/a~1b//*//" = .ok p := by decide +kernel
  have hq : parse "/a~1b//*" = .ok p := by decide +kernel
  obtain ⟨-, htext, hagain, hsame⟩ := (parse_reads_trimmed "/a~1b//*//").2 p hp
  exact ⟨hp, htext, hagain, hq, (hsame "/a~1b//*" p hq).mp rfl⟩

end Pattern
end StreamMask
