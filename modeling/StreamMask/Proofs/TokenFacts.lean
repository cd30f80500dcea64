/-
What the tokens of a path write.

A text is well escaped if a zero or a one follows each of its tildes
(`wellEscaped_iff`). Names are escaped to such texts, without separators, and any
of these is the escape of the name that it is read as. A name has an index if it
is the decimal text of a number of at most 64 bits (`named_index`), so a plus sign,
a zero in front or a number beyond that makes it a mere name.
-/
import StreamMask.Path.Pattern
import StreamMask.Proofs.DigitFacts

namespace StreamMask

/-! ## Numbers of 64 bits -/

namespace Text

theorem toList_toString (n : Nat) : (toString n).toList = Nat.toDigits 10 n := by
  rw [Nat.toString_eq_ofList_toDigits, String.toList_ofList]

theorem word?_lt {text : List Char} {n : Nat} (h : word? text = some n) : n < twoTo 64 := by
  simp only [word?, Option.ite_none_right_eq_some, Option.some.injEq] at h
  obtain ⟨⟨-, -, hlt⟩, rfl⟩ := h
  exact hlt

theorem dropPlus_toDigits (n : Nat) : dropPlus (Nat.toDigits 10 n) = Nat.toDigits 10 n := by
  unfold dropPlus
  split
  · next rest heq =>
    have hdigits := toDigits_isDigit n
    rw [heq] at hdigits
    contradiction
  · rfl

theorem word?_toDigits {n : Nat} (h : n < twoTo 64) : word? (Nat.toDigits 10 n) = some n := by
  simp only [word?, dropPlus_toDigits, digitsValue_toDigits]
  rw [if_pos ⟨Nat.toDigits_ne_nil, toDigits_isDigit n, h⟩]

end Text

namespace Path

/-! ## Escapes -/

/-- Whether a zero or a one follows each tilde. -/
def TildesFollowed (text : List Char) : Prop :=
  ∀ before after, text = before ++ '~' :: after → after.head? = some '0' ∨ after.head? = some '1'

theorem tildesFollowed_nil : TildesFollowed [] := by
  intro before after h
  simp at h

theorem tildesFollowed_cons {c : Char} {rest : List Char} :
    TildesFollowed (c :: rest) ↔
      (c = '~' → rest.head? = some '0' ∨ rest.head? = some '1') ∧ TildesFollowed rest := by
  constructor
  · intro h
    refine ⟨fun hc => h [] rest (by rw [hc]; rfl), fun before after heq => ?_⟩
    exact h (c :: before) after (by rw [heq]; rfl)
  · rintro ⟨hfirst, hrest⟩ before after heq
    cases before with
    | nil =>
      obtain ⟨rfl, rfl⟩ := List.cons.inj heq
      exact hfirst rfl
    | cons _ before =>
      obtain ⟨-, hbefore⟩ := List.cons.inj heq
      exact hrest before after hbefore

/-- **A text is well escaped if a zero or a one follows each tilde.** -/
theorem wellEscaped_iff {text : List Char} : wellEscaped text = true ↔ TildesFollowed text := by
  fun_induction wellEscaped text with
  | case1 => simp [tildesFollowed_nil]
  | case2 rest ih => simp [ih, tildesFollowed_cons]
  | case3 rest ih => simp [ih, tildesFollowed_cons]
  | case4 rest hzero hone =>
    -- Neither a zero nor a one comes after this tilde.
    have hnot : ¬(rest.head? = some '0' ∨ rest.head? = some '1') := by
      rintro (h | h) <;> obtain ⟨tail, rfl⟩ := List.head?_eq_some_iff.mp h
      · exact hzero tail rfl
      · exact hone tail rfl
    simp [tildesFollowed_cons, hnot]
  | case5 c rest _ _ hne ih =>
    have hc : c ≠ '~' := hne
    simp [ih, tildesFollowed_cons, hc]

theorem wellEscaped_escapeChars (name : List Char) : wellEscaped (escapeChars name) = true := by
  fun_induction escapeChars name with
  | case1 => rfl
  | case2 rest ih => simpa [wellEscaped] using ih
  | case3 rest ih => simpa [wellEscaped] using ih
  | case4 c rest hne _ ih =>
    rw [wellEscaped_iff, tildesFollowed_cons, ← wellEscaped_iff]
    exact ⟨fun hc => absurd hc hne, ih⟩

theorem separator_notMem_escapeChars (name : List Char) : '/' ∉ escapeChars name := by
  fun_induction escapeChars name with
  | case1 => simp
  | case2 rest ih => simpa using ih
  | case3 rest ih => simpa using ih
  | case4 c rest _ hne ih =>
    have hc : '/' ≠ c := fun h => hne h.symm
    simp [hc, ih]

theorem escapeChars_cons {c : Char} {rest : List Char} (htilde : c ≠ '~') (hslash : c ≠ '/') :
    escapeChars (c :: rest) = c :: escapeChars rest := by
  rw [escapeChars]
  · exact htilde
  · exact hslash

/-- **A token is the escape of the name that it is read as**, if it is well escaped. -/
theorem escapeChars_unescapeChars {token : List Char} (h : wellEscaped token = true)
    (hslash : '/' ∉ token) : escapeChars (unescapeChars token) = token := by
  fun_induction unescapeChars token with
  | case1 => rfl
  | case2 rest ih => simp_all [escapeChars, wellEscaped]
  | case3 rest ih => simp_all [escapeChars, wellEscaped]
  | case4 c rest hone hzero ih =>
    rw [wellEscaped_iff, tildesFollowed_cons, ← wellEscaped_iff] at h
    obtain ⟨hfollowed, hrest⟩ := h
    have hc := List.ne_of_not_mem_cons hslash
    have hslash := List.not_mem_of_not_mem_cons hslash
    have htilde : c ≠ '~' := by
      intro hc
      rcases hfollowed hc with hhead | hhead <;> obtain ⟨tail, rfl⟩ := List.head?_eq_some_iff.mp hhead
      · exact hzero tail hc rfl
      · exact hone tail hc rfl
    rw [escapeChars_cons htilde (Ne.symm hc), ih hrest hslash]

/-- Names without tildes and separators stand for themselves. -/
theorem escapeChars_plain {name : List Char} (htilde : '~' ∉ name) (hslash : '/' ∉ name) :
    escapeChars name = name := by
  induction name with
  | nil => rfl
  | cons c rest ih =>
    have hc := (List.ne_of_not_mem_cons htilde).symm
    have hc' := (List.ne_of_not_mem_cons hslash).symm
    rw [escapeChars_cons hc hc', ih (List.not_mem_of_not_mem_cons htilde)
      (List.not_mem_of_not_mem_cons hslash)]

theorem escapeChars_inj {name other : List Char} :
    escapeChars name = escapeChars other ↔ name = other :=
  (Function.LeftInverse.injective unescapeChars_escapeChars).eq_iff

/-! ## Tokens -/

namespace Token

/-- The token that a well-escaped text writes. -/
def ofPart (part : List Char) : Token :=
  if part = ['*'] then .wildcard else named (String.ofList (unescapeChars part))

theorem parse_eq_ok {part : List Char} {token : Token} :
    Token.parse part = .ok token ↔ wellEscaped part = true ∧ token = ofPart part := by
  unfold Token.parse ofPart
  split
  · next h => simp [h, wellEscaped, eq_comm]
  · split
    · next h => simp [h, eq_comm]
    · next h => simp [h]

/-- A token is written as it was read. -/
theorem text_ofPart {part : List Char} (h : wellEscaped part = true) (hslash : '/' ∉ part) :
    (ofPart part).text = String.ofList part := by
  unfold ofPart
  split
  · next hstar => rw [hstar]; rfl
  · rw [named, Token.text, escape, String.toList_ofList, escapeChars_unescapeChars h hslash]

theorem named_index {name : String} {index : Nat} :
    ((Text.word? name.toList).filter fun index => toString index = name) = some index ↔
      index < twoTo 64 ∧ name = toString index := by
  simp only [Option.filter_eq_some_iff, decide_eq_true_eq]
  constructor
  · rintro ⟨hword, hname⟩
    exact ⟨Text.word?_lt hword, hname.symm⟩
  · rintro ⟨hlt, rfl⟩
    exact ⟨by rw [Text.toList_toString, Text.word?_toDigits hlt], rfl⟩

example : named "1" = .literal "1" (some 1) ∧ named "01" = .literal "01" none ∧
    named "+1" = .literal "+1" none ∧
    named "18446744073709551616" = .literal "18446744073709551616" none := by
  decide +kernel

/-- A name fits an item if it is the decimal text of the item's index, of at most 64 bits. -/
theorem named_fits_array {name : String} {index : Nat} :
    (named name).fits (.array index) = true ↔ index < twoTo 64 ∧ name = toString index := by
  rw [named, fits, decide_eq_true_eq, named_index]

theorem named_fits_object {name : String} {pending : Option String} :
    (named name).fits (.object pending) = true ↔ pending = some name := by
  cases pending with
  | none => simp [named, fits]
  | some current => simp [named, fits]

end Token
end Path
end StreamMask
