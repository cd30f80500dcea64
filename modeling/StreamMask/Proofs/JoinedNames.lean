/-
Names that are escaped, and joined to one text.

To escape a name is to replace its tildes and then its separators; to read it back is
to replace `~1` and then `~0`. In this order no replacement touches what another one
has written, so each pair can be done in one pass. Escaping goes from names to the
well-escaped texts without separators, reading back is its inverse, and a text of
escaped names with separators between them has one list of names
(`Path.escape_invertible`).
-/
import StreamMask.Proofs.PathNotation

namespace StreamMask.Path

/-! ## Replacements -/

/-- A text with `new` in the place of each occurrence of `first :: others`. Occurrences are found from
the left and do not overlap, and what is put in their place is not looked at again. -/
def replaced (first : Char) (others new : List Char) : List Char → List Char
  | [] => []
  | c :: rest =>
    if c = first ∧ others <+: rest then new ++ replaced first others new (rest.drop others.length)
    else c :: replaced first others new rest
termination_by text => text.length
decreasing_by
  all_goals simp only [List.length_cons, List.length_drop]
  all_goals omega

section

variable {first c : Char} {others new rest : List Char}

theorem replaced_occurrence (rest : List Char) :
    replaced first others new (first :: (others ++ rest)) = new ++ replaced first others new rest := by
  rw [replaced, if_pos ⟨rfl, List.prefix_append others rest⟩, List.drop_left]

theorem replaced_other (h : c ≠ first) :
    replaced first others new (c :: rest) = c :: replaced first others new rest := by
  rw [replaced, if_neg fun hboth => h hboth.1]

theorem replaced_broken (h : ¬others <+: rest) :
    replaced first others new (c :: rest) = c :: replaced first others new rest := by
  rw [replaced, if_neg fun hboth => h hboth.2]

end

/-- **A name is escaped by two replacements**, tildes first: the second one finds the separators of the
name and no others. -/
theorem escapeChars_eq_replaced (name : List Char) :
    escapeChars name = replaced '/' [] ['~', '1'] (replaced '~' [] ['~', '0'] name) := by
  fun_induction escapeChars name with
  | case1 => simp [replaced]
  | case2 rest ih =>
    have htilde : replaced '~' [] ['~', '0'] ('~' :: rest) =
        '~' :: '0' :: replaced '~' [] ['~', '0'] rest := replaced_occurrence rest
    rw [htilde, replaced_other (by decide), replaced_other (by decide), ih]
  | case3 rest ih =>
    have hslash (text : List Char) : replaced '/' [] ['~', '1'] ('/' :: text) =
        '~' :: '1' :: replaced '/' [] ['~', '1'] text := replaced_occurrence text
    rw [replaced_other (by decide), hslash, ih]
  | case4 c rest htilde hslash ih =>
    rw [replaced_other htilde, replaced_other hslash, ih]

/-- No zero comes to the front of a text by putting separators into it. -/
theorem head?_replaced_separator (text : List Char) :
    (replaced '~' ['1'] ['/'] text).head? = some '0' ↔ text.head? = some '0' := by
  cases text with
  | nil => simp [replaced]
  | cons c rest =>
    rw [replaced]
    split
    next h => simp [h.1]
    · rfl

/-- **A name is read back by two replacements**, separators first: none of the tildes that the second
one finds stood in front of a one. -/
theorem unescapeChars_eq_replaced (token : List Char) :
    unescapeChars token = replaced '~' ['0'] ['~'] (replaced '~' ['1'] ['/'] token) := by
  fun_induction unescapeChars token with
  | case1 => simp [replaced]
  | case2 rest ih =>
    have hone : replaced '~' ['1'] ['/'] ('~' :: '1' :: rest) =
        '/' :: replaced '~' ['1'] ['/'] rest := replaced_occurrence rest
    rw [hone, replaced_other (by decide), ih]
  | case3 rest ih =>
    have hbroken : ¬['1'] <+: '0' :: rest := by simp
    have hplain : '0' ≠ '~' := by decide
    have hzero (text : List Char) : replaced '~' ['0'] ['~'] ('~' :: '0' :: text) =
        '~' :: replaced '~' ['0'] ['~'] text := replaced_occurrence text
    rw [replaced_broken hbroken, replaced_other hplain, hzero, ih]
  | case4 c rest hone hzero ih =>
    by_cases htilde : c = '~'
    · -- This tilde begins no escape, and still begins none after the first replacement.
      have hbroken : ¬['1'] <+: rest := by
        rintro ⟨tail, htail⟩
        exact hone tail htilde htail.symm
      have hhead : rest.head? ≠ some '0' := fun h => by
        obtain ⟨tail, htail⟩ := List.head?_eq_some_iff.mp h
        exact hzero tail htilde htail
      have hbroken' : ¬['0'] <+: replaced '~' ['1'] ['/'] rest := by
        rintro ⟨tail, htail⟩
        exact hhead ((head?_replaced_separator rest).mp (by rw [← htail]; rfl))
      rw [replaced_broken hbroken, replaced_broken hbroken', ih]
    · rw [replaced_other htilde, replaced_other htilde, ih]

/-! ## Names with separators between them -/

/-- **What stands between separators** are the names that were joined, escaped. -/
theorem splitOn_joined {names : List String} (h : names ≠ []) :
    (['/'].intercalate (names.map fun name => escapeChars name.toList)).splitOn '/' =
      names.map fun name => escapeChars name.toList := by
  refine List.splitOn_intercalate _ (fun part hpart => ?_) (by simpa using h)
  obtain ⟨name, -, rfl⟩ := List.mem_map.mp hpart
  exact separator_notMem_escapeChars name.toList

/-- Names can be told from the text that they are joined to. -/
theorem joined_inj {names others : List String} (hnames : names ≠ []) (hothers : others ≠ []) :
    ['/'].intercalate (names.map fun name => escapeChars name.toList) =
        ['/'].intercalate (others.map fun name => escapeChars name.toList) ↔ names = others := by
  refine ⟨fun hsame => ?_, fun hsame => hsame ▸ rfl⟩
  have hparts : (names.map fun name => escapeChars name.toList) =
      others.map fun name => escapeChars name.toList := by
    rw [← splitOn_joined hnames, hsame, splitOn_joined hothers]
  refine (List.map_injective_iff.mpr fun name other heq => ?_) hparts
  exact String.toList_inj.mp (escapeChars_inj.mp heq)

theorem toList_joined (names : List String) : ("/".intercalate (names.map escape)).toList =
    ['/'].intercalate (names.map fun name => escapeChars name.toList) := by
  rw [String.toList_intercalate, List.map_map]
  refine congrArg _ (List.map_congr_left fun name _ => ?_)
  exact String.toList_ofList

/-! ## Inverses -/

/-- **Escaping and reading back are inverses.** A name is escaped to a text without separators in which a
zero or a one follows each tilde, and every such text is the escape of the name that is read from it.
So no two names have the same escape, and no two lists of names, of which none is empty, are joined to
the same text by separators between the escapes. Both are two replacements, one after the other. -/
theorem escape_invertible :
    (∀ name : String, '/' ∉ (escape name).toList ∧ TildesFollowed (escape name).toList ∧
      unescape (escape name) = name) ∧
    (∀ token : String, '/' ∉ token.toList → TildesFollowed token.toList →
      escape (unescape token) = token) ∧
    Function.Injective escape ∧
    (∀ names others : List String, names ≠ [] → others ≠ [] →
      ("/".intercalate (names.map escape) = "/".intercalate (others.map escape) ↔ names = others)) ∧
    ∀ text : String,
      (escape text).toList = replaced '/' [] ['~', '1'] (replaced '~' [] ['~', '0'] text.toList) ∧
      (unescape text).toList = replaced '~' ['0'] ['~'] (replaced '~' ['1'] ['/'] text.toList) := by
  refine ⟨fun name => ⟨?_, ?_, unescape_escape name⟩, fun token hslash hfollowed => ?_,
    Function.LeftInverse.injective unescape_escape, fun names others hnames hothers => ?_,
    fun text => ⟨?_, ?_⟩⟩
  · rw [escape, String.toList_ofList]
    exact separator_notMem_escapeChars name.toList
  · rw [escape, String.toList_ofList]
    exact wellEscaped_iff.mp (wellEscaped_escapeChars name.toList)
  · have hescaped : wellEscaped token.toList = true := wellEscaped_iff.mpr hfollowed
    rw [escape, unescape, String.toList_ofList, escapeChars_unescapeChars hescaped hslash,
      String.ofList_toList]
  · rw [← String.toList_inj, toList_joined, toList_joined, joined_inj hnames hothers]
  · rw [escape, String.toList_ofList, escapeChars_eq_replaced]
  · rw [unescape, String.toList_ofList, unescapeChars_eq_replaced]

/-- Escapes of what looks like escapes, and three names of which two are empty. -/
theorem escape_invertible_tildes :
    let token := "~01~1~00"
    let names := ["", "a/b", ""]
    '/' ∉ token.toList ∧ TildesFollowed token.toList ∧ unescape token = "~1/~0" ∧
      escape "~1/~0" = token ∧ names ≠ [] ∧ "/".intercalate (names.map escape) = "/a~1b/" ∧
      ∀ others : List String, others ≠ [] → "/a~1b/" = "/".intercalate (others.map escape) →
        names = others := by
  intro token names
  obtain ⟨-, htokens, -, hjoined, -⟩ := escape_invertible
  have hslash : '/' ∉ token.toList := by decide +kernel
  have hfollowed : TildesFollowed token.toList := wellEscaped_iff.mp (by decide +kernel)
  have hname : unescape token = "~1/~0" := by decide +kernel
  have hnames : names ≠ [] := by decide
  have htext : "/".intercalate (names.map escape) = "/a~1b/" := by decide +kernel
  refine ⟨hslash, hfollowed, hname, hname ▸ htokens token hslash hfollowed, hnames, htext,
    fun others hothers hsame => ?_⟩
  exact (hjoined names others hnames hothers).mp (htext.trans hsame)

end StreamMask.Path
