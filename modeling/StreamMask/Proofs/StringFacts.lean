/-
Strings of JSON: which texts they are, that just those are read, and what they
say.

Between the quotes stand characters and escapes (`Part`). Every list of parts is a
string of a well-formed document, but it says something only if the halves of
surrogate pairs in it come in pairs (`meaning`); the reader passes over the former
and reads the latter.
-/
import StreamMask.Json.Quoted
import StreamMask.Json.Reading

namespace StreamMask.Json

/-! ## Strings as they are written -/

/-- A piece of a string. -/
inductive Part where
  /-- A character that stands for itself. -/
  | plain (c : Char)
  /-- A backslash and a letter. -/
  | letter (c : Char)
  /-- A backslash, `u` and four hexadecimal digits. -/
  | unit (a b c d : Char)

/-- The digits of hexadecimal notation, in either case. -/
def IsHex (c : Char) : Prop := '0' ≤ c ∧ c ≤ '9' ∨ 'a' ≤ c ∧ c ≤ 'f' ∨ 'A' ≤ c ∧ c ≤ 'F'

namespace Part

def text : Part → List Char
  | plain c => [c]
  | letter c => ['\\', c]
  | unit a b c d => ['\\', 'u', a, b, c, d]

def Valid : Part → Prop
  | plain c => c ≠ '"' ∧ c ≠ '\\' ∧ 0x20 ≤ c.toNat
  | letter c => c ∈ ['"', '\\', '/', 'b', 'f', 'n', 'r', 't']
  | unit a b c d => IsHex a ∧ IsHex b ∧ IsHex c ∧ IsHex d

/-- The text of some parts, and the quote after them. -/
def quoted (parts : List Part) (rest : List Char) : List Char :=
  parts.flatMap text ++ '"' :: rest

theorem quoted_cons (part : Part) (parts : List Part) (rest : List Char) :
    quoted (part :: parts) rest = part.text ++ quoted parts rest := by
  simp only [quoted, List.flatMap_cons, List.append_assoc]

theorem letter_valid {c : Char} : (letter c).Valid ↔ ∃ char, simpleEscape? c = some char := by
  constructor
  · intro h
    simp only [Valid, List.mem_cons, List.not_mem_nil, or_false] at h
    rcases h with rfl | rfl | rfl | rfl | rfl | rfl | rfl | rfl <;> exact ⟨_, rfl⟩
  · rintro ⟨char, h⟩
    unfold simpleEscape? at h
    split at h
    case h_9 => contradiction
    all_goals simp only [Valid, List.mem_cons, true_or, or_true]

theorem hexValue?_isSome {c : Char} : (hexValue? c).isSome = true ↔ IsHex c := by
  unfold hexValue? IsHex
  split
  · next h => simp only [h, Option.isSome_some, and_self, true_or]
  · next hdigit =>
    split
    · next h => simp only [h, Option.isSome_some, and_self, true_or, or_true]
    · next hlower =>
      split
      · next h => simp only [h, Option.isSome_some, and_self, or_true]
      · next hupper => simp only [hdigit, hlower, hupper, Option.isSome_none, Bool.false_eq_true, or_self]

theorem unit_valid {a b c d : Char} :
    (unit a b c d).Valid ↔ ∃ value, hexUnit? a b c d = some value := by
  simp only [Valid, ← hexValue?_isSome, ← Option.isSome_iff_exists]
  unfold hexUnit?
  cases hexValue? a <;> cases hexValue? b <;> cases hexValue? c <;> cases hexValue? d <;> simp

end Part

theorem quoted_append (parts : List Part) (rest : List Char) :
    Part.quoted parts rest = Part.quoted parts [] ++ rest := by
  simp only [Part.quoted, List.append_assoc, List.cons_append, List.nil_append]

theorem quoted_suffix (others parts : List Part) :
    Part.quoted parts [] <:+ Part.quoted (others ++ parts) [] := by
  rw [Part.quoted, Part.quoted, List.flatMap_append, List.append_assoc]
  exact List.suffix_append ..

/-- Whether a unit is the first half of a surrogate pair. -/
def IsHigh (unit : Nat) : Prop := 0xD800 ≤ unit ∧ unit ≤ 0xDBFF

/-- Whether a unit is the second half of a surrogate pair. -/
def IsLow (unit : Nat) : Prop := 0xDC00 ≤ unit ∧ unit ≤ 0xDFFF

instance (unit : Nat) : Decidable (IsHigh unit) := inferInstanceAs (Decidable (_ ∧ _))

instance (unit : Nat) : Decidable (IsLow unit) := inferInstanceAs (Decidable (_ ∧ _))

/-- The character that a surrogate pair stands for. -/
def pairChar (high low : Nat) : Char :=
  Char.ofNat (0x10000 + (high - 0xD800) * 0x400 + (low - 0xDC00))

/-- What parts say. Nothing, if there is half of a surrogate pair without the other half. -/
def meaning : List Part → Option (List Char)
  | [] => some []
  | .plain c :: parts => (meaning parts).map (c :: ·)
  | .letter c :: parts => (simpleEscape? c).bind fun c => (meaning parts).map (c :: ·)
  | .unit a b c d :: parts =>
    (hexUnit? a b c d).bind fun unit =>
      if IsLow unit then none
      else if IsHigh unit then
        match parts with
        | .unit e f g h :: parts =>
          (hexUnit? e f g h).bind fun low =>
            if IsLow low then (meaning parts).map (pairChar unit low :: ·) else none
        | _ => none
      else (meaning parts).map (Char.ofNat unit :: ·)

/-! ## Passing over strings -/

theorem readUnit_append (medium : Medium) {a b c d : Char} {unit : Nat}
    (h : hexUnit? a b c d = some unit) (rest : List Char) :
    readUnit medium (a :: b :: c :: d :: rest) = .ok (unit, rest) := by
  simp only [readUnit, h]

theorem simpleEscape_ne {c char : Char} (h : simpleEscape? c = some char) : c ≠ 'u' := by
  rintro rfl
  contradiction

theorem escapeLength_letter (medium : Medium) {c char : Char} (h : simpleEscape? c = some char)
    (rest : List Char) : escapeLength medium (c :: rest) = .ok 1 := by
  have hne := simpleEscape_ne h
  unfold escapeLength
  split
  · contradiction
  · next heq => exact absurd (List.cons.inj heq).1 hne
  · next heq =>
    cases heq
    split
    · rfl
    · next hnone => rw [hnone] at h; contradiction

/-- A string is passed over to its end. -/
theorem skipString_quoted (medium : Medium) {parts : List Part} (h : ∀ part ∈ parts, part.Valid)
    (rest : List Char) : skipString medium 0 (Part.quoted parts rest) = .ok rest := by
  induction parts with
  | nil => rfl
  | cons part parts ih =>
    have hpart := h part (List.mem_cons_self ..)
    have hparts := ih fun part hmem => h part (List.mem_cons_of_mem _ hmem)
    rw [Part.quoted_cons]
    cases part with
    | plain c =>
      obtain ⟨hquote, hslash, hcontrol⟩ := hpart
      show skipString medium 0 (c :: Part.quoted parts rest) = _
      rw [skipString, if_neg hquote, if_neg hslash, if_neg (by omega), hparts]
    | letter c =>
      obtain ⟨char, hchar⟩ := Part.letter_valid.mp hpart
      show skipString medium 0 ('\\' :: c :: Part.quoted parts rest) = _
      rw [skipString, if_neg (by decide), if_pos rfl, escapeLength_letter medium hchar]
      exact hparts
    | unit a b c d =>
      obtain ⟨unit, hunit⟩ := Part.unit_valid.mp hpart
      show skipString medium 0 ('\\' :: 'u' :: a :: b :: c :: d :: Part.quoted parts rest) = _
      rw [skipString, if_neg (by decide), if_pos rfl, escapeLength, readUnit_append medium hunit]
      exact hparts

theorem readUnit_sound {medium : Medium} {text rest : List Char} {unit : Nat}
    (h : readUnit medium text = .ok (unit, rest)) :
    ∃ a b c d, text = a :: b :: c :: d :: rest ∧ hexUnit? a b c d = some unit := by
  unfold readUnit at h
  split at h
  · next a b c d rest =>
    split at h
    · next hunit =>
      cases h
      exact ⟨a, b, c, d, rfl, hunit⟩
    · contradiction
  · contradiction

/-- What is passed over as an escape is one. -/
theorem escapeLength_sound {medium : Medium} {text : List Char} {length : Nat}
    (h : escapeLength medium text = .ok length) :
    ∃ part : Part, part.Valid ∧ '\\' :: text = part.text ++ text.drop length := by
  unfold escapeLength at h
  split at h
  · contradiction
  · next rest =>
    cases hread : readUnit medium rest with
    | error stop => rw [hread] at h; contradiction
    | ok read =>
      obtain ⟨unit, after⟩ := read
      rw [hread] at h
      cases h
      obtain ⟨a, b, c, d, rfl, hunit⟩ := readUnit_sound hread
      exact ⟨.unit a b c d, Part.unit_valid.mpr ⟨unit, hunit⟩, rfl⟩
  · next c rest _ =>
    split at h
    · next hescape =>
      cases h
      exact ⟨.letter c, Part.letter_valid.mpr ⟨_, hescape⟩, rfl⟩
    · contradiction

/-- **Only strings are passed over.** -/
theorem skipString_sound {medium : Medium} {skip : Nat} {text rest : List Char}
    (h : skipString medium skip text = .ok rest) :
    ∃ parts : List Part, (∀ part ∈ parts, part.Valid) ∧ text.drop skip = Part.quoted parts rest := by
  induction text generalizing skip with
  | nil => unfold skipString at h; contradiction
  | cons c text ih =>
    cases skip with
    | succ skip => exact ih h
    | zero =>
      rw [skipString] at h
      split at h
      · next hquote =>
        cases h
        subst hquote
        exact ⟨[], List.forall_mem_nil _, rfl⟩
      · next hquote =>
        split at h
        · next hslash =>
          subst hslash
          split at h
          · contradiction
          · next length hlength =>
            obtain ⟨part, hvalid, heq⟩ := escapeLength_sound hlength
            obtain ⟨parts, hparts, hdrop⟩ := ih h
            refine ⟨part :: parts, List.forall_mem_cons.mpr ⟨hvalid, hparts⟩, ?_⟩
            rw [Part.quoted_cons, ← hdrop, ← heq]
            rfl
        · next hslash =>
          split at h
          · contradiction
          · next hcontrol =>
            obtain ⟨parts, hparts, hdrop⟩ := ih h
            refine ⟨.plain c :: parts, List.forall_mem_cons.mpr ⟨⟨hquote, hslash, by omega⟩, hparts⟩, ?_⟩
            rw [Part.quoted_cons, ← hdrop]
            rfl

/-! ## Reading strings -/

/-- The unit of the second half of a surrogate pair, if the parts begin with one. -/
def lowHalf : List Part → Option Nat
  | .unit a b c d :: _ => (hexUnit? a b c d).filter (IsLow ·)
  | _ => none

theorem meaning_high {a b c d : Char} {unit : Nat} (h : hexUnit? a b c d = some unit)
    (hhigh : IsHigh unit) (parts : List Part) :
    meaning (.unit a b c d :: parts) =
      (lowHalf parts).bind fun low => (meaning parts.tail).map (pairChar unit low :: ·) := by
  have hlow : ¬IsLow unit := fun hlow => by simp only [IsLow, IsHigh] at *; omega
  rw [meaning, h, Option.bind_some, if_neg hlow, if_pos hhigh]
  cases parts with
  | nil => rfl
  | cons part parts =>
    cases part with
    | plain c => rfl
    | letter c => rfl
    | unit e f g h =>
      simp only [lowHalf, List.tail_cons]
      cases hexUnit? e f g h with
      | none => rfl
      | some low =>
        by_cases hl : IsLow low
        · simp only [Option.bind_some, Option.filter_some, hl, decide_true, ↓reduceIte]
        · simp only [Option.bind_some, Option.filter_some, hl, decide_false, Bool.false_eq_true,
            ↓reduceIte, Option.bind_none]

/-- Whether a part is the first half of a surrogate pair. -/
def Part.IsHighHalf : Part → Prop
  | unit a b c d => ∃ unit, hexUnit? a b c d = some unit ∧ IsHigh unit
  | _ => False

/-- Whether a part is the second half of a surrogate pair. -/
def Part.IsLowHalf : Part → Prop
  | unit a b c d => ∃ unit, hexUnit? a b c d = some unit ∧ IsLow unit
  | _ => False

/-- Whether half of a surrogate pair is in some parts without the other half beside it; `last` is the
part before them. -/
def Unpaired : (last : Option Part) → List Part → Prop
  | _, [] => False
  | last, part :: parts =>
    (part.IsHighHalf ∧ ∀ next ∈ parts.head?, ¬next.IsLowHalf) ∨
      (part.IsLowHalf ∧ ∀ before ∈ last, ¬before.IsHighHalf) ∨ Unpaired (some part) parts

theorem isHighHalf_unit {a b c d : Char} {unit : Nat} (h : hexUnit? a b c d = some unit) :
    (Part.unit a b c d).IsHighHalf ↔ IsHigh unit := by
  simp [Part.IsHighHalf, h]

theorem isLowHalf_unit {a b c d : Char} {unit : Nat} (h : hexUnit? a b c d = some unit) :
    (Part.unit a b c d).IsLowHalf ↔ IsLow unit := by
  simp [Part.IsLowHalf, h]

/-- There is a second half of a pair in front just if the first part is one. -/
theorem lowHalf_eq_none {parts : List Part} :
    lowHalf parts = none ↔ ∀ next ∈ parts.head?, ¬next.IsLowHalf := by
  cases parts with
  | nil => simp [lowHalf]
  | cons part parts =>
    cases part with
    | plain c => simp [lowHalf, Part.IsLowHalf]
    | letter c => simp [lowHalf, Part.IsLowHalf]
    | unit a b c d => cases h : hexUnit? a b c d <;> simp [lowHalf, Part.IsLowHalf, h]

/-- **Parts say nothing just if they have half of a surrogate pair alone.** -/
theorem meaning_eq_none (parts : List Part) (hvalid : ∀ part ∈ parts, part.Valid) (last : Option Part)
    (hlast : ∀ before ∈ last, ¬before.IsHighHalf) : meaning parts = none ↔ Unpaired last parts := by
  match parts with
  | [] => simp [meaning, Unpaired]
  | .plain c :: parts =>
    have ih := meaning_eq_none parts (List.forall_mem_cons.mp hvalid).2 (some (.plain c))
      (by simp [Part.IsHighHalf])
    simp [meaning, Unpaired, Part.IsHighHalf, Part.IsLowHalf, ih]
  | .letter c :: parts =>
    obtain ⟨hletter, hparts⟩ := List.forall_mem_cons.mp hvalid
    obtain ⟨char, hchar⟩ := Part.letter_valid.mp hletter
    have ih := meaning_eq_none parts hparts (some (.letter c)) (by simp [Part.IsHighHalf])
    simp [meaning, Unpaired, Part.IsHighHalf, Part.IsLowHalf, hchar, ih]
  | .unit a b c d :: parts =>
    obtain ⟨hunit, hparts⟩ := List.forall_mem_cons.mp hvalid
    obtain ⟨unit, hunit⟩ := Part.unit_valid.mp hunit
    rw [Unpaired, isHighHalf_unit hunit, isLowHalf_unit hunit]
    by_cases hlow : IsLow unit
    · simp only [meaning, hunit, Option.bind_some, if_pos hlow, true_iff]
      exact .inr (.inl ⟨hlow, hlast⟩)
    by_cases hhigh : IsHigh unit
    · rw [meaning_high hunit hhigh, ← lowHalf_eq_none]
      cases hhalf : lowHalf parts with
      | none => simp [hhigh]
      | some low =>
        match parts with
        | .unit e f g h :: parts =>
          obtain ⟨hsecond, hislow⟩ := Option.filter_eq_some_iff.mp hhalf
          have hlowHalf := of_decide_eq_true hislow
          have hnotHigh : ¬IsHigh low := fun hhigh => by simp only [IsLow, IsHigh] at *; omega
          have ih := meaning_eq_none parts (List.forall_mem_cons.mp hparts).2 (some (.unit e f g h))
            (by simpa [isHighHalf_unit hsecond] using hnotHigh)
          simp [Unpaired, isHighHalf_unit hunit, isHighHalf_unit hsecond, hlow, hhigh, hnotHigh, ih]
    · have ih := meaning_eq_none parts hparts (some (.unit a b c d))
        (by simpa [isHighHalf_unit hunit] using hhigh)
      simp [meaning, hunit, hlow, hhigh, ih]
termination_by parts.length

/-- A stop in a text, as one in the text together with what follows it. -/
def Stop.before (stop : Stop) (rest : List Char) : Stop := { stop with rest := stop.rest ++ rest }

/-- Whether reading stopped in a text, and looked at nothing behind it. -/
def Stop.Within (stop : Stop) (text : List Char) : Prop :=
  stop.rest <:+ text ∧ stop.ahead ≤ Medium.text.size stop.rest

theorem Stop.Within.of_suffix {stop : Stop} {text longer : List Char} (h : stop.Within text)
    (hsuffix : text <:+ longer) : stop.Within longer :=
  ⟨h.1.trans hsuffix, h.2⟩

theorem Stop.atNext_within (cause : Cause) {c : Char} {rest text : List Char}
    (h : c :: rest <:+ text) : (Stop.atNext cause (c :: rest)).Within text :=
  ⟨h, Nat.le_add_right_of_le c.utf8Size_pos⟩

/-- Whether parts are read as what they say, whatever follows them, or refused if they say nothing;
then they are refused before anything that follows is looked at. -/
def Reads (parts : List Part) : Option (List Char) → Prop
  | some chars => ∀ rest, readString 0 (Part.quoted parts rest) = .ok (chars, rest)
  | none =>
    ∃ stop : Stop, stop.Within (Part.quoted parts []) ∧
      ∀ rest, readString 0 (Part.quoted parts rest) = .error (stop.before rest)

theorem Reads.push {parts : List Part} {result : Option (List Char)} {c : Char}
    (h : Reads parts result) (others : List Part)
    (heq : ∀ rest, readString 0 (Part.quoted (others ++ parts) rest) =
      (readString 0 (Part.quoted parts rest)).map fun (text, rest) => (c :: text, rest)) :
    Reads (others ++ parts) (result.map (c :: ·)) := by
  cases result with
  | some chars =>
    intro rest
    rw [heq, h rest]
    rfl
  | none =>
    obtain ⟨stop, hwithin, hstop⟩ := h
    refine ⟨stop, hwithin.of_suffix (quoted_suffix others parts), fun rest => ?_⟩
    rw [heq, hstop]
    rfl

theorem readPair_low {a b c d : Char} {low : Nat} (h : hexUnit? a b c d = some low)
    (hlow : IsLow low) (high : Nat) (rest : List Char) :
    readPair high ('\\' :: 'u' :: a :: b :: c :: d :: rest) = .ok (pairChar high low) := by
  simp only [readPair, readUnit_append _ h]
  exact if_pos hlow

/-- The first half of a surrogate pair must be followed by the second. -/
theorem readPair_alone {parts : List Part} (hvalid : ∀ part ∈ parts, part.Valid)
    (hnone : lowHalf parts = none) (high : Nat) :
    ∃ stop : Stop, stop.Within (Part.quoted parts []) ∧
      ∀ rest, readPair high (Part.quoted parts rest) = .error (stop.before rest) := by
  cases parts with
  | nil => exact ⟨.atNext .endOfHexEscape ['"'], Stop.atNext_within _ (List.suffix_refl _), fun _ => rfl⟩
  | cons part parts =>
    have hpart := hvalid part (List.mem_cons_self ..)
    cases part with
    | plain c =>
      refine ⟨.atNext .endOfHexEscape (c :: Part.quoted parts []),
        Stop.atNext_within _ (List.suffix_refl _), fun rest => ?_⟩
      show readPair high (c :: Part.quoted parts rest) = _
      rw [Stop.before, Stop.atNext, List.cons_append, ← quoted_append]
      unfold readPair
      split
      · contradiction
      · next heq => exact absurd (List.cons.inj heq).1 hpart.2.1
      · next heq => exact absurd (List.cons.inj heq).1 hpart.2.1
      · next heq => exact absurd (List.cons.inj heq).1 hpart.2.1
      · rfl
    | letter c =>
      obtain ⟨char, hchar⟩ := Part.letter_valid.mp hpart
      have hne := simpleEscape_ne hchar
      refine ⟨.atNext .endOfHexEscape (c :: Part.quoted parts []),
        Stop.atNext_within _ (List.suffix_cons _ _), fun rest => ?_⟩
      show readPair high ('\\' :: c :: Part.quoted parts rest) = _
      rw [Stop.before, Stop.atNext, List.cons_append, ← quoted_append]
      unfold readPair
      split
      · contradiction
      · next heq => exact absurd (List.cons.inj heq).2 (List.cons_ne_nil _ _)
      · next heq => exact absurd (List.cons.inj (List.cons.inj heq).2).1 hne
      · next heq => rw [(List.cons.inj heq).2]; rfl
      · next hslash => exact absurd rfl (hslash _)
    | unit a b c d =>
      obtain ⟨unit, hunit⟩ := Part.unit_valid.mp hpart
      have hlow : ¬IsLow unit := by
        intro hlow
        simp [lowHalf, hunit, hlow] at hnone
      refine ⟨⟨.loneSurrogate, Part.quoted parts [], 0⟩,
        ⟨quoted_suffix [_] parts, Nat.zero_le _⟩, fun rest => ?_⟩
      show readPair high ('\\' :: 'u' :: a :: b :: c :: d :: Part.quoted parts rest) = _
      rw [Stop.before, ← quoted_append]
      simp only [readPair, readUnit_append _ hunit]
      exact if_neg hlow

theorem readEscape_letter {c char : Char} (h : simpleEscape? c = some char) (rest : List Char) :
    readEscape (c :: rest) = .ok (char, 1) := by
  have hne := simpleEscape_ne h
  unfold readEscape
  split
  · contradiction
  · next heq => exact absurd (List.cons.inj heq).1 hne
  · next heq =>
    cases heq
    simp only [h]

theorem readEscape_unit {a b c d : Char} {unit : Nat} (h : hexUnit? a b c d = some unit)
    (rest : List Char) :
    readEscape ('u' :: a :: b :: c :: d :: rest) =
      if IsLow unit then .error ⟨.loneSurrogate, rest, 0⟩
      else if IsHigh unit then (readPair unit rest).map fun c => (c, 11)
      else .ok (Char.ofNat unit, 5) := by
  simp only [readEscape, readUnit_append .text h]
  rfl

/-- Reading goes on after an escape. -/
theorem readString_escape {text : List Char} {char : Char} {length : Nat}
    (h : readEscape text = .ok (char, length)) :
    readString 0 ('\\' :: text) =
      (readString length text).map fun (text, rest) => (char :: text, rest) := by
  rw [readString, if_neg (by decide), if_pos rfl, h]

theorem readString_bad_escape {text : List Char} {stop : Stop} (h : readEscape text = .error stop) :
    readString 0 ('\\' :: text) = .error stop := by
  rw [readString, if_neg (by decide), if_pos rfl, h]

/-- **A string is read as what its parts say**, and refused if they say nothing. -/
theorem readString_quoted (parts : List Part) (hvalid : ∀ part ∈ parts, part.Valid) :
    Reads parts (meaning parts) := by
  match parts with
  | [] => exact fun _ => rfl
  | .plain c :: parts =>
    obtain ⟨⟨hquote, hslash, hcontrol⟩, hparts⟩ := List.forall_mem_cons.mp hvalid
    refine (readString_quoted parts hparts).push [.plain c] fun rest => ?_
    show readString 0 (c :: Part.quoted parts rest) = _
    rw [readString, if_neg hquote, if_neg hslash, if_neg (by omega)]
  | .letter c :: parts =>
    obtain ⟨hletter, hparts⟩ := List.forall_mem_cons.mp hvalid
    obtain ⟨char, hchar⟩ := Part.letter_valid.mp hletter
    rw [meaning, hchar, Option.bind_some]
    exact (readString_quoted parts hparts).push [.letter c] fun rest =>
      readString_escape (readEscape_letter hchar _)
  | .unit a b c d :: parts =>
    obtain ⟨hunit, hparts⟩ := List.forall_mem_cons.mp hvalid
    obtain ⟨unit, hunit⟩ := Part.unit_valid.mp hunit
    have hsuffix := quoted_suffix [.unit a b c d] parts
    have hescape (rest : List Char) := readEscape_unit hunit (Part.quoted parts rest)
    by_cases hlow : IsLow unit
    · rw [meaning, hunit, Option.bind_some, if_pos hlow]
      refine ⟨⟨.loneSurrogate, Part.quoted parts [], 0⟩, ⟨hsuffix, Nat.zero_le _⟩, fun rest => ?_⟩
      rw [Stop.before, ← quoted_append]
      exact readString_bad_escape ((hescape rest).trans (if_pos hlow))
    simp only [if_neg hlow] at hescape
    by_cases hhigh : IsHigh unit
    · simp only [if_pos hhigh] at hescape
      rw [meaning_high hunit hhigh]
      cases hhalf : lowHalf parts with
      | none =>
        obtain ⟨stop, hwithin, hstop⟩ := readPair_alone hparts hhalf unit
        refine ⟨stop, hwithin.of_suffix hsuffix, fun rest => readString_bad_escape ?_⟩
        show readEscape ('u' :: a :: b :: c :: d :: Part.quoted parts rest) = _
        rw [hescape, hstop]
        rfl
      | some low =>
        match parts with
        | .unit e f g h :: parts =>
          obtain ⟨hsecond, hislow⟩ := Option.filter_eq_some_iff.mp hhalf
          refine (readString_quoted parts (List.forall_mem_cons.mp hparts).2).push
            [.unit a b c d, .unit e f g h] fun rest => ?_
          have hpair := readPair_low hsecond (of_decide_eq_true hislow) unit (Part.quoted parts rest)
          exact readString_escape ((hescape rest).trans (congrArg (Except.map _) hpair))
    · simp only [if_neg hhigh] at hescape
      rw [meaning, hunit, Option.bind_some, if_neg hlow, if_neg hhigh]
      exact (readString_quoted parts hparts).push [.unit a b c d] fun rest =>
        readString_escape (hescape rest)
termination_by parts.length

theorem readString_said {parts : List Part} (hvalid : ∀ part ∈ parts, part.Valid) {chars : List Char}
    (hmeaning : meaning parts = some chars) (rest : List Char) :
    readString 0 (Part.quoted parts rest) = .ok (chars, rest) := by
  have hreads := readString_quoted parts hvalid
  rw [hmeaning] at hreads
  exact hreads rest

theorem readString_unsaid {parts : List Part} (hvalid : ∀ part ∈ parts, part.Valid)
    (hmeaning : meaning parts = none) :
    ∃ stop : Stop, stop.Within (Part.quoted parts []) ∧
      ∀ rest, readString 0 (Part.quoted parts rest) = .error (stop.before rest) := by
  have hreads := readString_quoted parts hvalid
  rwa [hmeaning] at hreads

theorem readPair_sound {high : Nat} {text : List Char} {char : Char}
    (h : readPair high text = .ok char) :
    ∃ a b c d rest, text = '\\' :: 'u' :: a :: b :: c :: d :: rest ∧
      ∃ low, hexUnit? a b c d = some low := by
  unfold readPair at h
  split at h
  · contradiction
  · contradiction
  · split at h
    · contradiction
    · next hread =>
      obtain ⟨a, b, c, d, rfl, hunit⟩ := readUnit_sound hread
      exact ⟨a, b, c, d, _, rfl, _, hunit⟩
  · contradiction
  · contradiction

/-- What is read as an escape is one, or two that are a surrogate pair. -/
theorem readEscape_sound {text : List Char} {char : Char} {length : Nat}
    (h : readEscape text = .ok (char, length)) :
    ∃ parts : List Part, (∀ part ∈ parts, part.Valid) ∧
      '\\' :: text = parts.flatMap Part.text ++ text.drop length := by
  unfold readEscape at h
  split at h
  · contradiction
  · next rest =>
    split at h
    · contradiction
    · next unit after hread =>
      obtain ⟨a, b, c, d, rfl, hunit⟩ := readUnit_sound hread
      have hfirst : (Part.unit a b c d).Valid := Part.unit_valid.mpr ⟨unit, hunit⟩
      split at h
      · contradiction
      · split at h
        · cases hpair : readPair unit after with
          | error stop => rw [hpair] at h; contradiction
          | ok paired =>
            rw [hpair] at h
            cases h
            obtain ⟨e, f, g, i, rest, rfl, low, hlow⟩ := readPair_sound hpair
            have hsecond : (Part.unit e f g i).Valid := Part.unit_valid.mpr ⟨low, hlow⟩
            exact ⟨[.unit a b c d, .unit e f g i], by simp [hfirst, hsecond], rfl⟩
        · cases h
          exact ⟨[.unit a b c d], by simp [hfirst], rfl⟩
  · next c rest _ =>
    split at h
    · next hescape =>
      cases h
      have hletter : (Part.letter c).Valid := Part.letter_valid.mpr ⟨_, hescape⟩
      exact ⟨[.letter c], by simp [hletter], rfl⟩
    · contradiction

/-- **Only strings that say something are read.** -/
theorem readString_sound {skip : Nat} {text rest chars : List Char}
    (h : readString skip text = .ok (chars, rest)) :
    ∃ parts : List Part, (∀ part ∈ parts, part.Valid) ∧ text.drop skip = Part.quoted parts rest := by
  induction text generalizing skip chars with
  | nil => unfold readString at h; contradiction
  | cons c text ih =>
    cases skip with
    | succ skip => exact ih h
    | zero =>
      rw [readString] at h
      split at h
      · next hquote =>
        cases h
        subst hquote
        exact ⟨[], List.forall_mem_nil _, rfl⟩
      · next hquote =>
        split at h
        · next hslash =>
          subst hslash
          split at h
          · contradiction
          · next char length hescape =>
            obtain ⟨first, hfirst, heq⟩ := readEscape_sound hescape
            cases hread : readString length text with
            | error stop => rw [hread] at h; contradiction
            | ok read =>
              rw [hread] at h
              cases h
              obtain ⟨parts, hparts, hdrop⟩ := ih hread
              refine ⟨first ++ parts, ?_, ?_⟩
              · exact fun part hmem => (List.mem_append.mp hmem).elim (hfirst part) (hparts part)
              · rw [Part.quoted, List.flatMap_append, List.append_assoc, ← Part.quoted, ← hdrop]
                exact heq
        · next hslash =>
          split at h
          · contradiction
          · next hcontrol =>
            cases hread : readString 0 text with
            | error stop => rw [hread] at h; contradiction
            | ok read =>
              rw [hread] at h
              cases h
              obtain ⟨parts, hparts, hdrop⟩ := ih hread
              refine ⟨.plain c :: parts, List.forall_mem_cons.mpr ⟨⟨hquote, hslash, by omega⟩, hparts⟩, ?_⟩
              rw [Part.quoted_cons, ← hdrop]
              rfl

/-- **Just the strings that say something are read**, as what they say. -/
theorem readString_eq_ok {text rest chars : List Char} :
    readString 0 text = .ok (chars, rest) ↔
      ∃ parts : List Part, (∀ part ∈ parts, part.Valid) ∧ text = Part.quoted parts rest ∧
        meaning parts = some chars := by
  constructor
  · intro h
    obtain ⟨parts, hvalid, htext⟩ := readString_sound h
    rw [List.drop_zero] at htext
    subst htext
    refine ⟨parts, hvalid, rfl, ?_⟩
    cases hmeaning : meaning parts with
    | none =>
      obtain ⟨stop, -, hstop⟩ := readString_unsaid hvalid hmeaning
      rw [hstop] at h
      contradiction
    | some said =>
      rw [readString_said hvalid hmeaning] at h
      cases h
      rfl
  · rintro ⟨parts, hvalid, rfl, hmeaning⟩
    exact readString_said hvalid hmeaning rest

/-! ## Writing strings -/

theorem hexUnit?_control : ∀ n < 0x20,
    hexUnit? '0' '0' (hexDigit (n / 16)) (hexDigit (n % 16)) = some n := by decide

theorem hexDigit_visible : ∀ n < 0x20, 0x20 ≤ (hexDigit (n / 16)).toNat ∧
    0x20 ≤ (hexDigit (n % 16)).toNat := by decide

/-- Whether a text has no control characters. -/
def Visible (text : List Char) : Prop := ∀ c ∈ text, 0x20 ≤ c.toNat

instance (text : List Char) : Decidable (Visible text) :=
  List.decidableBAll (fun c : Char => 0x20 ≤ c.toNat) text

theorem Visible.append {xs ys : List Char} (hx : Visible xs) (hy : Visible ys) : Visible (xs ++ ys) :=
  fun c hc => (List.mem_append.mp hc).elim (hx c) (hy c)

/-- What stands between brackets is visible with them. -/
theorem Visible.bracket {c d : Char} {text : List Char} (h : Visible text)
    (hc : 0x20 ≤ c.toNat ∧ 0x20 ≤ d.toNat) : Visible (c :: (text ++ [d])) :=
  List.forall_mem_cons.mpr ⟨hc.1, h.append (List.forall_mem_singleton.mpr hc.2)⟩

/-- A character is written as one part that says it, without control characters. -/
theorem quoteChar_part (c : Char) :
    ∃ part : Part, part.Valid ∧ part.text = quoteChar c ∧
      (∀ parts, meaning (part :: parts) = (meaning parts).map (c :: ·)) ∧
      Visible (quoteChar c) := by
  unfold quoteChar
  split
  · exact ⟨.letter '"', Part.letter_valid.mpr ⟨_, rfl⟩, rfl, fun _ => rfl, by decide⟩
  · exact ⟨.letter '\\', Part.letter_valid.mpr ⟨_, rfl⟩, rfl, fun _ => rfl, by decide⟩
  · exact ⟨.letter 'b', Part.letter_valid.mpr ⟨_, rfl⟩, rfl, fun _ => rfl, by decide⟩
  · exact ⟨.letter 'f', Part.letter_valid.mpr ⟨_, rfl⟩, rfl, fun _ => rfl, by decide⟩
  · exact ⟨.letter 'n', Part.letter_valid.mpr ⟨_, rfl⟩, rfl, fun _ => rfl, by decide⟩
  · exact ⟨.letter 'r', Part.letter_valid.mpr ⟨_, rfl⟩, rfl, fun _ => rfl, by decide⟩
  · exact ⟨.letter 't', Part.letter_valid.mpr ⟨_, rfl⟩, rfl, fun _ => rfl, by decide⟩
  · next hquote hslash _ _ _ _ _ =>
    by_cases hcontrol : c.toNat < 0x20
    · have hunit := hexUnit?_control c.toNat hcontrol
      obtain ⟨hhigh, hlow⟩ := hexDigit_visible c.toNat hcontrol
      rw [if_pos hcontrol]
      refine ⟨.unit '0' '0' (hexDigit (c.toNat / 16)) (hexDigit (c.toNat % 16)),
        Part.unit_valid.mpr ⟨_, hunit⟩, rfl, ?_, ?_⟩
      · intro parts
        rw [meaning, hunit, Option.bind_some, if_neg (by simp only [IsLow]; omega),
          if_neg (by simp only [IsHigh]; omega), Char.ofNat_toNat]
      · intro d hd
        simp only [List.mem_cons, List.not_mem_nil, or_false] at hd
        rcases hd with rfl | rfl | rfl | rfl | rfl | rfl
        · decide
        · decide
        · decide
        · decide
        · exact hhigh
        · exact hlow
    · rw [if_neg hcontrol]
      refine ⟨.plain c, ⟨hquote, hslash, by omega⟩, rfl, fun _ => rfl, ?_⟩
      intro d hd
      rw [List.mem_singleton.mp hd]
      omega

/-- **A text is written as a string that says it**, without control characters. -/
theorem quoteChars_parts (text : List Char) :
    ∃ parts : List Part, (∀ part ∈ parts, part.Valid) ∧ meaning parts = some text ∧
      (∀ rest, quoteChars text ++ rest = '"' :: Part.quoted parts rest) ∧
      Visible (quoteChars text) := by
  induction text with
  | nil => exact ⟨[], List.forall_mem_nil _, rfl, fun _ => rfl, by decide⟩
  | cons c text ih =>
    obtain ⟨part, hvalid, htext, hsaid, hvisible⟩ := quoteChar_part c
    obtain ⟨parts, hparts, hmeaning, hquoted, hall⟩ := ih
    have hcons : quoteChars (c :: text) = '"' :: (quoteChar c ++ (quoteChars text).tail) := by
      simp only [quoteChars, List.flatMap_cons, List.cons_append, List.append_assoc, List.tail_cons]
    refine ⟨part :: parts, List.forall_mem_cons.mpr ⟨hvalid, hparts⟩, ?_, ?_, ?_⟩
    · rw [hsaid, hmeaning]
      rfl
    · intro rest
      have hrest : (quoteChars text).tail ++ rest = Part.quoted parts rest :=
        (List.cons.inj (hquoted rest)).2
      rw [hcons, Part.quoted_cons, htext, List.cons_append, List.append_assoc, hrest]
    · rw [hcons]
      have htail : Visible (quoteChars text).tail := fun d hd => hall d (List.mem_of_mem_tail hd)
      exact List.forall_mem_cons.mpr ⟨by decide, hvisible.append htail⟩

end StreamMask.Json
