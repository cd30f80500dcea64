/-
The grammar of JSON, and that just its documents are read.

A document is an element: a value between blanks. What is read as a node keeps the
place of a fault in a string; of that the grammar knows only that the string says
nothing (`Node.outline`). The reader's fuel never runs out, since every second call
takes a character. All this holds of bytes taken for characters as it does of text: the
medium only tells where a fault is.
-/
import StreamMask.Json.Node
import StreamMask.Proofs.NumeralFacts
import StreamMask.Proofs.StringFacts

namespace StreamMask.Json

/-! ## The grammar -/

/-- A JSON value. A string or name with half of a surrogate pair in it says nothing. -/
inductive Value where
  | null
  | bool (value : Bool)
  | number (numeral : Numeral)
  | string (text : Option String)
  | array (items : List Value)
  | object (fields : List (Option String × Value))

/-- Spaces, tabs and line ends. -/
def Blank (text : List Char) : Prop := ∀ c ∈ text, c ∈ [' ', '\t', '\n', '\r']

/-- What the parts of a string say, as text. -/
def said (parts : List Part) : Option String := (meaning parts).map String.ofList

mutual

/-- Whether a text is written for a value. -/
inductive Spells : Value → List Char → Prop where
  | null : Spells .null ['n', 'u', 'l', 'l']
  | bool (value : Bool) : Spells (.bool value) (toString value).toList
  | number {n : Numeral} (valid : n.Valid) : Spells (.number n) n.text
  | string {parts : List Part} (valid : ∀ part ∈ parts, part.Valid) :
    Spells (.string (said parts)) ('"' :: Part.quoted parts [])
  | emptyArray {blank : List Char} (blanks : Blank blank) :
    Spells (.array []) ('[' :: (blank ++ [']']))
  | array {items : List Value} {text : List Char} (spells : SpellsItems items text) :
    Spells (.array items) ('[' :: (text ++ [']']))
  | emptyObject {blank : List Char} (blanks : Blank blank) :
    Spells (.object []) ('\x7b' :: (blank ++ ['\x7d']))
  | object {fields : List (Option String × Value)} {text : List Char}
      (spells : SpellsFields fields text) :
    Spells (.object fields) ('\x7b' :: (text ++ ['\x7d']))

/-- Whether a text is a value between blanks. -/
inductive SpellsElement : Value → List Char → Prop where
  | padded {value : Value} {before text after : List Char} (blankBefore : Blank before)
      (spells : Spells value text) (blankAfter : Blank after) :
    SpellsElement value (before ++ (text ++ after))

/-- Whether a text is the items of an array, one at least. -/
inductive SpellsItems : List Value → List Char → Prop where
  | last {item : Value} {text : List Char} (spells : SpellsElement item text) :
    SpellsItems [item] text
  | more {item : Value} {items : List Value} {text rest : List Char}
      (spells : SpellsElement item text) (others : SpellsItems items rest) :
    SpellsItems (item :: items) (text ++ ',' :: rest)

/-- Whether a text is a field: a string between blanks, a colon and an element. -/
inductive SpellsField : Option String × Value → List Char → Prop where
  | named {parts : List Part} {value : Value} {before after text : List Char}
      (blankBefore : Blank before) (valid : ∀ part ∈ parts, part.Valid) (blankAfter : Blank after)
      (spells : SpellsElement value text) :
    SpellsField (said parts, value) (before ++ '"' :: Part.quoted parts (after ++ ':' :: text))

/-- Whether a text is the fields of an object, one at least. -/
inductive SpellsFields : List (Option String × Value) → List Char → Prop where
  | last {field : Option String × Value} {text : List Char} (spells : SpellsField field text) :
    SpellsFields [field] text
  | more {field : Option String × Value} {fields : List (Option String × Value)}
      {text rest : List Char} (spells : SpellsField field text) (others : SpellsFields fields rest) :
    SpellsFields (field :: fields) (text ++ ',' :: rest)

end

/-! ## Nodes as values -/

mutual

/-- The value that a node was read from. -/
def Node.outline : Node → Value
  | null => .null
  | bool value => .bool value
  | number numeral => .number numeral
  | string text => .string text.toOption
  | array items => .array (itemsOutline items)
  | object fields => .object (fieldsOutline fields)

def Node.itemsOutline : List Node → List Value
  | [] => []
  | item :: items => item.outline :: itemsOutline items

def Node.fieldsOutline : List (Except Fault String × Node) → List (Option String × Value)
  | [] => []
  | (name, value) :: fields => (name.toOption, value.outline) :: fieldsOutline fields

end

/-! ## Blanks -/

theorem isBlank_iff {c : Char} : isBlank c = true ↔ c ∈ [' ', '\t', '\n', '\r'] := by
  simp only [isBlank, Bool.or_eq_true, beq_iff_eq, List.mem_cons, List.not_mem_nil, or_false]
  constructor
  · rintro (((h | h) | h) | h) <;> simp only [h, true_or, or_true]
  · rintro (h | h | h | h) <;> simp only [h, true_or, or_true]

theorem skipBlank_split (text : List Char) :
    ∃ blank, Blank blank ∧ text = blank ++ skipBlank text := by
  refine ⟨text.takeWhile isBlank, fun c hc => ?_, (List.takeWhile_append_dropWhile ..).symm⟩
  exact isBlank_iff.mp (List.all_eq_true.mp List.all_takeWhile c hc)

/-- Whether a text does not begin with a blank. -/
def NoBlank : List Char → Prop
  | [] => True
  | c :: _ => isBlank c = false

theorem skipBlank_noBlank {text : List Char} (h : NoBlank text) : skipBlank text = text := by
  cases text with
  | nil => rfl
  | cons c text =>
    rw [skipBlank, List.dropWhile_cons, if_neg]
    exact Bool.eq_false_iff.mp h

theorem noBlank_skipBlank (text : List Char) : NoBlank (skipBlank text) := by
  induction text with
  | nil => trivial
  | cons c text ih =>
    rw [skipBlank, List.dropWhile_cons]
    split
    · exact ih
    · next h => exact Bool.eq_false_iff.mpr h

theorem skipBlank_append {blank text : List Char} (hblank : Blank blank) (h : NoBlank text) :
    skipBlank (blank ++ text) = text := by
  induction blank with
  | nil => exact skipBlank_noBlank h
  | cons c blank ih =>
    obtain ⟨hc, hblank⟩ := List.forall_mem_cons.mp hblank
    rw [List.cons_append, skipBlank, List.dropWhile_cons, if_pos (isBlank_iff.mpr hc)]
    exact ih hblank

/-! ## Only documents are read -/

variable {medium : Medium}

theorem readWord_sound {word text rest : List Char} (h : readWord word text = .ok rest) :
    text = word ++ rest := by
  induction word generalizing text with
  | nil =>
    cases h
    rfl
  | cons expected word ih =>
    cases text with
    | nil => contradiction
    | cons c text =>
      rw [readWord] at h
      split at h
      · next heq => rw [heq, ih h, List.cons_append]
      · contradiction

theorem readLiteral_sound {word : String} {node read : Node} {text rest : List Char}
    (h : Node.readLiteral word node text = .ok (read, rest)) :
    read = node ∧ text = word.toList ++ rest := by
  unfold Node.readLiteral at h
  cases hword : readWord word.toList text with
  | error stop => rw [hword] at h; contradiction
  | ok after =>
    rw [hword] at h
    cases h
    exact ⟨rfl, readWord_sound hword⟩

/-- What is decoded is what the parts say. -/
theorem decode_quoted {parts : List Part} (hvalid : ∀ part ∈ parts, part.Valid)
    (start rest : List Char) :
    (Node.decode start (Part.quoted parts rest)).toOption = said parts := by
  unfold Node.decode said
  cases hmeaning : meaning parts with
  | some chars =>
    rw [readString_said hvalid hmeaning]
    rfl
  | none =>
    obtain ⟨stop, -, hstop⟩ := readString_unsaid hvalid hmeaning
    rw [hstop]
    rfl

theorem map_ok {α β : Type} {f : α × List Char → β} {read : Read α} {result : β}
    (h : read.map f = .ok result) : ∃ value rest, read = .ok (value, rest) ∧ f (value, rest) = result := by
  cases read with
  | error stop => contradiction
  | ok value =>
    cases h
    exact ⟨value.1, value.2, rfl, rfl⟩

theorem skipString_element {text rest : List Char} (h : skipString medium 0 text = .ok rest)
    (start : List Char) :
    ∃ parts : List Part, (∀ part ∈ parts, part.Valid) ∧ text = Part.quoted parts rest ∧
      (Node.decode start text).toOption = said parts := by
  obtain ⟨parts, hvalid, htext⟩ := skipString_sound h
  rw [List.drop_zero] at htext
  exact ⟨parts, hvalid, htext, htext ▸ decode_quoted hvalid start rest⟩

theorem Blank.append {xs ys : List Char} (hx : Blank xs) (hy : Blank ys) : Blank (xs ++ ys) :=
  fun c hc => (List.mem_append.mp hc).elim (hx c) (hy c)

theorem SpellsElement.pad {value : Value} {blank text : List Char} (hblank : Blank blank)
    (h : SpellsElement value text) : SpellsElement value (blank ++ text) := by
  obtain ⟨hbefore, hspells, hafter⟩ := h
  rw [← List.append_assoc]
  exact .padded (hblank.append hbefore) hspells hafter

theorem SpellsItems.pad {items : List Value} {blank text : List Char} (hblank : Blank blank)
    (h : SpellsItems items text) : SpellsItems items (blank ++ text) := by
  cases h with
  | last hspells => exact .last (hspells.pad hblank)
  | more hspells hothers =>
    rw [← List.append_assoc]
    exact .more (hspells.pad hblank) hothers

theorem SpellsField.pad {field : Option String × Value} {blank text : List Char}
    (hblank : Blank blank) (h : SpellsField field text) : SpellsField field (blank ++ text) := by
  obtain ⟨hbefore, hvalid, hafter, hspells⟩ := h
  rw [← List.append_assoc]
  exact .named (hblank.append hbefore) hvalid hafter hspells

theorem SpellsFields.pad {fields : List (Option String × Value)} {blank text : List Char}
    (hblank : Blank blank) (h : SpellsFields fields text) : SpellsFields fields (blank ++ text) := by
  cases h with
  | last hspells => exact .last (hspells.pad hblank)
  | more hspells hothers =>
    rw [← List.append_assoc]
    exact .more (hspells.pad hblank) hothers

theorem Spells.element {value : Value} {text : List Char} (h : Spells value text) :
    SpellsElement value text := by
  have hblank : Blank [] := List.forall_mem_nil _
  have helement := SpellsElement.padded hblank h hblank
  rwa [List.nil_append, List.append_nil] at helement

/-- The value that a text begins with, together with the blanks around it. -/
theorem element_of_spells {value : Value} {text inner rest : List Char} (hspells : Spells value inner)
    (htext : skipBlank text = inner ++ rest) :
    ∃ element, SpellsElement value element ∧ text = element ++ skipBlank rest := by
  obtain ⟨before, hbefore, hsplit⟩ := skipBlank_split text
  obtain ⟨after, hafter, hrest⟩ := skipBlank_split rest
  refine ⟨before ++ (inner ++ after), .padded hbefore hspells hafter, ?_⟩
  rw [List.append_assoc, List.append_assoc, ← hrest, ← htext, ← hsplit]

mutual

theorem readValue_sound {fuel : Nat} {text rest : List Char} {node : Node}
    (h : Node.readValue medium fuel text = .ok (node, rest)) :
    ∃ inner, Spells node.outline inner ∧ skipBlank text = inner ++ rest := by
  cases fuel with
  | zero => contradiction
  | succ fuel =>
    rw [Node.readValue] at h
    split at h
    · contradiction
    · next quoted heq =>
      rw [heq]
      cases hskip : skipString medium 0 quoted with
      | error stop => rw [hskip] at h; contradiction
      | ok after =>
        obtain ⟨parts, hvalid, htext, hsaid⟩ := skipString_element hskip ('"' :: quoted)
        rw [hskip] at h
        cases h
        refine ⟨'"' :: Part.quoted parts [], ?_, ?_⟩
        · rw [Node.outline, hsaid]
          exact .string hvalid
        · rw [htext, quoted_append, List.cons_append]
    · next opened heq =>
      rw [heq]
      obtain ⟨blank, hblank, hopened⟩ := skipBlank_split opened
      split at h
      · contradiction
      · next hclosed =>
        cases h
        refine ⟨'[' :: (blank ++ [']']), .emptyArray hblank, ?_⟩
        rw [hopened, hclosed]
        simp
      · obtain ⟨items, after, hread, hresult⟩ := map_ok h
        cases hresult
        obtain ⟨inner, hspells, htext⟩ := readItems_sound hread
        refine ⟨'[' :: (blank ++ inner ++ [']']), .array (hspells.pad hblank), ?_⟩
        rw [hopened, htext]
        simp
    · next opened heq =>
      rw [heq]
      obtain ⟨blank, hblank, hopened⟩ := skipBlank_split opened
      split at h
      · contradiction
      · next hclosed =>
        cases h
        refine ⟨'\x7b' :: (blank ++ ['\x7d']), .emptyObject hblank, ?_⟩
        rw [hopened, hclosed]
        simp
      · obtain ⟨fields, after, hread, hresult⟩ := map_ok h
        cases hresult
        obtain ⟨inner, hspells, htext⟩ := readFields_sound hread
        refine ⟨'\x7b' :: (blank ++ inner ++ ['\x7d']), .object (hspells.pad hblank), ?_⟩
        rw [hopened, htext]
        simp
    · next heq =>
      obtain ⟨rfl, htext⟩ := readLiteral_sound h
      exact ⟨_, .null, by rw [heq, htext]; rfl⟩
    · next heq =>
      obtain ⟨rfl, htext⟩ := readLiteral_sound h
      exact ⟨_, .bool true, by rw [heq, htext]; rfl⟩
    · next heq =>
      obtain ⟨rfl, htext⟩ := readLiteral_sound h
      exact ⟨_, .bool false, by rw [heq, htext]; rfl⟩
    · next heq =>
      rw [heq]
      split at h
      · obtain ⟨numeral, after, hread, hresult⟩ := map_ok h
        cases hresult
        obtain ⟨hvalid, htext⟩ := readNumeral_sound hread
        exact ⟨numeral.text, .number hvalid, htext⟩
      · contradiction

theorem readItems_sound {fuel : Nat} {text rest : List Char} {items : List Node}
    (h : Node.readItems medium fuel text = .ok (items, rest)) :
    ∃ inner, SpellsItems (Node.itemsOutline items) inner ∧ text = inner ++ ']' :: rest := by
  cases fuel with
  | zero => contradiction
  | succ fuel =>
    rw [Node.readItems] at h
    split at h
    · contradiction
    · next item after hread =>
      obtain ⟨inner, hspells, htext⟩ := readValue_sound hread
      obtain ⟨element, helement, hsplit⟩ := element_of_spells hspells htext
      split at h
      · contradiction
      · next heq =>
        cases h
        exact ⟨element, .last helement, by rw [hsplit, heq]⟩
      · next heq =>
        obtain ⟨items, last, hothers, hresult⟩ := map_ok h
        cases hresult
        obtain ⟨others, hspellsOthers, htextOthers⟩ := readItems_sound hothers
        refine ⟨element ++ ',' :: others, .more helement hspellsOthers, ?_⟩
        rw [hsplit, heq, htextOthers, List.append_assoc, List.cons_append]
      · contradiction

theorem readFields_sound {fuel : Nat} {start text rest : List Char}
    {fields : List (Except Fault String × Node)}
    (h : Node.readFields medium fuel start text = .ok (fields, rest)) :
    ∃ inner, SpellsFields (Node.fieldsOutline fields) inner ∧ text = inner ++ '\x7d' :: rest := by
  cases fuel with
  | zero => contradiction
  | succ fuel =>
    obtain ⟨before, hbefore, hbegin⟩ := skipBlank_split text
    rw [Node.readFields] at h
    split at h
    · contradiction
    · next quoted hquote =>
      split at h
      · contradiction
      · next afterName hskip =>
        obtain ⟨parts, hvalid, hquoted, hsaid⟩ := skipString_element hskip start
        obtain ⟨blank, hblank, hname⟩ := skipBlank_split afterName
        split at h
        · contradiction
        · next afterColon hcolon =>
          split at h
          · contradiction
          · next value afterValue hread =>
            obtain ⟨inner, hspells, htext⟩ := readValue_sound hread
            obtain ⟨element, helement, hsplit⟩ := element_of_spells hspells htext
            have hfield := SpellsField.named hbefore hvalid hblank helement
            have hall : text = before ++ '"' :: Part.quoted parts (blank ++ ':' :: element)
                ++ skipBlank afterValue := by
              rw [hbegin, hquote, hquoted, hname, hcolon, hsplit]
              simp [Part.quoted]
            rw [← hsaid] at hfield
            split at h
            · contradiction
            · next heq =>
              cases h
              exact ⟨_, .last hfield, by rw [hall, heq]⟩
            · next heq =>
              obtain ⟨fields, last, hothers, hresult⟩ := map_ok h
              cases hresult
              obtain ⟨others, hspellsOthers, htextOthers⟩ := readFields_sound hothers
              refine ⟨_, .more hfield hspellsOthers, ?_⟩
              rw [hall, heq, htextOthers]
              simp only [List.append_assoc, List.cons_append]
            · contradiction
        · contradiction
    · contradiction

end

/-! ## Every document is read -/

theorem isDigit_ne {c d : Char} (h : c.isDigit = true) (hd : d.isDigit = false) : c ≠ d := by
  rintro rfl
  rw [h] at hd
  contradiction

/-- A number begins with a digit or a minus sign. -/
theorem Numeral.Valid.head {n : Numeral} (h : n.Valid) :
    ∃ c rest, n.text = c :: rest ∧ (c = '-' ∨ c.isDigit = true) := by
  obtain ⟨c, digits, hwhole, hc⟩ := h.whole.cons
  rw [Numeral.text_eq, hwhole]
  cases n.negative with
  | true => exact ⟨'-', _, rfl, .inl rfl⟩
  | false => exact ⟨c, _, rfl, .inr hc⟩

/-- What a number can begin with begins nothing else. -/
theorem numberHead_ne {c d : Char} (h : c = '-' ∨ c.isDigit = true)
    (hd : d ≠ '-' ∧ d.isDigit = false) : c ≠ d := by
  rcases h with rfl | h
  · exact hd.1.symm
  · exact isDigit_ne h hd.2

theorem numberHead_noBlank {c : Char} (h : c = '-' ∨ c.isDigit = true) : isBlank c = false := by
  have hne := fun d => numberHead_ne (d := d) h
  simp only [isBlank, Bool.or_eq_false_iff, beq_eq_false_iff_ne]
  exact ⟨⟨⟨hne _ (by decide), hne _ (by decide)⟩, hne _ (by decide)⟩, hne _ (by decide)⟩

/-- A value begins with neither a blank nor a closing bracket. -/
theorem Spells.head {value : Value} {text : List Char} (h : Spells value text) :
    ∃ c rest, text = c :: rest ∧ isBlank c = false ∧ c ≠ ']' := by
  cases h with
  | null => exact ⟨_, _, rfl, rfl, by decide⟩
  | bool value => cases value <;> exact ⟨_, _, rfl, rfl, by decide⟩
  | number valid =>
    obtain ⟨c, rest, htext, hc⟩ := valid.head
    exact ⟨c, rest, htext, numberHead_noBlank hc, numberHead_ne hc (by decide)⟩
  | string valid => exact ⟨_, _, rfl, rfl, by decide⟩
  | emptyArray blanks => exact ⟨_, _, rfl, rfl, by decide⟩
  | array spells => exact ⟨_, _, rfl, rfl, by decide⟩
  | emptyObject blanks => exact ⟨_, _, rfl, rfl, by decide⟩
  | object spells => exact ⟨_, _, rfl, rfl, by decide⟩

theorem Spells.noBlank {value : Value} {text : List Char} (h : Spells value text)
    (rest : List Char) : NoBlank (text ++ rest) := by
  obtain ⟨c, tail, rfl, hc, -⟩ := h.head
  exact hc

/-- Items and fields are read after the blanks in front of them as with these. -/
theorem readItems_skipBlank (fuel : Nat) (text : List Char) :
    Node.readItems medium fuel (skipBlank text) = Node.readItems medium fuel text := by
  have hskip : skipBlank (skipBlank text) = skipBlank text :=
    skipBlank_noBlank (noBlank_skipBlank text)
  have hvalue : ∀ fuel, Node.readValue medium fuel (skipBlank text) = Node.readValue medium fuel text := by
    intro fuel
    cases fuel with
    | zero => rfl
    | succ fuel => rw [Node.readValue, Node.readValue, hskip]
  cases fuel with
  | zero => rfl
  | succ fuel => rw [Node.readItems, Node.readItems, hvalue]

theorem readFields_skipBlank (fuel : Nat) (start text : List Char) :
    Node.readFields medium fuel start (skipBlank text) = Node.readFields medium fuel start text := by
  have hskip : skipBlank (skipBlank text) = skipBlank text :=
    skipBlank_noBlank (noBlank_skipBlank text)
  cases fuel with
  | zero => rfl
  | succ fuel => rw [Node.readFields, Node.readFields, hskip]

/-- What comes first in the items of an array is not its end. -/
theorem SpellsItems.head {items : List Value} {text : List Char} (h : SpellsItems items text)
    (rest : List Char) : ∃ c tail, skipBlank (text ++ rest) = c :: tail ∧ c ≠ ']' := by
  have helement : ∀ {item text rest}, SpellsElement item text →
      ∃ c tail, skipBlank (text ++ rest) = c :: tail ∧ c ≠ ']' := by
    intro item text rest h
    obtain ⟨hbefore, hspells, hafter⟩ := h
    obtain ⟨c, tail, htext, -, hc⟩ := hspells.head
    rw [List.append_assoc, List.append_assoc, skipBlank_append hbefore (hspells.noBlank _), htext]
    exact ⟨c, _, rfl, hc⟩
  cases h with
  | last spells => exact helement spells
  | more spells others =>
    rw [List.append_assoc]
    exact helement spells

/-- What comes first in the fields of an object is a quote. -/
theorem SpellsFields.head {fields : List (Option String × Value)} {text : List Char}
    (h : SpellsFields fields text) (rest : List Char) :
    ∃ tail, skipBlank (text ++ rest) = '"' :: tail := by
  have hfield : ∀ {field text rest}, SpellsField field text →
      ∃ tail, skipBlank (text ++ rest) = '"' :: tail := by
    intro field text rest h
    obtain ⟨hbefore, hvalid, hafter, hspells⟩ := h
    rw [List.append_assoc, List.cons_append, skipBlank_append hbefore]
    · exact ⟨_, rfl⟩
    · exact (rfl : isBlank '"' = false)
  cases h with
  | last spells => exact hfield spells
  | more spells others =>
    rw [List.append_assoc]
    exact hfield spells

theorem readWord_append (word rest : List Char) : readWord word (word ++ rest) = .ok rest := by
  induction word with
  | nil => cases rest <;> rfl
  | cons c word ih => rw [List.cons_append, readWord, if_pos rfl, ih]

theorem readLiteral_append (word : String) (node : Node) (rest : List Char) :
    Node.readLiteral word node (word.toList ++ rest) = .ok (node, rest) := by
  rw [Node.readLiteral, readWord_append]
  rfl

theorem readValue_number (fuel : Nat) {n : Numeral} (h : n.Valid) {rest : List Char}
    (hrest : NoNumber rest) :
    Node.readValue medium (fuel + 1) (n.text ++ rest) = .ok (.number n, rest) := by
  have hread := readNumeral_append h hrest
  obtain ⟨c, tail, htext, hc⟩ := h.head
  rw [htext, List.cons_append] at hread ⊢
  rw [Node.readValue, skipBlank_noBlank (show NoBlank (c :: _) from numberHead_noBlank hc)]
  split
  · contradiction
  · next heq => exact absurd (List.cons.inj heq).1 (numberHead_ne hc (by decide))
  · next heq => exact absurd (List.cons.inj heq).1 (numberHead_ne hc (by decide))
  · next heq => exact absurd (List.cons.inj heq).1 (numberHead_ne hc (by decide))
  · next heq => exact absurd (List.cons.inj heq).1 (numberHead_ne hc (by decide))
  · next heq => exact absurd (List.cons.inj heq).1 (numberHead_ne hc (by decide))
  · next heq => exact absurd (List.cons.inj heq).1 (numberHead_ne hc (by decide))
  · next heq =>
    cases heq
    rw [if_pos hc, hread]
    rfl

theorem readValue_string (fuel : Nat) {parts : List Part} (h : ∀ part ∈ parts, part.Valid)
    (rest : List Char) :
    Node.readValue medium (fuel + 1) ('"' :: Part.quoted parts rest) =
      .ok (.string (Node.decode ('"' :: Part.quoted parts rest) (Part.quoted parts rest)), rest) := by
  rw [Node.readValue, skipBlank_noBlank (show NoBlank ('"' :: _) from rfl)]
  simp only [skipString_quoted medium h, Except.map]

theorem readValue_blank (fuel : Nat) {before text : List Char} (hbefore : Blank before)
    (htext : NoBlank text) :
    Node.readValue medium fuel (before ++ text) = Node.readValue medium fuel text := by
  cases fuel with
  | zero => rfl
  | succ fuel =>
    rw [Node.readValue, Node.readValue, skipBlank_append hbefore htext, skipBlank_noBlank htext]

theorem readValue_emptyArray (fuel : Nat) {blank : List Char} (hblank : Blank blank)
    (rest : List Char) :
    Node.readValue medium (fuel + 1) ('[' :: (blank ++ ']' :: rest)) = .ok (.array [], rest) := by
  rw [Node.readValue, skipBlank_noBlank (show NoBlank ('[' :: _) from rfl)]
  simp only [skipBlank_append hblank (show NoBlank (']' :: rest) from rfl)]

theorem readValue_emptyObject (fuel : Nat) {blank : List Char} (hblank : Blank blank)
    (rest : List Char) :
    Node.readValue medium (fuel + 1) ('\x7b' :: (blank ++ '\x7d' :: rest)) = .ok (.object [], rest) := by
  rw [Node.readValue, skipBlank_noBlank (show NoBlank ('\x7b' :: _) from rfl)]
  simp only [skipBlank_append hblank (show NoBlank ('\x7d' :: rest) from rfl)]

theorem readValue_array {fuel : Nat} {text rest : List Char} {nodes : List Node}
    (hread : Node.readItems medium fuel text = .ok (nodes, rest))
    (hhead : ∃ c tail, skipBlank text = c :: tail ∧ c ≠ ']') :
    Node.readValue medium (fuel + 1) ('[' :: text) = .ok (.array nodes, rest) := by
  obtain ⟨c, tail, hskip, hc⟩ := hhead
  rw [Node.readValue, skipBlank_noBlank (show NoBlank ('[' :: _) from rfl)]
  rw [← readItems_skipBlank, hskip] at hread
  simp only [hskip]
  split
  · contradiction
  · next heq => exact absurd (List.cons.inj heq).1 hc
  · rw [hread]
    rfl

theorem readValue_object {fuel : Nat} {text rest : List Char}
    {nodes : List (Except Fault String × Node)}
    (hread : Node.readFields medium fuel ('\x7b' :: text) text = .ok (nodes, rest))
    (hhead : ∃ tail, skipBlank text = '"' :: tail) :
    Node.readValue medium (fuel + 1) ('\x7b' :: text) = .ok (.object nodes, rest) := by
  obtain ⟨tail, hskip⟩ := hhead
  rw [Node.readValue, skipBlank_noBlank (show NoBlank ('\x7b' :: _) from rfl)]
  rw [← readFields_skipBlank, hskip] at hread
  simp only [hskip]
  exact congrArg (Except.map fun read => (Node.object read.1, read.2)) hread

/-- Before blanks a number ends. -/
theorem noNumber_blank {after rest : List Char} (hafter : Blank after) (hrest : NoNumber rest) :
    NoNumber (after ++ rest) := by
  cases after with
  | nil => exact hrest
  | cons c after =>
    have hc := hafter c (List.mem_cons_self ..)
    simp only [List.mem_cons, List.not_mem_nil, or_false] at hc
    show c.isDigit = false ∧ c ≠ '.' ∧ c ≠ 'e' ∧ c ≠ 'E'
    rcases hc with rfl | rfl | rfl | rfl <;> decide

theorem noNumber_cons {c : Char} (rest : List Char)
    (h : c.isDigit = false ∧ c ≠ '.' ∧ c ≠ 'e' ∧ c ≠ 'E') : NoNumber (c :: rest) := h

theorem noBlank_cons {c : Char} (rest : List Char) (h : isBlank c = false) : NoBlank (c :: rest) := h

theorem readItems_last {fuel : Nat} {text rest : List Char} {item : Node} {read : List Char}
    (hread : Node.readValue medium fuel text = .ok (item, read)) (hend : skipBlank read = ']' :: rest) :
    Node.readItems medium (fuel + 1) text = .ok ([item], rest) := by
  rw [Node.readItems]
  simp only [hread, hend]

theorem readItems_more {fuel : Nat} {text rest others : List Char} {item : Node}
    {items : List Node} {read : List Char}
    (hread : Node.readValue medium fuel text = .ok (item, read)) (hend : skipBlank read = ',' :: others)
    (hothers : Node.readItems medium fuel others = .ok (items, rest)) :
    Node.readItems medium (fuel + 1) text = .ok (item :: items, rest) := by
  rw [Node.readItems]
  simp only [hread, hend, hothers, Except.map]

/-- Whether a text begins with a field that is read as a name and a value, before `rest`. -/
def ReadsField (medium : Medium) (fuel : Nat) (start text rest : List Char) (name : Except Fault String)
    (value : Node) : Prop :=
  ∃ quoted afterName afterColon read,
    skipBlank text = '"' :: quoted ∧ skipString medium 0 quoted = .ok afterName ∧
    name = Node.decode start quoted ∧ skipBlank afterName = ':' :: afterColon ∧
    Node.readValue medium fuel afterColon = .ok (value, read) ∧ skipBlank read = rest

theorem readFields_last {fuel : Nat} {start text rest : List Char} {name : Except Fault String}
    {value : Node} (h : ReadsField medium fuel start text ('\x7d' :: rest) name value) :
    Node.readFields medium (fuel + 1) start text = .ok ([(name, value)], rest) := by
  obtain ⟨quoted, afterName, afterColon, read, hquote, hskip, rfl, hcolon, hread, hend⟩ := h
  rw [Node.readFields]
  simp only [hquote, hskip, hcolon, hread, hend]

theorem readFields_more {fuel : Nat} {start text rest others : List Char}
    {name : Except Fault String} {value : Node} {fields : List (Except Fault String × Node)}
    (h : ReadsField medium fuel start text (',' :: others) name value)
    (hothers : Node.readFields medium fuel start others = .ok (fields, rest)) :
    Node.readFields medium (fuel + 1) start text = .ok ((name, value) :: fields, rest) := by
  obtain ⟨quoted, afterName, afterColon, read, hquote, hskip, rfl, hcolon, hread, hend⟩ := h
  rw [Node.readFields]
  simp only [hquote, hskip, hcolon, hread, hend, hothers, Except.map]

variable (medium)

mutual

theorem readValue_spells {value : Value} {text : List Char} (h : Spells value text) (fuel : Nat)
    (hfuel : 2 * text.length ≤ fuel) {rest : List Char} (hrest : NoNumber rest) :
    ∃ node, node.outline = value ∧ Node.readValue medium fuel (text ++ rest) = .ok (node, rest) := by
  have hpos : 0 < text.length := by
    obtain ⟨c, tail, rfl, -⟩ := h.head
    exact Nat.succ_pos _
  obtain ⟨fuel, rfl⟩ : ∃ k, fuel = k + 1 := ⟨fuel - 1, by omega⟩
  match h with
  | .null => exact ⟨.null, rfl, readLiteral_append "ull" .null rest⟩
  | .bool true => exact ⟨.bool true, rfl, readLiteral_append "rue" (.bool true) rest⟩
  | .bool false => exact ⟨.bool false, rfl, readLiteral_append "alse" (.bool false) rest⟩
  | .number valid => exact ⟨_, rfl, readValue_number fuel valid hrest⟩
  | .string valid =>
    rw [List.cons_append, ← quoted_append]
    refine ⟨_, ?_, readValue_string fuel valid rest⟩
    rw [Node.outline, decode_quoted valid]
  | .emptyArray blanks =>
    rw [List.cons_append, List.append_assoc]
    exact ⟨_, rfl, readValue_emptyArray fuel blanks rest⟩
  | .emptyObject blanks =>
    rw [List.cons_append, List.append_assoc]
    exact ⟨_, rfl, readValue_emptyObject fuel blanks rest⟩
  | .array spells =>
    simp only [List.length_cons, List.length_append, List.length_nil] at hfuel
    rw [List.cons_append, List.append_assoc]
    obtain ⟨nodes, houtline, hread⟩ := readItems_spells spells fuel (by omega) rest
    exact ⟨.array nodes, congrArg Value.array houtline, readValue_array hread (spells.head _)⟩
  | .object spells =>
    simp only [List.length_cons, List.length_append, List.length_nil] at hfuel
    rw [List.cons_append, List.append_assoc]
    obtain ⟨nodes, houtline, hread⟩ := readFields_spells spells fuel (by omega) _ rest
    exact ⟨.object nodes, congrArg Value.object houtline, readValue_object hread (spells.head _)⟩

/-- A value between blanks is read up to the blanks after it. -/
theorem readValue_element {value : Value} {text : List Char} (h : SpellsElement value text)
    (fuel : Nat) (hfuel : 2 * text.length ≤ fuel) {rest : List Char} (hrest : NoNumber rest)
    (hblank : NoBlank rest) :
    ∃ node read, node.outline = value ∧ skipBlank read = rest ∧
      Node.readValue medium fuel (text ++ rest) = .ok (node, read) := by
  match h with
  | @SpellsElement.padded _ before inner after hbefore hspells hafter =>
    simp only [List.length_append] at hfuel
    obtain ⟨node, houtline, hread⟩ :=
      readValue_spells hspells fuel (by omega) (noNumber_blank hafter hrest)
    refine ⟨node, after ++ rest, houtline, skipBlank_append hafter hblank, ?_⟩
    rw [List.append_assoc, List.append_assoc, readValue_blank fuel hbefore (hspells.noBlank _), hread]

theorem readItems_spells {items : List Value} {text : List Char} (h : SpellsItems items text)
    (fuel : Nat) (hfuel : 2 * text.length + 1 ≤ fuel) (rest : List Char) :
    ∃ nodes, Node.itemsOutline nodes = items ∧
      Node.readItems medium fuel (text ++ ']' :: rest) = .ok (nodes, rest) := by
  obtain ⟨fuel, rfl⟩ : ∃ k, fuel = k + 1 := ⟨fuel - 1, by omega⟩
  match h with
  | .last helement =>
    obtain ⟨item, read, houtline, hend, hread⟩ := readValue_element helement fuel (by omega)
      (noNumber_cons (c := ']') rest (by decide)) (noBlank_cons (c := ']') rest rfl)
    exact ⟨[item], congrArg (fun value => [value]) houtline, readItems_last hread hend⟩
  | .more helement hothers =>
    simp only [List.length_append, List.length_cons] at hfuel
    rw [List.append_assoc]
    obtain ⟨items, houtlines, hitems⟩ := readItems_spells hothers fuel (by omega) rest
    obtain ⟨item, read, houtline, hend, hread⟩ := readValue_element helement fuel (by omega)
      (noNumber_cons (c := ',') _ (by decide)) (noBlank_cons (c := ',') _ rfl)
    refine ⟨item :: items, ?_, readItems_more hread hend hitems⟩
    rw [Node.itemsOutline, houtline, houtlines]

theorem readFields_field {field : Option String × Value} {text : List Char}
    (h : SpellsField field text) (fuel : Nat) (hfuel : 2 * text.length ≤ fuel)
    (start : List Char) {rest : List Char} (hrest : NoNumber rest) (hblank : NoBlank rest) :
    ∃ name value, (name.toOption, value.outline) = field ∧
      ReadsField medium fuel start (text ++ rest) rest name value := by
  match h with
  | @SpellsField.named parts _ before after inner hbefore hvalid hafter helement =>
    simp only [Part.quoted, List.length_append, List.length_cons] at hfuel
    obtain ⟨value, read, houtline, hend, hread⟩ :=
      readValue_element helement fuel (by omega) hrest hblank
    refine ⟨_, value, ?_, Part.quoted parts (after ++ ':' :: (inner ++ rest)),
      after ++ ':' :: (inner ++ rest), inner ++ rest, read, ?_, skipString_quoted medium hvalid _, rfl,
      skipBlank_append hafter (noBlank_cons (c := ':') _ rfl), hread, hend⟩
    · rw [decode_quoted hvalid, houtline]
    · rw [List.append_assoc, List.cons_append,
        skipBlank_append hbefore (noBlank_cons (c := '"') _ rfl)]
      simp only [Part.quoted, List.cons_append, List.append_assoc]

theorem readFields_spells {fields : List (Option String × Value)} {text : List Char}
    (h : SpellsFields fields text) (fuel : Nat) (hfuel : 2 * text.length + 1 ≤ fuel)
    (start rest : List Char) :
    ∃ nodes, Node.fieldsOutline nodes = fields ∧
      Node.readFields medium fuel start (text ++ '\x7d' :: rest) = .ok (nodes, rest) := by
  obtain ⟨fuel, rfl⟩ : ∃ k, fuel = k + 1 := ⟨fuel - 1, by omega⟩
  match h with
  | .last hfield =>
    obtain ⟨name, value, houtline, hread⟩ := readFields_field hfield fuel (by omega) start
      (noNumber_cons (c := '\x7d') rest (by decide)) (noBlank_cons (c := '\x7d') rest rfl)
    exact ⟨[(name, value)], congrArg (fun field => [field]) houtline, readFields_last hread⟩
  | .more hfield hothers =>
    simp only [List.length_append, List.length_cons] at hfuel
    rw [List.append_assoc]
    obtain ⟨fields, houtlines, hfields⟩ := readFields_spells hothers fuel (by omega) start rest
    obtain ⟨name, value, houtline, hread⟩ := readFields_field hfield fuel (by omega) start
      (noNumber_cons (c := ',') _ (by decide)) (noBlank_cons (c := ',') _ rfl)
    refine ⟨(name, value) :: fields, ?_, readFields_more hread hfields⟩
    rw [Node.fieldsOutline, houtline, houtlines]

end

/-! ## Documents -/

/-- **Just the documents of the grammar are read**, each as the value that it is written for. -/
theorem ofText_iff_spells (text : List Char) (value : Value) :
    (∃ node, Node.ofText text = .ok node ∧ node.outline = value) ↔ SpellsElement value text := by
  constructor
  · rintro ⟨node, hnode, rfl⟩
    unfold Node.ofText at hnode
    split at hnode
    · contradiction
    · next read rest hread =>
      split at hnode
      · contradiction
      · next hend =>
        cases hnode
        obtain ⟨inner, hspells, htext⟩ := readValue_sound hread
        obtain ⟨element, helement, hsplit⟩ := element_of_spells hspells htext
        have hnil : skipBlank rest = [] := by
          unfold readEnd at hend
          split at hend
          · assumption
          · contradiction
        rw [hsplit, hnil, List.append_nil]
        exact helement
  · intro helement
    obtain ⟨node, read, houtline, hend, hread⟩ := readValue_element .text helement (Node.fuelFor text)
      (Nat.le_add_right ..) (show NoNumber [] from trivial) trivial
    rw [List.append_nil] at hread
    refine ⟨node, ?_, houtline⟩
    simp only [Node.ofText, Node.read, hread, readEnd, hend]

/-- A text is written for one value at most. -/
theorem SpellsElement.unique {value other : Value} {text : List Char} (h : SpellsElement value text)
    (h' : SpellsElement other text) : value = other := by
  obtain ⟨node, hnode, rfl⟩ := (ofText_iff_spells text value).mpr h
  obtain ⟨node', hnode', rfl⟩ := (ofText_iff_spells text other).mpr h'
  rw [Except.ok.inj (hnode.symm.trans hnode')]

end StreamMask.Json
