/-
Data that are printed on several lines and read again by a shape.

A shape reads a datum as a value (`Shape.Reads`) if it does so wherever the printed datum
stands: behind blanks, and before anything that does not go on with a number. Lists and
records are read member by member. What a record takes from its fields, one after the
other, is a relation between its states (`Shape.Record.Takes`), so that neither the printer
nor the reader has to be looked into for a particular record.
-/
import StreamMask.Json.Shape
import StreamMask.Proofs.Producers

namespace StreamMask.Json

/-! ## Members -/

/-- A line end and the blanks that a line at some depth begins with. -/
def gap (indent : Nat) : List Char := '\n' :: List.replicate (2 * indent) ' '

theorem gap_blank (indent : Nat) : Blank (gap indent) := by
  refine List.forall_mem_cons.mpr ⟨by decide, fun c hc => ?_⟩
  rw [List.eq_of_mem_replicate hc]
  decide

theorem gap_text (indent : Nat) :
    ("\n" ++ String.ofList (List.replicate (2 * indent) ' ')).toList = gap indent := by
  rw [String.toList_append, String.toList_ofList, String.toList_ofList]
  rfl

/-- Members that follow others: each after a comma, on a line of its own. -/
def following (indent : Nat) (members : List String) : List Char :=
  members.flatMap fun member => ',' :: (gap indent ++ member.toList)

theorem following_cons (indent : Nat) (member : String) (members : List String) :
    following indent (member :: members) =
      ',' :: (gap indent ++ (member.toList ++ following indent members)) := by
  rw [following, List.flatMap_cons, List.cons_append, List.append_assoc]
  rfl

theorem length_le_following (indent : Nat) (members : List String) :
    members.length ≤ (following indent members).length := by
  induction members with
  | nil => exact Nat.le_refl 0
  | cons member members ih =>
    rw [following_cons, List.length_cons, List.length_cons, List.length_append, List.length_append]
    omega

theorem intercalate_following (indent : Nat) (member : String) (members : List String) :
    (("," ++ ("\n" ++ String.ofList (List.replicate (2 * indent) ' '))).intercalate
      (member :: members)).toList = member.toList ++ following indent members := by
  have hgap : ("," ++ ("\n" ++ String.ofList (List.replicate (2 * indent) ' '))).toList =
      ',' :: gap indent := by
    rw [String.toList_append, gap_text]
    rfl
  induction members generalizing member with
  | nil => rw [String.intercalate_singleton, following, List.flatMap_nil, List.append_nil]
  | cons next members ih =>
    rw [String.intercalate_cons_cons, String.toList_append, String.toList_append, ih, hgap,
      following_cons, List.append_assoc]
    rfl

theorem array_brackets : "[".toList = ['['] ∧ "]".toList = [']'] := ⟨rfl, rfl⟩

theorem object_brackets : "\x7b".toList = ['\x7b'] ∧ "\x7d".toList = ['\x7d'] := ⟨rfl, rfl⟩

variable {opening closing : String} {first last : Char}

theorem prettyMembers_nil (h : opening.toList = [first] ∧ closing.toList = [last])
    (indent : Nat) (rest : List Char) :
    (Datum.prettyMembers opening closing indent []).toList ++ rest = first :: last :: rest := by
  rw [Datum.prettyMembers, if_pos rfl, String.toList_append, h.1, h.2]
  rfl

/-- A container that has members has each of them on a line of its own. -/
theorem prettyMembers_cons (h : opening.toList = [first] ∧ closing.toList = [last])
    (indent : Nat) (member : String) (members : List String) (rest : List Char) :
    (Datum.prettyMembers opening closing indent (member :: members)).toList ++ rest =
      first :: (gap (indent + 1) ++ (member.toList ++
        (following (indent + 1) members ++ (gap indent ++ last :: rest)))) := by
  have hgap := gap_text
  rw [Datum.prettyMembers, if_neg (List.cons_ne_nil _ _)]
  simp only [String.toList_append, intercalate_following, hgap, h.1, h.2,
    List.append_assoc, List.cons_append, List.nil_append]

/-- A printed container begins with its bracket. -/
theorem prettyMembers_head (h : opening.toList = [first] ∧ closing.toList = [last])
    (indent : Nat) (members : List String) :
    ∃ rest, (Datum.prettyMembers opening closing indent members).toList = first :: rest := by
  rw [← List.append_nil (Datum.prettyMembers opening closing indent members).toList]
  cases members with
  | nil => exact ⟨_, prettyMembers_nil h indent []⟩
  | cons member members => exact ⟨_, prettyMembers_cons h indent member members []⟩

theorem Datum.prettyItems_map {α : Type} (printed : α → Datum) (indent : Nat) (values : List α) :
    prettyItems indent (values.map printed) =
      values.map fun value => (printed value).pretty indent := by
  induction values with
  | nil => rfl
  | cons value values ih => rw [List.map_cons, prettyItems, ih, List.map_cons]

theorem Datum.prettyFields_eq (indent : Nat) (fields : List (String × Datum)) :
    prettyFields indent fields =
      fields.map fun (name, value) => quote name ++ ": " ++ value.pretty indent := by
  induction fields with
  | nil => rfl
  | cons field fields ih => rw [prettyFields, ih, List.map_cons]

/-- A datum begins with neither a blank nor a closing bracket. -/
theorem Datum.pretty_head (datum : Datum) (indent : Nat) :
    ∃ c rest, (datum.pretty indent).toList = c :: rest ∧ isBlank c = false ∧ c ≠ ']' := by
  cases datum <;> rw [pretty]
  case null => exact ⟨'n', ['u', 'l', 'l'], rfl, rfl, by decide⟩
  case bool value => cases value <;> exact ⟨_, _, rfl, rfl, by decide⟩
  case number value =>
    rw [← value.toScalar_json]
    obtain ⟨_, hspells, -⟩ := prints_scalar value.toScalar_legible
    exact hspells.head
  case string text =>
    obtain ⟨parts, -, -, htext, -⟩ := quote_spells text
    exact ⟨_, _, htext, rfl, by decide⟩
  case array items =>
    obtain ⟨rest, htext⟩ := prettyMembers_head array_brackets indent (prettyItems (indent + 1) items)
    exact ⟨_, _, htext, rfl, by decide⟩
  case object fields =>
    obtain ⟨rest, htext⟩ := prettyMembers_head object_brackets indent (prettyFields (indent + 1) fields)
    exact ⟨_, _, htext, rfl, by decide⟩

/-! ## Going from member to member -/

namespace Datum

variable {text others member rest : List Char}

theorem nextItem_first (hskip : skipBlank text = member) (hhead : ∃ c tail, member = c :: tail ∧ c ≠ ']') :
    nextItem true text = .ok (some member) := by
  obtain ⟨c, tail, rfl, hc⟩ := hhead
  rw [nextItem, hskip]
  split
  · contradiction
  · next heq => exact absurd (List.cons.inj heq).1 hc
  · next heq =>
    cases heq
    rfl

theorem nextItem_next (hcomma : skipBlank text = ',' :: others) (hskip : skipBlank others = member)
    (hhead : ∃ c tail, member = c :: tail ∧ c ≠ ']') : nextItem false text = .ok (some member) := by
  obtain ⟨c, tail, rfl, hc⟩ := hhead
  rw [nextItem, hcomma]
  show (if false then _ else if ',' = ',' then _ else _) = _
  rw [if_neg Bool.false_ne_true, if_pos rfl, hskip]
  split
  · contradiction
  · next heq => exact absurd (List.cons.inj heq).1 hc
  · rfl

theorem nextItem_end (isFirst : Bool) (hend : skipBlank text = ']' :: rest) :
    nextItem isFirst text = .ok none := by
  rw [nextItem, hend]
  rfl

theorem nextField_first (hskip : skipBlank text = '"' :: rest) : nextField true text = .ok (some rest) := by
  rw [nextField, hskip]
  rfl

theorem nextField_next (hcomma : skipBlank text = ',' :: others) (hskip : skipBlank others = '"' :: rest) :
    nextField false text = .ok (some rest) := by
  rw [nextField, hcomma]
  show (if false then _ else if ',' = ',' then _ else _) = _
  rw [if_neg Bool.false_ne_true, if_pos rfl, hskip]
  rfl

theorem nextField_end (isFirst : Bool) (hend : skipBlank text = '\x7d' :: rest) :
    nextField isFirst text = .ok none := by
  rw [nextField, hend]
  rfl

end Datum

/-! ## Reading -/

namespace Shape

/-- Whether a printed datum is read as a value wherever it stands. -/
def Reads {α : Type} (shape : Shape α) (depth : Nat) (datum : Datum) (value : α) : Prop :=
  ∀ (indent : Nat) (before rest : List Char), Blank before → NoNumber rest →
    shape depth (before ++ ((datum.pretty indent).toList ++ rest)) = .ok (value, rest)

theorem Reads.map {α β : Type} {shape : Shape α} {depth : Nat} {datum : Datum} {value : α}
    (h : shape.Reads depth datum value) (f : α → β) :
    Reads (fun depth text => (shape depth text).map fun (value, rest) => (f value, rest)) depth datum
      (f value) := by
  intro indent before rest hbefore hrest
  simp only [h indent before rest hbefore hrest, Except.map]

/-! ## Texts -/

theorem readString_quote (text : String) (rest : List Char) :
    ∃ inner, (quote text).toList ++ rest = '"' :: inner ∧ readString 0 inner = .ok (text.toList, rest) := by
  obtain ⟨parts, hvalid, hmeaning, hquoted, -⟩ := quoteChars_parts text.toList
  refine ⟨Part.quoted parts rest, ?_, readString_said hvalid hmeaning rest⟩
  rw [quote, String.toList_ofList]
  exact hquoted rest

theorem string_reads (depth : Nat) (text : String) : string.Reads depth (.string text) text := by
  intro indent before rest hbefore hrest
  obtain ⟨inner, htext, hread⟩ := readString_quote text rest
  rw [Datum.pretty, htext, string, skipBlank_append hbefore (show NoBlank ('"' :: inner) from rfl)]
  simp only [hread, ofRead, Except.map, String.ofList_toList]
  rfl

/-! ## Lists -/

/-- What follows a member ends a number before it. -/
theorem noNumber_following (indent : Nat) (members : List String) {rest : List Char}
    (hrest : NoNumber rest) : NoNumber (following indent members ++ rest) := by
  cases members with
  | nil => exact hrest
  | cons member members =>
    rw [following_cons]
    exact ⟨rfl, by decide, by decide, by decide⟩

/-- So does the bracket at the end of a container. -/
theorem noNumber_end {after : List Char} (hafter : Blank after) {bracket : Char}
    (h : bracket = ']' ∨ bracket = '\x7d') (rest : List Char) :
    NoNumber (after ++ bracket :: rest) := by
  refine noNumber_blank hafter ?_
  rcases h with rfl | rfl <;> exact ⟨rfl, by decide, by decide, by decide⟩

/-- A printed member is read behind blanks, before the members that follow it. -/
theorem skipBlank_member {before : List Char} (hbefore : Blank before) (datum : Datum) (indent : Nat)
    (rest : List Char) :
    skipBlank (before ++ ((datum.pretty indent).toList ++ rest)) = (datum.pretty indent).toList ++ rest ∧
      ∃ c tail, (datum.pretty indent).toList ++ rest = c :: tail ∧ c ≠ ']' := by
  obtain ⟨c, tail, htext, hblank, hc⟩ := datum.pretty_head indent
  rw [htext, List.cons_append]
  exact ⟨skipBlank_append hbefore (noBlank_cons _ hblank), c, _, rfl, hc⟩

section

variable {α : Type} {item : Shape α} {printed : α → Datum} {depth : Nat} {values : List α}

/-- The items that follow another one. -/
theorem items_following (h : ∀ value ∈ values, item.Reads depth (printed value) value)
    (indent : Nat) {fuel : Nat} (hfuel : values.length < fuel) {after : List Char}
    (hafter : Blank after) (rest : List Char) :
    items item depth fuel false (following indent (values.map fun value => (printed value).pretty indent) ++
      (after ++ ']' :: rest)) = .ok (values, after ++ ']' :: rest) := by
  induction values generalizing fuel with
  | nil =>
    obtain ⟨fuel, rfl⟩ := Nat.exists_eq_succ_of_ne_zero (Nat.ne_of_gt hfuel)
    rw [List.map_nil, following, List.flatMap_nil, List.nil_append, items,
      Datum.nextItem_end false (skipBlank_append hafter (noBlank_cons rest rfl))]
  | cons value values ih =>
    obtain ⟨fuel, rfl⟩ := Nat.exists_eq_succ_of_ne_zero (Nat.ne_zero_of_lt hfuel)
    obtain ⟨hvalue, hvalues⟩ := List.forall_mem_cons.mp h
    have hend := noNumber_end hafter (.inl rfl) rest
    have hread := hvalue indent [] _ (List.forall_mem_nil _) (noNumber_following indent
      (values.map fun value => (printed value).pretty indent) hend)
    rw [List.nil_append] at hread
    obtain ⟨hskip, hhead⟩ := skipBlank_member (gap_blank indent) (printed value) indent
      (following indent (values.map fun value => (printed value).pretty indent) ++ (after ++ ']' :: rest))
    rw [List.map_cons, following_cons, List.cons_append, List.append_assoc, List.append_assoc, items,
      Datum.nextItem_next rfl hskip hhead]
    simp only [hread, ih hvalues (Nat.lt_of_succ_lt_succ hfuel), Except.map]

theorem openContainer_ok (hdepth : 1 < depth) (text : List Char) :
    Datum.openContainer depth text = .ok () := if_neg (Nat.not_le_of_gt hdepth)

/-- A list whose items are read up to its bracket is read. -/
theorem list_of_items (hdepth : 1 < depth) {before text after rest : List Char}
    (hbefore : Blank before) (hafter : Blank after)
    (h : items item (depth - 1) (text.length + 1) true text = .ok (values, after ++ ']' :: rest)) :
    list item depth (before ++ '[' :: text) = .ok (values, rest) := by
  rw [list, skipBlank_append hbefore (show NoBlank ('[' :: text) from rfl)]
  simp only [openContainer_ok hdepth, h, finish, endArray,
    skipBlank_append hafter (show NoBlank (']' :: rest) from rfl)]
  rfl

/-- **A list** is read if its items are. -/
theorem list_reads (hdepth : 1 < depth)
    (h : ∀ value ∈ values, item.Reads (depth - 1) (printed value) value) :
    (list item).Reads depth (.array (values.map printed)) values := by
  intro indent before rest hbefore hrest
  rw [Datum.pretty, Datum.prettyItems_map]
  cases values with
  | nil =>
    have hitems : items item (depth - 1) ((']' :: rest).length + 1) true (']' :: rest) =
        .ok ([], [] ++ ']' :: rest) := rfl
    rw [List.map_nil, prettyMembers_nil array_brackets]
    exact list_of_items hdepth hbefore (List.forall_mem_nil _) hitems
  | cons value values =>
    obtain ⟨hvalue, hvalues⟩ := List.forall_mem_cons.mp h
    have hgap := gap_blank indent
    have hend := noNumber_end hgap (.inl rfl) rest
    have hread := hvalue (indent + 1) [] _ (List.forall_mem_nil _) (noNumber_following (indent + 1)
      (values.map fun value => (printed value).pretty (indent + 1)) hend)
    rw [List.nil_append] at hread
    rw [List.map_cons, prettyMembers_cons array_brackets]
    refine list_of_items hdepth hbefore hgap ?_
    obtain ⟨hskip, hhead⟩ := skipBlank_member (gap_blank (indent + 1)) (printed value) (indent + 1)
      (following (indent + 1) (values.map fun value => (printed value).pretty (indent + 1)) ++
        (gap indent ++ ']' :: rest))
    rw [items, Datum.nextItem_first hskip hhead]
    simp only [hread]
    rw [items_following hvalues (indent + 1) ?_ hgap]
    · rfl
    · have hlength := length_le_following (indent + 1)
        (values.map fun value => (printed value).pretty (indent + 1))
      simp only [List.length_append, List.length_cons, List.length_map] at hlength ⊢
      omega

end

/-! ## Records -/

namespace Record

variable {σ : Type} {record : Record σ} {depth : Nat}

/-- What a record takes from printed fields, one after the other: the state before and after. -/
inductive Takes (record : Record σ) (depth : Nat) : σ → List (String × Datum) → σ → Prop where
  | nil {state : σ} : Takes record depth state [] state
  | cons {state next last : σ} {field : Field σ} {name : String} {datum : Datum}
      {fields : List (String × Datum)}
      (found : record.fields.find? (fun field => field.name.toList = name.toList) = some field)
      (unset : field.isSet state = false) (head : (field.read state).Reads depth datum next)
      (tail : Takes record depth next fields last) :
    Takes record depth state ((name, datum) :: fields) last

/-- A printed field. -/
def fieldText (indent : Nat) (field : String × Datum) : String :=
  quote field.1 ++ ": " ++ field.2.pretty indent

/-- A printed field begins with a quote. Behind its name and the colon it goes on with its value. -/
theorem fieldText_eq (indent : Nat) (field : String × Datum) (rest : List Char) :
    ∃ inner, (fieldText indent field).toList ++ rest = '"' :: inner ∧
      readString 0 inner =
        .ok (field.1.toList, ':' :: ' ' :: ((field.2.pretty indent).toList ++ rest)) := by
  obtain ⟨inner, htext, hread⟩ :=
    readString_quote field.1 (':' :: ' ' :: ((field.2.pretty indent).toList ++ rest))
  refine ⟨inner, ?_, hread⟩
  rw [← htext, fieldText]
  simp only [String.toList_append, List.append_assoc]
  rfl

/-- One field that is read. -/
theorem fieldsFrom_field {state next : σ} {field : Field σ} {name : String} {datum : Datum}
    (found : record.fields.find? (fun field => field.name.toList = name.toList) = some field)
    (unset : field.isSet state = false) (head : (field.read state).Reads depth datum next)
    {indent fuel : Nat} {isFirst : Bool} {text inner rest : List Char} (hrest : NoNumber rest)
    (hnext : Datum.nextField isFirst text = .ok (some inner))
    (hread : readString 0 inner =
      .ok (name.toList, ':' :: ' ' :: ((datum.pretty indent).toList ++ rest))) :
    record.fieldsFrom depth (fuel + 1) isFirst state text =
      record.fieldsFrom depth fuel false next rest := by
  have hcolon : ∀ text, Datum.readColon (':' :: text) = .ok text := fun text => rfl
  have hvalue := head indent [' '] rest (List.forall_mem_singleton.mpr (by decide)) hrest
  rw [List.singleton_append] at hvalue
  rw [fieldsFrom]
  simp only [hnext, hread, found, unset, hcolon, hvalue]
  rfl

/-- The fields that follow another one. -/
theorem Takes.fieldsFrom_following {state last : σ} {fields : List (String × Datum)}
    (h : Takes record depth state fields last)
    (hcomplete : record.fields.find? (fun field => !field.optional && !field.isSet last) = none)
    (indent : Nat) {fuel : Nat} (hfuel : fields.length < fuel) {after : List Char}
    (hafter : Blank after) (rest : List Char) :
    record.fieldsFrom depth fuel false state
        (following indent (fields.map (fieldText indent)) ++ (after ++ '\x7d' :: rest)) =
      .ok (last, after ++ '\x7d' :: rest) := by
  induction h generalizing fuel with
  | nil =>
    obtain ⟨fuel, rfl⟩ := Nat.exists_eq_succ_of_ne_zero (Nat.ne_of_gt hfuel)
    rw [List.map_nil, following, List.flatMap_nil, List.nil_append, fieldsFrom,
      Datum.nextField_end false (skipBlank_append hafter (noBlank_cons rest rfl))]
    simp only [hcomplete]
  | @cons state next last field name datum fields found unset head tail ih =>
    obtain ⟨fuel, rfl⟩ := Nat.exists_eq_succ_of_ne_zero (Nat.ne_zero_of_lt hfuel)
    have hend := noNumber_end hafter (.inr rfl) rest
    obtain ⟨inner, htext, hread⟩ := fieldText_eq indent (name, datum)
      (following indent (fields.map (fieldText indent)) ++ (after ++ '\x7d' :: rest))
    rw [List.map_cons, following_cons, List.cons_append, List.append_assoc, List.append_assoc, htext]
    rw [fieldsFrom_field found unset head (noNumber_following indent _ hend)
      (Datum.nextField_next rfl (skipBlank_append (gap_blank indent) (noBlank_cons inner rfl))) hread]
    exact ih hcomplete (Nat.lt_of_succ_lt_succ hfuel)

/-- A record whose fields are read up to its bracket is read. -/
theorem shape_of_fields (hdepth : 1 < depth) {last : σ} {before text after rest : List Char}
    (hbefore : Blank before) (hafter : Blank after)
    (h : record.fieldsFrom (depth - 1) (text.length + 1) true record.initial text =
      .ok (last, after ++ '\x7d' :: rest)) :
    record.shape depth (before ++ '\x7b' :: text) = .ok (last, rest) := by
  rw [shape, skipBlank_append hbefore (show NoBlank ('\x7b' :: text) from rfl)]
  simp only [openContainer_ok hdepth, h, finish, endObject,
    skipBlank_append hafter (show NoBlank ('\x7d' :: rest) from rfl)]
  rfl

/-- **A record** is read if each of its fields is known and read, and none is missing. -/
theorem Takes.reads (hdepth : 1 < depth) {last : σ} {fields : List (String × Datum)}
    (h : Takes record (depth - 1) record.initial fields last)
    (hcomplete : record.fields.find? (fun field => !field.optional && !field.isSet last) = none) :
    record.shape.Reads depth (.object fields) last := by
  intro indent before rest hbefore hrest
  rw [Datum.pretty, Datum.prettyFields_eq]
  show record.shape depth (before ++ ((Datum.prettyMembers _ _ indent
    (fields.map (fieldText (indent + 1)))).toList ++ rest)) = _
  cases h with
  | nil =>
    have hfields : record.fieldsFrom (depth - 1) (('\x7d' :: rest).length + 1) true record.initial
        ('\x7d' :: rest) = .ok (record.initial, [] ++ '\x7d' :: rest) := by
      rw [List.nil_append, fieldsFrom, @Datum.nextField_end _ rest true rfl]
      simp only [hcomplete]
    rw [List.map_nil, prettyMembers_nil object_brackets]
    exact shape_of_fields hdepth hbefore (List.forall_mem_nil _) hfields
  | @cons _ next _ field name datum fields found unset head tail =>
    have hgap := gap_blank indent
    have hend := noNumber_end hgap (.inr rfl) rest
    obtain ⟨inner, htext, hread⟩ := fieldText_eq (indent + 1) (name, datum)
      (following (indent + 1) (fields.map (fieldText (indent + 1))) ++ (gap indent ++ '\x7d' :: rest))
    rw [List.map_cons, prettyMembers_cons object_brackets, htext]
    refine shape_of_fields hdepth hbefore hgap ?_
    rw [fieldsFrom_field found unset head (noNumber_following (indent + 1) _ hend)
      (Datum.nextField_first (skipBlank_append (gap_blank (indent + 1)) (noBlank_cons inner rfl))) hread]
    refine tail.fieldsFrom_following hcomplete (indent + 1) ?_ hgap rest
    have hlength := length_le_following (indent + 1) (fields.map (fieldText (indent + 1)))
    have hinner := congrArg List.length htext
    simp only [List.length_append, List.length_cons, List.length_map] at hlength hinner ⊢
    omega

end Record

end Shape

end StreamMask.Json
