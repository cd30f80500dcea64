/-
Fields of spans, as values are recorded for them.

A value is put in the place of the one before, and a new name at the end, so fields of
distinct names stay so, in the order in which the names came first, and each has the value
that was recorded last (`Fields.UpToDate`). A journal keeps the fields of a span in this
way whatever else it is told (`Journal.lookup_takeAll`), and a line lists them as they are
then, unless they are replaced all together (`Entry.ShowsSpan`).
-/
import Mathlib.Data.List.Nodup
import StreamMask.Proofs.JournalLines
import StreamMask.Proofs.ListedFields
import StreamMask.Proofs.Repetitions
import StreamMask.Proofs.ShownScalars

namespace StreamMask.Log

/-! ## Updates -/

namespace Fields

/-- The names of fields, in their order. -/
def names (fields : Fields) : List String := fields.map Prod.fst

/-- Whether fields are what others have become by recordings: no name is among them twice, new names
come behind the original ones in the order in which they are first recorded, and each name has the
value that was recorded for it last, or else the original one. -/
structure UpToDate (original : Fields) (recordings : List Fields) (stored : Fields) : Prop where
  distinct : stored.names.Nodup
  order : stored.names =
    original.names ++ ((names recordings.flatten).removeAll original.names).eraseDups
  latest : ∀ name, stored.lookup name = (recordings.flatten.reverse ++ original).lookup name

theorem lookup_cons (field : String × Scalar) (fields : Fields) (name : String) :
    List.lookup name (field :: fields) =
      if name = field.1 then some field.2 else fields.lookup name := by
  rw [List.lookup_cons]
  by_cases hname : name = field.1
  · simp [hname]
  · simp [hname, beq_eq_false_iff_ne.mpr hname]

theorem names_update (name : String) (value : Scalar) (fields : Fields) :
    (update name value fields).names =
      if name ∈ fields.names then fields.names else fields.names ++ [name] := by
  induction fields with
  | nil => simp [update, names]
  | cons field fields ih =>
    rw [update]
    by_cases hname : field.1 = name
    · simp [names, hname]
    · have hne : ¬name = field.1 := Ne.symm hname
      have hmem : name ∈ names (field :: fields) ↔ name ∈ names fields := by simp [names, hne]
      have hrest : names (field :: update name value fields) =
          field.1 :: names (update name value fields) := rfl
      rw [if_neg hname, hrest, ih]
      simp only [hmem]
      split <;> rfl

theorem lookup_update (name other : String) (value : Scalar) (fields : Fields) :
    (update name value fields).lookup other =
      if other = name then some value else fields.lookup other := by
  induction fields with
  | nil => exact lookup_cons (name, value) [] other
  | cons field fields ih =>
    rw [update]
    by_cases hfirst : field.1 = name
    · rw [if_pos hfirst, lookup_cons, lookup_cons, ← hfirst]
      split <;> rfl
    · rw [if_neg hfirst, lookup_cons, ih, lookup_cons]
      by_cases hother : other = field.1
      · have hne : ¬other = name := fun heq => hfirst (hother.symm.trans heq)
        rw [if_pos hother, if_neg hne, if_pos hother]
      · rw [if_neg hother, if_neg hother]

theorem merge_concat (fields updates : Fields) (name : String) (value : Scalar) :
    fields.merge (updates ++ [(name, value)]) = update name value (fields.merge updates) :=
  List.foldl_append ..

theorem nodup_names_merge {fields : Fields} (h : fields.names.Nodup) (updates : Fields) :
    (fields.merge updates).names.Nodup := by
  induction updates using List.reverseRecOn with
  | nil => exact h
  | append_singleton updates last ih =>
    rw [merge_concat, names_update]
    split
    · exact ih
    next hnew => simpa only [List.concat_eq_append] using List.Nodup.concat hnew ih

/-- New names come behind in the order in which they are first recorded. -/
theorem names_merge (fields updates : Fields) : (fields.merge updates).names =
    fields.names ++ (updates.names.removeAll fields.names).eraseDups := by
  have hsingle (name : String) : [name].removeAll fields.names =
      if name ∈ fields.names then [] else [name] := by
    by_cases hname : name ∈ fields.names <;> simp [List.removeAll, hname]
  induction updates using List.reverseRecOn with
  | nil => exact (List.append_nil _).symm
  | append_singleton updates last ih =>
    have hnames : (names (updates ++ [last])).removeAll fields.names =
        (names updates).removeAll fields.names ++ [last.1].removeAll fields.names := by
      simp only [names, List.removeAll, List.map_append, List.filter_append, List.map_cons,
        List.map_nil]
    rw [merge_concat, names_update, ih, hnames, hsingle]
    by_cases hold : last.1 ∈ fields.names
    · rw [if_pos (List.mem_append_left _ hold), if_pos hold, List.append_nil]
    · have hany : ((names updates).removeAll fields.names).eraseDups.any (last.1 == ·) = true ↔
          last.1 ∈ fields.names ++ ((names updates).removeAll fields.names).eraseDups := by
        simp only [List.any_eq_true, beq_iff_eq, exists_eq_right', List.mem_append, hold, false_or]
      rw [if_neg hold]
      conv_rhs => rw [List.eraseDups, eraseDupsBy_concat, ← List.eraseDups]
      simp only [hany]
      split
      · rfl
      · rw [List.append_assoc]

/-- A name has the value that was recorded last. -/
theorem lookup_merge (fields updates : Fields) (name : String) :
    (fields.merge updates).lookup name = (updates.reverse ++ fields).lookup name := by
  induction updates using List.reverseRecOn with
  | nil => rfl
  | append_singleton updates last ih =>
    rw [merge_concat, lookup_update, ih, List.reverse_append, List.reverse_singleton,
      List.singleton_append, List.cons_append, lookup_cons]

/-- **Any recordings leave fields up to date.** -/
theorem upToDate_merge {original : Fields} (h : original.names.Nodup) (recordings : List Fields) :
    UpToDate original recordings (recordings.foldl merge original) := by
  have hflat : recordings.foldl merge original = original.merge recordings.flatten :=
    List.foldl_flatten.symm
  rw [hflat]
  exact ⟨nodup_names_merge h _, names_merge _ _, lookup_merge _ _⟩

end Fields

/-! ## Spans of a journal -/

namespace Span

/-- A span as it is created. -/
def created (name : String) (fields : List (String × Option Scalar)) : Span :=
  ⟨name, fields.map (·.1), fields.filterMap fun (name, value?) => value?.map fun value => (name, value)⟩

theorem foldl_record (span : Span) (recordings : List Fields) : recordings.foldl record span =
    { span with fields := (recordings.map span.accepted).foldl Fields.merge span.fields } := by
  induction recordings generalizing span with
  | nil => rfl
  | cons values recordings ih => exact ih (span.record values)

end Span

/-- The values that are recorded for the span of a number, if any are. -/
def Happening.recordingOf? (id : Nat) : Happening → Option Fields
  | .recorded id' values => if id' = id then some values else none
  | .created .. | .entered _ | .exited _ | .logged .. => none

namespace Journal

theorem lookup_map_recorded (known : List (Nat × Span)) (id other : Nat) (values : Fields) :
    (known.map fun (id', span) => (id', if id' = id then span.record values else span)).lookup other =
      (known.lookup other).map fun span => if id = other then span.record values else span := by
  induction known with
  | nil => rfl
  | cons first known ih =>
    obtain ⟨id', span⟩ := first
    rw [List.map_cons, List.lookup_cons, List.lookup_cons, ih]
    by_cases hother : other = id'
    · subst hother
      simp [eq_comm]
    · simp [beq_eq_false_iff_ne.mpr hother]

/-- **One happening** only records values for a span. -/
theorem lookup_take {journal : Journal} {id : Nat} {span : Span}
    (h : journal.known.lookup id = some span) (happening : Happening)
    (hkept : ∀ name fields, happening ≠ .created id name fields) :
    (journal.take happening).known.lookup id =
      some ((happening.recordingOf? id).toList.foldl Span.record span) := by
  cases happening with
  | created id' name fields =>
    have hne : id ≠ id' := fun heq => hkept name fields (by rw [heq])
    rw [take, List.lookup_cons, beq_eq_false_iff_ne.mpr hne]
    exact h
  | recorded id' values =>
    rw [take, lookup_map_recorded, h, Happening.recordingOf?]
    split <;> rfl
  | entered id' | exited id' => exact h
  | logged stamp entry scope =>
    rw [take]
    split <;> exact h

/-- **Any happenings** only record values for a span, one recording after the other. -/
theorem lookup_takeAll {journal : Journal} {id : Nat} {span : Span} {happenings : List Happening}
    (h : journal.known.lookup id = some span)
    (hkept : ∀ name fields, .created id name fields ∉ happenings) :
    (journal.takeAll happenings).known.lookup id =
      some ((happenings.filterMap (Happening.recordingOf? id)).foldl Span.record span) := by
  induction happenings generalizing journal span with
  | nil => exact h
  | cons happening happenings ih =>
    have hfirst := lookup_take h happening fun name fields heq =>
      hkept name fields (heq ▸ List.mem_cons_self)
    have hothers := ih hfirst fun name fields hmem => hkept name fields (List.mem_cons_of_mem _ hmem)
    refine hothers.trans ?_
    rw [List.filterMap_cons]
    cases happening.recordingOf? id <;> rfl

theorem find_append {journal : Journal} {id : Nat} {span : Span}
    (h : journal.known.lookup id = some span) (outer inner : List Nat) :
    journal.find (outer ++ id :: inner) = journal.find outer ++ span :: journal.find inner := by
  rw [find, List.filterMap_append, List.filterMap_cons, h]
  rfl

end Journal

/-! ## Spans of a line -/

namespace Fields

/-- How fields that are stored are shown at a place: one mask replaces them all, or each is shown once
and under its name, as the maskers make it. -/
inductive Appears (set : MaskerSet) (place : Position) (stored : Fields) : String → Prop where
  | together {mask : Mask} (answer : set.fieldMask place = .ok (some mask)) :
    Appears set place stored mask.toScalar.json
  | each {listed : Fields} (answer : set.fieldMask place = .ok none)
      (names : listed.names = stored.names)
      (values : ∀ name value, stored.lookup name = some value →
        ∃ shown, listed.lookup name = some shown ∧ set.shownAt (place.inField name) value = .ok shown) :
    Appears set place stored listed.json

variable {set : MaskerSet} {place : Position} {stored listed : Fields}

theorem names_shown (h : List.Forall₂ (fun field shown => shown.1 = field.1 ∧
    set.shownAt (place.inField field.1) field.2 = .ok shown.2) stored listed) :
    listed.names = stored.names := by
  induction h with
  | nil => rfl
  | cons hfirst _ ih => exact congrArg₂ List.cons hfirst.1 ih

theorem lookup_shown (h : List.Forall₂ (fun field shown => shown.1 = field.1 ∧
    set.shownAt (place.inField field.1) field.2 = .ok shown.2) stored listed) {name : String}
    {value : Scalar} (hvalue : stored.lookup name = some value) :
    ∃ shown, listed.lookup name = some shown ∧ set.shownAt (place.inField name) value = .ok shown := by
  induction h with
  | nil => cases hvalue
  | @cons field shown stored listed hfirst _ ih =>
    obtain ⟨hname, hshown⟩ := hfirst
    rw [lookup_cons] at hvalue
    rw [lookup_cons, hname]
    split at hvalue
    next heq =>
      cases hvalue
      exact ⟨shown.2, if_pos heq, heq ▸ hshown⟩
    next hne =>
      rw [if_neg hne]
      exact ih hvalue

theorem appears_of_shows {shown : List (String × Tree)}
    (h : Tree.ShowsFields set place [("fields", stored.tree)] shown) :
    ∃ value, shown = [("fields", value)] ∧ Appears set (place.inField "fields") stored value.json := by
  cases h with
  | masked answer tail =>
    cases tail
    exact ⟨_, rfl, .together answer⟩
  | passed answer head tail =>
    cases tail
    cases head with
    | object members =>
      obtain ⟨listed, rfl⟩ := members_of_shows members
      have hlisted := showsFields_members.mp members
      refine ⟨_, rfl, ?_⟩
      rw [members_json]
      exact .each answer (names_shown hlisted) fun name value => lookup_shown hlisted

end Fields

/-- A span in a line, with what is shown of its name and of its fields. -/
def Span.text (name fields : String) : String :=
  "\x7b\"name\":" ++ name ++ ",\"fields\":" ++ fields ++ "\x7d"

theorem Span.text_of_shows {set : MaskerSet} {place : Position} {span : Span} {shown : Tree}
    (h : Tree.Shows set place span.tree shown) :
    ∃ name fields, shown.json = text (Scalar.json name) fields ∧
      set.shownAt (place.inField "name") (.string span.name) = .ok name ∧
      Fields.Appears set (place.inField "fields") span.fields fields := by
  have hjson (name : Scalar) (fields : Tree) :
      (Tree.object (some 2) [("name", .scalar name), ("fields", fields)]).json =
        text name.json fields.json := by
    have hname : "\x7b" ++ Json.quote "name" ++ ":" = "\x7b\"name\":" := by decide
    have hfields : "," ++ Json.quote "fields" ++ ":" = ",\"fields\":" := by decide
    rw [text, ← hname, ← hfields]
    simp only [Tree.json, Tree.fieldsJson, Tree.comma, if_true, Bool.false_eq_true, if_false,
      String.empty_append, String.append_empty, String.append_assoc]
  cases h with
  | object members =>
    cases members with
    | masked answer tail =>
      obtain ⟨fields, rfl, happears⟩ := Fields.appears_of_shows tail
      exact ⟨_, _, hjson _ _, MaskerSet.shownAt_eq_ok.mpr (.inl ⟨_, answer, rfl⟩), happears⟩
    | passed answer head tail =>
      obtain ⟨fields, rfl, happears⟩ := Fields.appears_of_shows tail
      cases head with
      | scalar masked =>
        exact ⟨_, _, hjson _ _, MaskerSet.shownAt_eq_ok.mpr (.inr ⟨answer, masked⟩), happears⟩

namespace Entry

/-- How a line shows one of its spans, with such an index among them: all spans are replaced by one
mask, or this one stands in its place, with its name and its fields. -/
inductive ShowsSpan (set : MaskerSet) (stamp : String) (entry : Entry) (index : Nat) (span : Span) :
    String → Prop where
  | replaced {value : String} {mask : Mask}
      (answer : set.fieldMask (Position.root.inField "spans") = .ok (some mask)) :
    ShowsSpan set stamp entry index span
      (entry.lineText stamp value (",\"spans\":" ++ mask.toScalar.json))
  | listed {value fields : String} {name : Scalar} {before behind : List String}
      (answer : set.fieldMask (Position.root.inField "spans") = .ok none)
      (place : before.length = index)
      (named : set.shownAt (((Position.root.inField "spans").inItem index).inField "name")
        (.string span.name) = .ok name)
      (appears : Fields.Appears set (((Position.root.inField "spans").inItem index).inField "fields")
        span.fields fields) :
    ShowsSpan set stamp entry index span (entry.lineText stamp value
      (",\"spans\":[" ++ ",".intercalate (before ++ Span.text name.json fields :: behind) ++ "]"))

/-- **A line shows each of its spans.** -/
theorem showsSpan_of_line {entry : Entry} {set : MaskerSet} {stamp line : String}
    {outer inner : List Span} {span : Span}
    (h : entry.line set stamp (outer ++ span :: inner) = .ok line) :
    ShowsSpan set stamp entry outer.length span line := by
  obtain ⟨shown, hshown, rfl⟩ := line_eq_ok.mp h
  obtain ⟨-, value, rest, -, hrest, rfl⟩ := Fields.showsFields_iff.mp hshown
  rw [lineText_eq]
  have hspans := showsSpans_of_members hrest
  generalize Tree.fieldsJson true rest = more at hspans
  generalize hall : outer ++ span :: inner = spans at hspans
  cases hspans with
  | none => simp at hall
  | replaced some_span answer => exact .replaced answer
  | listed some_span answer items =>
    rw [← hall, List.map_append, List.map_cons] at items
    obtain ⟨before, item, behind, rfl, hlength, -, hitem⟩ := items.split
    rw [List.length_map] at hlength hitem
    rw [Nat.zero_add] at hitem
    obtain ⟨name, fields, hjson, hnamed, happears⟩ := Span.text_of_shows hitem
    rw [List.map_append, List.map_cons, hjson]
    have hplace : (before.map Tree.json).length = outer.length := (List.length_map _).trans hlength
    exact .listed answer hplace hnamed happears

end Entry

/-- **Fields of a span are kept up to date.** Whatever is recorded, and in however many recordings,
fields of distinct names stay so: the original names come first and in their order, then the new ones
in the order in which they are first recorded, and each has the value that was recorded last. A
journal keeps the fields of a span so as long as no other span has its number, whatever else it is
told. A line that is made then shows each of them once, with this value as the maskers make it, unless
a field masker replaces all spans or all fields of this one. -/
theorem Journal.span_fields_up_to_date :
    (∀ (original : Fields) (recordings : List Fields), original.names.Nodup →
      Fields.UpToDate original recordings (recordings.foldl Fields.merge original)) ∧
    ∀ (journal : Journal) (id : Nat) (name : String) (fields : List (String × Option Scalar))
      (later : List Happening),
      let first := Span.created name fields
      let recordings := later.filterMap (Happening.recordingOf? id)
      let after := (journal.take (.created id name fields)).takeAll later
      first.fields.names.Nodup → (∀ name' fields', .created id name' fields' ∉ later) →
        ∃ span, after.known.lookup id = some span ∧ span.name = name ∧
          Fields.UpToDate first.fields (recordings.map first.accepted) span.fields ∧
          ∀ (stamp : String) (entry : Entry) (outer inner : List Nat) (line : String),
            entry.line after.set stamp (after.find (outer ++ id :: inner)) = .ok line →
              entry.ShowsSpan after.set stamp (after.find outer).length span line := by
  refine ⟨fun original recordings h => Fields.upToDate_merge h recordings, ?_⟩
  intro journal id name fields later first recordings after hdistinct hkept
  have hcreated : (journal.take (.created id name fields)).known.lookup id = some first :=
    List.lookup_cons_self
  have hknown : after.known.lookup id = some (recordings.foldl Span.record first) :=
    lookup_takeAll hcreated hkept
  rw [Span.foldl_record] at hknown
  refine ⟨_, hknown, rfl, Fields.upToDate_merge hdistinct _, ?_⟩
  intro stamp entry outer inner line hline
  rw [find_append hknown] at hline
  exact Entry.showsSpan_of_line hline

/-- A new name twice in one recording, and then a name that was there before; a span with a field that
has no value at first, values for it and for another span, and an entry in between. -/
theorem Journal.span_fields_up_to_date_late :
    Fields.UpToDate [("step", .integer 1)]
      [[("late", .null), ("late", .bool true)], [("step", .integer 2)]]
      [("step", .integer 2), ("late", .bool true)] ∧
    let set : MaskerSet := { fieldMaskers := [.names ⟨["pin"], .standard⟩] }
    let entry : Entry := ⟨.info, "app", []⟩
    let fields : List (String × Option Scalar) :=
      [("step", some (.integer 1)), ("pin", some (.string "1234")), ("late", none)]
    let later : List Happening :=
      [.recorded 7 [("late", .bool true), ("step", .integer 2)], .logged "now" entry [7],
        .recorded 8 [("step", .null)], .recorded 7 [("step", .integer 3)]]
    let after := ((start set).take (.created 7 "job" fields)).takeAll later
    ∃ span line, after.known.lookup 7 = some span ∧
      span.fields = [("step", .integer 3), ("pin", .string "1234"), ("late", .bool true)] ∧
      entry.line after.set "now" (after.find [7]) = .ok line ∧
      entry.ShowsSpan after.set "now" 0 span line := by
  refine ⟨span_fields_up_to_date.1 _ [_, _] (by decide), ?_⟩
  intro set entry fields later after
  have hkept : ∀ name' fields', Happening.created 7 name' fields' ∉ later := by simp [later]
  obtain ⟨span, hknown, -, -, hshows⟩ :=
    span_fields_up_to_date.2 (start set) 7 "job" fields later (by decide) hkept
  have hline : entry.line after.set "now" (after.find [7]) = .ok (entry.lineText "now" "\x7b\x7d"
      (",\"spans\":[" ++ Span.text "\"job\"" "\x7b\"step\":3,\"pin\":\"****\",\"late\":true\x7d" ++
        "]")) := ok_of_toOption (by decide +kernel)
  refine ⟨span, _, hknown, ?_, hline, hshows "now" entry [] [] _ hline⟩
  have hstored : (after.known.lookup 7).map Span.fields =
      some [("step", .integer 3), ("pin", .string "1234"), ("late", .bool true)] := by decide +kernel
  rw [show after.known.lookup 7 = some span from hknown] at hstored
  exact Option.some.inj hstored

/-- A field of a span is not always in a line: a path that selects all fields of each span leaves only
its mask of them. -/
theorem Journal.span_fields_not_in_line :
    let path : PathMasker := ⟨⟨true, [.named "spans", .wildcard, .named "fields"]⟩, .standard⟩
    let set : MaskerSet := { fieldMaskers := [.path path] }
    let entry : Entry := ⟨.info, "app", []⟩
    let after := (start set).takeAll
      [.created 7 "job" [("step", some (.integer 1))], .recorded 7 [("step", .integer 2)]]
    (after.known.lookup 7).map Span.fields = some [("step", .integer 2)] ∧
      ∃ line, entry.line after.set "now" (after.find [7]) = .ok line ∧
        ¬"step".toList <:+: line.toList := by
  intro path set entry after
  have hline : entry.line after.set "now" (after.find [7]) = .ok (entry.lineText "now" "\x7b\x7d"
      (",\"spans\":[" ++ Span.text "\"job\"" "\"****\"" ++ "]")) := ok_of_toOption (by decide +kernel)
  exact ⟨by decide +kernel, _, hline, by decide +kernel⟩

end StreamMask.Log
