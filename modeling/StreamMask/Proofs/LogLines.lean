/-
Lines of a log, and what a person is shown of the same entries.

A line is an object: first what opens it, which goes past the maskers, then the fields of
the entry and its spans, which are masked as members of this object (`Entry.line_eq_ok`).
The fields alone are masked as the member `fields` of an object too (`Fields.masked_eq_ok`).
So the maskers are asked about a field at the same place in both, and in both it is shown
the same.
-/
import StreamMask.Log.Line
import StreamMask.Proofs.MaskedText

namespace StreamMask

/-! ## Members of an object -/

namespace Tree

theorem fieldsJson_append (isStarted : Bool) (fields others : List (String × Tree)) :
    fieldsJson isStarted (fields ++ others) =
      fieldsJson isStarted fields ++ fieldsJson (isStarted || !fields.isEmpty) others := by
  induction fields generalizing isStarted with
  | nil => rw [fieldsJson, String.empty_append, List.isEmpty_nil, Bool.not_true, Bool.or_false]; rfl
  | cons field fields ih =>
    obtain ⟨name, value⟩ := field
    rw [List.cons_append, fieldsJson, fieldsJson, ih, List.isEmpty_cons, Bool.not_false,
      Bool.or_true, Bool.true_or]
    simp only [String.append_assoc]

/-- Members are separated by commas. -/
theorem fieldsJson_eq_intercalate : ∀ fields : List (String × Tree),
    fieldsJson false fields =
      ",".intercalate (fields.map fun (name, value) => Json.quote name ++ ":" ++ value.json)
  | [] => rfl
  | [(name, value)] => by
    simp only [fieldsJson, comma, List.map_cons, List.map_nil, String.intercalate_singleton,
      Bool.false_eq_true, if_false, String.empty_append, String.append_empty]
  | (name, value) :: next :: fields => by
    have hothers := fieldsJson_eq_intercalate (next :: fields)
    have hstarted : fieldsJson true (next :: fields) = "," ++ fieldsJson false (next :: fields) :=
      String.toList_inj.mp (by rw [fieldsJson_started, String.toList_append]; rfl)
    rw [fieldsJson, hstarted, hothers]
    simp only [comma, List.map_cons, String.intercalate_cons_cons, Bool.false_eq_true, if_false,
      String.empty_append, String.append_assoc]

theorem itemsJson_eq_intercalate : ∀ items : List Tree,
    itemsJson false items = ",".intercalate (items.map json)
  | [] => rfl
  | [item] => by
    simp only [itemsJson, comma, List.map_cons, List.map_nil, String.intercalate_singleton,
      Bool.false_eq_true, if_false, String.empty_append, String.append_empty]
  | item :: next :: items => by
    have hothers := itemsJson_eq_intercalate (next :: items)
    have hstarted : itemsJson true (next :: items) = "," ++ itemsJson false (next :: items) :=
      String.toList_inj.mp (by rw [itemsJson_started, String.toList_append]; rfl)
    rw [itemsJson, hstarted, hothers]
    simp only [comma, List.map_cons, String.intercalate_cons_cons, Bool.false_eq_true, if_false,
      String.empty_append, String.append_assoc]

end Tree

namespace Masking

variable {σ : Type} [Sink σ] {set : MaskerSet} {p : Position} {fields shown : List (String × Tree)}

/-- A stream inside an object gives its sink, up to the end of the object, the members that are
shown. -/
theorem writeAll_members (haccepts : Sink.Accepts σ) (h : Tree.ShowsFields set p fields shown)
    (sink : σ) :
    Sink.writeAll (Masking.mk set sink p.inObject 0) (Tree.fieldEvents fields ++ [.endObject]) =
      (⟨set, (Sink.writeAll sink (Tree.fieldEvents shown ++ [.endObject])).1, p.complete, 0⟩,
        .ok ()) := by
  have hrecorded := writeAll_fieldEvents set Recorder.empty p (Nat.zero_le 1) fields
  rw [h.masked_eq] at hrecorded
  have hinto := writeAll_into haccepts (Masking.mk set Recorder.empty p.inObject 0) sink
    (Tree.fieldEvents fields ++ [.endObject])
  rw [show Sink.writeAll (Masking.mk set Recorder.empty p.inObject 0) _ = _ from hrecorded] at hinto
  refine hinto.trans ?_
  have hemission : (⟨Tree.fieldEvents shown, none⟩ ++ ⟨[.endObject], none⟩ : Emission) =
      ⟨Tree.fieldEvents shown ++ [.endObject], none⟩ := rfl
  simp only [hemission, outcomeInto, into, Emission.onto, Recorder.record_events, haccepts.writeAll]
  rfl

/-- If such a stream goes to the end of the object, something is shown of its members. -/
theorem members_of_writeAll (haccepts : Sink.Accepts σ) {sink : σ}
    (h : (Sink.writeAll (Masking.mk set sink p.inObject 0)
      (Tree.fieldEvents fields ++ [.endObject])).2 = .ok ()) :
    ∃ shown, Tree.ShowsFields set p fields shown := by
  have hrecorded := writeAll_fieldEvents set Recorder.empty p (Nat.zero_le 1) fields
  have hinto := writeAll_into haccepts (Masking.mk set Recorder.empty p.inObject 0) sink
    (Tree.fieldEvents fields ++ [.endObject])
  have hresult := (congrArg Prod.snd hinto).symm.trans h
  rw [show Sink.writeAll (Masking.mk set Recorder.empty p.inObject 0) _ = _ from hrecorded]
    at hresult
  refine Tree.showsFields_of_stop p fields ?_
  generalize Tree.maskedFields set set.changed p fields = emission at hresult ⊢
  obtain ⟨events, _ | stop⟩ := emission
  · rfl
  · contradiction

theorem finish_recorder (set : MaskerSet) (recorder : Recorder) :
    finish (start set recorder) = (start set (recorder.record [.flush]), .ok ()) := by
  show forward (start set recorder) .flush = _
  rw [start, forward_recorder]
  rfl

end Masking

namespace Log

/-! ## Fields -/

namespace Fields

/-- Fields as members of an object. -/
def members (fields : Fields) : List (String × Tree) :=
  fields.map fun (name, value) => (name, .scalar value)

/-- Fields as an object. -/
def tree (fields : Fields) : Tree := .object (some fields.length) fields.members

theorem fieldEvents_members (fields : Fields) : Tree.fieldEvents fields.members =
    fields.flatMap fun (name, value) => [.field name, .scalar value] := by
  induction fields with
  | nil => rfl
  | cons field fields ih => exact congrArg (.field field.1 :: .scalar field.2 :: ·) ih

theorem events_eq (fields : Fields) : fields.events = fields.tree.events := by
  rw [tree, Tree.events, fieldEvents_members, events]

/-- Scalars are shown as scalars. -/
theorem members_of_shows {set : MaskerSet} {place : Position} {fields : Fields}
    {shown : List (String × Tree)} (h : Tree.ShowsFields set place fields.members shown) :
    ∃ shown' : Fields, shown = shown'.members := by
  induction fields generalizing shown with
  | nil =>
    cases h
    exact ⟨[], rfl⟩
  | cons field fields ih =>
    cases h with
    | masked answer tail =>
      obtain ⟨others, rfl⟩ := ih tail
      exact ⟨(field.1, _) :: others, rfl⟩
    | passed answer head tail =>
      obtain ⟨others, rfl⟩ := ih tail
      cases head
      exact ⟨(field.1, _) :: others, rfl⟩

theorem ofEvents_members (fields : Fields) (rest : List Event) :
    ofEvents none (Tree.fieldEvents fields.members ++ rest) = fields ++ ofEvents none rest := by
  induction fields with
  | nil => rfl
  | cons field fields ih =>
    exact congrArg ((field.1, field.2) :: ·) ih

/-- How the fields of an entry are shown: what is listed of them, and the value that the member
`fields` of a line has. They are replaced all together, or each is shown in its place. -/
inductive ShownAs (set : MaskerSet) (fields : Fields) : Fields → Tree → Prop where
  | replaced {mask : Mask}
      (answer : set.fieldMask (Position.root.inField "fields") = .ok (some mask)) :
    ShownAs set fields [("fields", mask.toScalar)] (.scalar mask.toScalar)
  | listed {shown : Fields}
      (answer : set.fieldMask (Position.root.inField "fields") = .ok none)
      (members : Tree.ShowsFields set (Position.root.inField "fields") fields.members shown.members) :
    ShownAs set fields shown (.object (some fields.length) shown.members)

theorem showsFields_iff {set : MaskerSet} {fields : Fields} {others shown : List (String × Tree)} :
    Tree.ShowsFields set .root (("fields", fields.tree) :: others) shown ↔
      ∃ listed value rest, ShownAs set fields listed value ∧ Tree.ShowsFields set .root others rest ∧
        shown = ("fields", value) :: rest := by
  constructor
  · intro h
    cases h with
    | masked answer tail => exact ⟨_, _, _, .replaced answer, tail, rfl⟩
    | passed answer head tail =>
      cases head with
      | object members =>
        obtain ⟨listed, rfl⟩ := members_of_shows members
        exact ⟨_, _, _, .listed answer members, tail, rfl⟩
  · rintro ⟨listed, value, rest, hshown, hrest, rfl⟩
    cases hshown with
    | replaced answer => exact .masked answer hrest
    | listed answer members => exact .passed answer (.object members) hrest

theorem document_eq (fields : Fields) :
    fields.document = (Tree.object (some 1) [("fields", fields.tree)]).events := by
  rw [document, events_eq]
  simp only [Tree.events, Tree.fieldEvents, List.append_nil, List.cons_append]

/-- What is listed of the events of an object with the one member `fields`, and of passing on. -/
theorem ofEvents_shown {set : MaskerSet} {fields listed : Fields} {value : Tree}
    (h : ShownAs set fields listed value) :
    ofEvents none ((Tree.object (some 1) [("fields", value)]).events ++ [.flush]) = listed := by
  cases h with
  | replaced answer => rfl
  | listed answer members =>
    simp only [Tree.events, Tree.fieldEvents, List.append_nil, List.cons_append, List.append_assoc]
    exact (ofEvents_members _ _).trans (List.append_nil _)

theorem masked_of_shownAs {set : MaskerSet} {fields listed : Fields} {value : Tree}
    (h : ShownAs set fields listed value) : fields.masked set = .ok listed := by
  have hshows : Tree.Shows set .root (.object (some 1) [("fields", fields.tree)])
      (.object (some 1) [("fields", value)]) :=
    .object (showsFields_iff.mpr ⟨_, _, _, h, .nil, rfl⟩)
  rw [masked, document_eq, Masking.start_writeAll_shows Recorder.accepts hshows, Outcome.andThen_ok,
    Recorder.writeAll_eq, Masking.finish_recorder, Recorder.record_record]
  show Except.ok (ofEvents none (Recorder.empty.record _).events.toList) = _
  rw [Recorder.record_events]
  exact congrArg Except.ok (ofEvents_shown h)

/-- **What is listed of fields** is what is shown of them where they are a member of an object. -/
theorem masked_eq_ok {set : MaskerSet} {fields listed : Fields} :
    fields.masked set = .ok listed ↔ ∃ value, ShownAs set fields listed value := by
  constructor
  · intro h
    have hwritten : (Sink.writeAll (Masking.start set Recorder.empty)
        (Tree.object (some 1) [("fields", fields.tree)]).events).2 = .ok () := by
      rw [masked, document_eq] at h
      generalize Sink.writeAll (Masking.start set Recorder.empty) _ = outcome at h ⊢
      obtain ⟨stream, _ | _⟩ := outcome
      · contradiction
      · rfl
    obtain ⟨shown, hshown⟩ := Masking.shows_of_start_writeAll Recorder.accepts hwritten
    cases hshown with
    | object members =>
      obtain ⟨listed', value, rest, hvalue, -, rfl⟩ := showsFields_iff.mp members
      have hlisted := masked_of_shownAs hvalue
      rw [h] at hlisted
      cases hlisted
      exact ⟨value, hvalue⟩
  · rintro ⟨value, h⟩
    exact masked_of_shownAs h

end Fields

/-! ## Lines -/

namespace Span

/-- A span as an object. -/
def tree (span : Span) : Tree :=
  .object (some 2) [("name", .scalar (.string span.name)), ("fields", span.fields.tree)]

theorem events_eq (span : Span) : span.events = span.tree.events := by
  rw [events, span.fields.events_eq, tree]
  simp only [Tree.events, Tree.fieldEvents, List.append_nil, List.cons_append, List.nil_append]

end Span

namespace Entry

/-- The members that a line has for its spans. -/
def spanMembers (spans : List Span) : List (String × Tree) :=
  if spans.isEmpty then [] else [("spans", .array (some spans.length) (spans.map Span.tree))]

theorem itemEvents_spans (spans : List Span) :
    Tree.itemEvents (spans.map Span.tree) = spans.flatMap Span.events := by
  induction spans with
  | nil => rfl
  | cons span spans ih => rw [List.map_cons, Tree.itemEvents, ih, ← span.events_eq]; rfl

theorem spanEvents_eq (spans : List Span) : spanEvents spans = Tree.fieldEvents (spanMembers spans) := by
  rw [spanEvents, spanMembers]
  split
  · rfl
  · simp only [Tree.fieldEvents, Tree.events, itemEvents_spans, List.append_nil, List.cons_append]

/-- The members of a line that are never masked. -/
def openingMembers (entry : Entry) (stamp : String) : List (String × Tree) :=
  [("ts", .scalar (.string stamp)), ("level", .scalar (.string entry.level.name)),
    ("target", .scalar (.string entry.target))]

/-- The members of a line that are masked. -/
def members (entry : Entry) (spans : List Span) : List (String × Tree) :=
  ("fields", entry.fields.tree) :: spanMembers spans

/-- A stream that has been given what opens a line. -/
def opened (entry : Entry) (set : MaskerSet) (stamp : String) : Masking (Writer String) :=
  ⟨set, ⟨"\x7b" ++ Tree.fieldsJson false (entry.openingMembers stamp), [true], false, true⟩,
    Position.root.inObject, 0⟩

theorem line_eq (entry : Entry) (set : MaskerSet) (stamp : String) (spans : List Span) :
    entry.line set stamp spans =
      let (stream, result) := Outcome.andThen
        (Sink.writeAll (entry.opened set stamp)
          (Tree.fieldEvents (entry.members spans) ++ [.endObject])) Masking.finish
      result.map fun () => stream.sink.output ++ "\n" := by
  have hbegun : (Masking.start set (Writer.fresh "")).step (.beginObject none) =
      (⟨set, ⟨"\x7b", [false], false, true⟩, Position.root.inObject, 0⟩, .ok ()) := rfl
  have henvelope : entry.envelope stamp = Tree.fieldEvents (entry.openingMembers stamp) := rfl
  have hmembers : Event.field "fields" :: entry.fields.events ++ spanEvents spans =
      Tree.fieldEvents (entry.members spans) := by
    rw [Fields.events_eq, spanEvents_eq, members, Tree.fieldEvents]
  rw [line, hbegun, hmembers, henvelope]
  simp only [Outcome.andThen_ok, Masking.forwardAll, Writer.writeAll_fields]
  rfl

/-- A line where something is shown of all that is masked in it. -/
theorem line_of_shows {entry : Entry} {set : MaskerSet} {stamp : String} {spans : List Span}
    {shown : List (String × Tree)} (h : Tree.ShowsFields set .root (entry.members spans) shown) :
    entry.line set stamp spans =
      .ok ((Tree.object none (entry.openingMembers stamp ++ shown)).json ++ "\n") := by
  rw [line_eq, opened, Masking.writeAll_members Writer.write_ok h, Sink.writeAll_append,
    Writer.writeAll_fields]
  show Except.ok (_ ++ _ ++ "\x7d" ++ "\n") = _
  rw [Tree.json, Tree.fieldsJson_append]
  simp only [String.append_assoc]
  rfl

/-- **A line** is made exactly if something is shown of all that is masked in it. -/
theorem line_eq_ok {entry : Entry} {set : MaskerSet} {stamp line : String} {spans : List Span} :
    entry.line set stamp spans = .ok line ↔
      ∃ shown, Tree.ShowsFields set .root (entry.members spans) shown ∧
        line = (Tree.object none (entry.openingMembers stamp ++ shown)).json ++ "\n" := by
  constructor
  · intro h
    have hwritten : (Sink.writeAll (entry.opened set stamp)
        (Tree.fieldEvents (entry.members spans) ++ [.endObject])).2 = .ok () := by
      rw [line_eq] at h
      generalize Sink.writeAll (entry.opened set stamp) _ = outcome at h ⊢
      obtain ⟨stream, _ | _⟩ := outcome
      · contradiction
      · rfl
    obtain ⟨shown, hshown⟩ := Masking.members_of_writeAll Writer.write_ok hwritten
    exact ⟨shown, hshown, Except.ok.inj (h.symm.trans (line_of_shows hshown))⟩
  · rintro ⟨shown, hshown, rfl⟩
    exact line_of_shows hshown

end Entry

/-! ## What a line says -/

/-- Fields as a compact JSON object. -/
def Fields.json (fields : Fields) : String :=
  "\x7b" ++ ",".intercalate (fields.map fun (name, value) => Json.quote name ++ ":" ++ value.json) ++
    "\x7d"

/-- A line with such a value of its member `fields`, and something more behind it. -/
def Entry.lineText (entry : Entry) (stamp value more : String) : String :=
  "\x7b\"ts\":" ++ Json.quote stamp ++ ",\"level\":" ++ Json.quote entry.level.name ++
    ",\"target\":" ++ Json.quote entry.target ++ ",\"fields\":" ++ value ++ more ++ "\x7d\n"

/-- What a line has for its spans: nothing if there are none, otherwise a member `spans`, which is
masked as a whole or is the array of what is shown of each span. -/
inductive ShowsSpans (set : MaskerSet) : List Span → String → Prop where
  | none : ShowsSpans set [] ""
  | replaced {spans : List Span} {mask : Mask} (some_span : spans ≠ [])
      (answer : set.fieldMask (Position.root.inField "spans") = .ok (some mask)) :
    ShowsSpans set spans (",\"spans\":" ++ mask.toScalar.json)
  | listed {spans : List Span} {shown : List Tree} (some_span : spans ≠ [])
      (answer : set.fieldMask (Position.root.inField "spans") = .ok none)
      (items : Tree.ShowsItems set (Position.root.inField "spans") 0 (spans.map Span.tree) shown) :
    ShowsSpans set spans (",\"spans\":[" ++ ",".intercalate (shown.map Tree.json) ++ "]")

theorem Fields.members_json (fields : Fields) (hint : Option Nat) :
    (Tree.object hint fields.members).json = fields.json := by
  rw [Tree.json, Tree.fieldsJson_eq_intercalate, json, members, List.map_map]
  rfl

theorem spans_json (value : Tree) :
    Tree.fieldsJson true [("spans", value)] = ",\"spans\":" ++ value.json := by
  have hname : "," ++ Json.quote "spans" ++ ":" = ",\"spans\":" := by decide
  simp only [Tree.fieldsJson, Tree.comma, if_true, hname, String.append_empty]

theorem showsSpans_of_members {set : MaskerSet} {spans : List Span} {shown : List (String × Tree)}
    (h : Tree.ShowsFields set .root (Entry.spanMembers spans) shown) :
    ShowsSpans set spans (Tree.fieldsJson true shown) := by
  cases spans with
  | nil =>
    cases h
    exact .none
  | cons span spans =>
    have some_span := List.cons_ne_nil span spans
    cases h with
    | masked answer tail =>
      cases tail
      rw [spans_json]
      exact .replaced some_span answer
    | passed answer head tail =>
      cases tail
      cases head with
      | array items =>
        rw [spans_json, Tree.json, Tree.itemsJson_eq_intercalate]
        simp only [← String.append_assoc]
        exact .listed some_span answer items

/-- The text of a line is that of its members. -/
theorem Entry.lineText_eq (entry : Entry) (stamp : String) (value : Tree)
    (rest : List (String × Tree)) :
    (Tree.object none (entry.openingMembers stamp ++ ("fields", value) :: rest)).json ++ "\n" =
      entry.lineText stamp value.json (Tree.fieldsJson true rest) := by
  have hts : "\x7b" ++ Json.quote "ts" ++ ":" = "\x7b\"ts\":" := by decide
  have hlevel : "," ++ Json.quote "level" ++ ":" = ",\"level\":" := by decide
  have htarget : "," ++ Json.quote "target" ++ ":" = ",\"target\":" := by decide
  have hfields : "," ++ Json.quote "fields" ++ ":" = ",\"fields\":" := by decide
  have hend : "\x7d\n" = "\x7d" ++ "\n" := by decide
  unfold lineText
  rw [← hts, ← hlevel, ← htarget, ← hfields, hend]
  simp only [Tree.json, openingMembers, List.cons_append, List.nil_append, Tree.fieldsJson, Tree.comma,
    Scalar.json, if_true, Bool.false_eq_true, if_false, String.empty_append, String.append_assoc]

/-- **Both formats show the same fields.** If an entry has a line, its fields can be listed as well,
and the line consists of its time, its level and its target, which nothing masks, the fields as they
are listed or the one mask that replaces them all, and its spans. An entry without spans has a line
exactly if its fields can be listed. -/
theorem Entry.line_shows_listed_fields (entry : Entry) (set : MaskerSet) (stamp : String)
    (spans : List Span) :
    (∀ line, entry.line set stamp spans = .ok line →
      ∃ listed value more, entry.fields.masked set = .ok listed ∧
        line = entry.lineText stamp value more ∧
        (set.fieldMask (Position.root.inField "fields") = .ok none ∧ value = listed.json ∨
          ∃ mask, set.fieldMask (Position.root.inField "fields") = .ok (some mask) ∧
            listed = [("fields", mask.toScalar)] ∧ value = mask.toScalar.json) ∧
        ShowsSpans set spans more) ∧
    ((∃ line, entry.line set stamp [] = .ok line) ↔ ∃ listed, entry.fields.masked set = .ok listed) := by
  refine ⟨fun line h => ?_, ?_, ?_⟩
  · obtain ⟨shown, hshown, rfl⟩ := line_eq_ok.mp h
    obtain ⟨listed, value, rest, hfields, hrest, rfl⟩ := Fields.showsFields_iff.mp hshown
    refine ⟨listed, value.json, Tree.fieldsJson true rest, Fields.masked_of_shownAs hfields,
      entry.lineText_eq stamp value rest, ?_, showsSpans_of_members hrest⟩
    cases hfields with
    | replaced answer => exact .inr ⟨_, answer, rfl, rfl⟩
    | listed answer members => exact .inl ⟨answer, Fields.members_json ..⟩
  · rintro ⟨line, h⟩
    obtain ⟨shown, hshown, -⟩ := line_eq_ok.mp h
    obtain ⟨listed, value, -, hfields, -⟩ := Fields.showsFields_iff.mp hshown
    exact ⟨listed, Fields.masked_of_shownAs hfields⟩
  · rintro ⟨listed, h⟩
    obtain ⟨value, hvalue⟩ := Fields.masked_eq_ok.mp h
    have hshown : Tree.ShowsFields set .root (entry.members []) [("fields", value)] :=
      Fields.showsFields_iff.mpr ⟨listed, value, [], hvalue, .nil, rfl⟩
    exact ⟨_, line_of_shows hshown⟩

/-- A rule that names the time does not reach it, and a field of that name it does. -/
theorem Entry.line_shows_masked_field :
    let set : MaskerSet := { fieldMaskers := [.names ⟨["ts", "pin"], .null⟩] }
    let entry : Entry := ⟨.warn, "app", [("pin", .integer 7), ("message", .string "in")]⟩
    let spans : List Span := [⟨"job", ["ts"], [("ts", .bool true)]⟩]
    ∃ line listed value more, entry.line set "now" spans = .ok line ∧
      entry.fields.masked set = .ok listed ∧ line = entry.lineText "now" value more ∧
      value = listed.json ∧ ShowsSpans set spans more := by
  intro set entry spans
  have hline : entry.line set "now" spans = .ok (entry.lineText "now"
      "\x7b\"pin\":null,\"message\":\"in\"\x7d"
      ",\"spans\":[\x7b\"name\":\"job\",\"fields\":\x7b\"ts\":null\x7d\x7d]") :=
    ok_of_toOption (by decide +kernel)
  obtain ⟨listed, value, more, hlisted, htext, hvalue, hspans⟩ :=
    (line_shows_listed_fields entry set "now" spans).1 _ hline
  refine ⟨_, listed, value, more, hline, hlisted, htext, ?_, hspans⟩
  have hpassed : set.fieldMask (Position.root.inField "fields") = .ok none := rfl
  rcases hvalue with ⟨-, hvalue⟩ | ⟨mask, hmask, -⟩
  · exact hvalue
  · rw [hpassed] at hmask
    cases hmask

/-- The spans are not always an array: a rule that names `spans` replaces them as any other field. -/
theorem Entry.spans_not_array :
    let set : MaskerSet := { fieldMaskers := [.names ⟨["spans"], .standard⟩] }
    let entry : Entry := ⟨.info, "app", []⟩
    let spans : List Span := [⟨"job", [], []⟩]
    entry.line set "now" spans = .ok (entry.lineText "now" "\x7b\x7d" ",\"spans\":\"****\"") ∧
      ∀ value items : String,
        entry.line set "now" spans ≠ .ok (entry.lineText "now" value (",\"spans\":[" ++ items ++ "]")) := by
  intro set entry spans
  have hline : entry.line set "now" spans =
      .ok (entry.lineText "now" "\x7b\x7d" ",\"spans\":\"****\"") := ok_of_toOption (by decide +kernel)
  refine ⟨hline, fun value items h => ?_⟩
  rw [hline] at h
  unfold lineText at h
  -- The third character from the end tells a text from an array.
  have hthird := congrArg (fun text => text.toList.reverse[2]?) (Except.ok.inj h)
  simp at hthird

end Log
end StreamMask
