/-
A journal, line by line.

For every entry that a journal is told of, a whole line is written or the entry is counted
as dropped: each happening keeps these books (`Journal.Accounts.take`), and so does every
run. A line is a JSON object and a line end behind it. No control character that a program
records is written as it is, so a line begins only where another one has ended.
-/
import StreamMask.Log.Journal
import StreamMask.Proofs.LineSplitting
import StreamMask.Proofs.LogLines

namespace StreamMask.Log

open Json

/-! ## What is recorded -/

/-- The values that a program can record. -/
inductive Recordable : Scalar → Prop where
  | text (text : String) : Recordable (.string text)
  | integer (value : Int64) : Recordable (.integer value)
  | natural (value : UInt64) : Recordable (.ofNat value.toNat)
  | float (value : Binary64) : Recordable (.float value)
  | bool (value : Bool) : Recordable (.bool value)

theorem Recordable.legible {value : Scalar} (h : Recordable value) : value.Legible := by
  cases h with
  | natural value =>
    rw [← ofNumeral_ofNat]
    exact Scalar.legible_ofNumeral (Numeral.ofInt_valid _)
  | text | integer | float | bool => trivial

/-- Whether all values that a journal is told of can be recorded. -/
def Happening.Recorded : Happening → Prop
  | .created _ _ fields => ∀ field ∈ fields, ∀ value, field.2 = some value → Recordable value
  | .recorded _ values => ∀ field ∈ values, Recordable field.2
  | .logged _ entry _ => ∀ field ∈ entry.fields, Recordable field.2
  | .entered _ | .exited _ => True

/-- Whether all values of fields are legible. -/
def Fields.Legible (fields : Fields) : Prop := ∀ field ∈ fields, field.2.Legible

namespace Fields

theorem Legible.update {fields : Fields} {name : String} {value : Scalar} (h : fields.Legible)
    (hvalue : value.Legible) : Legible (update name value fields) := by
  induction fields with
  | nil => exact List.forall_mem_singleton.mpr hvalue
  | cons field fields ih =>
    obtain ⟨hfield, hfields⟩ := List.forall_mem_cons.mp h
    rw [Fields.update]
    split
    · exact List.forall_mem_cons.mpr ⟨hvalue, hfields⟩
    · exact List.forall_mem_cons.mpr ⟨hfield, ih hfields⟩

theorem Legible.merge {fields updates : Fields} (h : fields.Legible) (hupdates : updates.Legible) :
    (fields.merge updates).Legible := by
  induction updates generalizing fields with
  | nil => exact h
  | cons field updates ih =>
    obtain ⟨hfield, hothers⟩ := List.forall_mem_cons.mp hupdates
    exact ih (h.update hfield) hothers

theorem Legible.members {fields : Fields} (h : fields.Legible) :
    Tree.FieldsLegible fields.members := by
  induction fields with
  | nil => trivial
  | cons field fields ih =>
    obtain ⟨hfield, hfields⟩ := List.forall_mem_cons.mp h
    exact ⟨hfield, ih hfields⟩

end Fields

theorem Span.record_legible {span : Span} {values : Fields} (h : span.fields.Legible)
    (hvalues : values.Legible) : (span.record values).fields.Legible := by
  refine h.merge fun field hfield => ?_
  obtain ⟨name, -, hfound⟩ := List.mem_flatMap.mp hfield
  exact hvalues field (List.mem_filter.mp hfound).1

/-! ## Lines -/

/-- Whether a text is a JSON object on one line, without control characters. -/
def IsObject (text : String) : Prop :=
  (∃ fields : List (Option String × Value),
    SpellsElement (.object fields) text.toList ∧ (Value.object fields).Sound) ∧
  ∀ byte ∈ text.toUTF8.data, 0x20 ≤ byte

/-- The JSON of a legible object is an object on one line. -/
theorem isObject_json {hint : Option Nat} {fields : List (String × Tree)} (hne : fields ≠ [])
    (h : Tree.FieldsLegible fields) : IsObject (Tree.object hint fields).json := by
  obtain ⟨values, hspells, hsound, -, hvisible⟩ := Tree.prints_fields fields hne h
  have hjson := Tree.object_json hint fields
  refine ⟨⟨values, ?_, hsound⟩, Visible.bytes ?_⟩
  · rw [hjson]
    exact (Spells.object hspells).element
  · rw [hjson]
    exact hvisible.bracket (by decide)

theorem itemsLegible_spans {spans : List Span} (h : ∀ span ∈ spans, span.fields.Legible) :
    Tree.ItemsLegible (spans.map Span.tree) := by
  induction spans with
  | nil => trivial
  | cons span spans ih =>
    obtain ⟨hspan, hspans⟩ := List.forall_mem_cons.mp h
    exact ⟨⟨trivial, hspan.members, trivial⟩, ih hspans⟩

/-- **A line is one JSON object and the line end behind it**, whatever the fields hold. -/
theorem Entry.line_isObject {entry : Entry} {set : MaskerSet} {stamp line : String} {spans : List Span}
    (hentry : entry.fields.Legible) (hspans : ∀ span ∈ spans, span.fields.Legible)
    (h : entry.line set stamp spans = .ok line) : ∃ body, line = body ++ "\n" ∧ IsObject body := by
  obtain ⟨shown, hshown, rfl⟩ := line_eq_ok.mp h
  have hmembers : Tree.FieldsLegible (entry.members spans) := by
    refine ⟨hentry.members, ?_⟩
    rw [spanMembers]
    split
    · trivial
    · exact ⟨itemsLegible_spans hspans, trivial⟩
  exact ⟨_, rfl, isObject_json (List.cons_ne_nil _ _) ⟨trivial, trivial, trivial, hshown.legible hmembers⟩⟩

theorem bytes_append (text other : String) : (text ++ other).toUTF8.data.toList =
    text.toUTF8.data.toList ++ other.toUTF8.data.toList := by
  simp only [Text.toUTF8_toList, String.toList_append, Text.encode_append]

/-- No line feed and no carriage return is written inside an object. -/
theorem IsObject.not_mem {body : String} (h : IsObject body) {byte : UInt8} (hbyte : byte < 0x20) :
    byte ∉ body.toUTF8.data.toList :=
  fun hmem => absurd (h.2 byte (Array.mem_toList_iff.mp hmem)) (UInt8.not_le.mpr hbyte)

/-- The lines that are written are those that the bytes consist of. -/
theorem ofBytes_bodies {bodies : List String} (h : ∀ body ∈ bodies, IsObject body) :
    Lines.ofBytes (bodies.flatMap fun body => body.toUTF8.data.toList ++ [10]) =
      bodies.map fun body => body.toUTF8.data.toList := by
  induction bodies with
  | nil => rfl
  | cons body bodies ih =>
    obtain ⟨hbody, hbodies⟩ := List.forall_mem_cons.mp h
    have hchomp : Lines.chomp body.toUTF8.data.toList = body.toUTF8.data.toList := by
      rw [Lines.chomp, if_neg]
      exact fun hlast => hbody.not_mem (by decide) (List.mem_of_getLast? hlast)
    rw [List.flatMap_cons, Lines.ofBytes_append List.getLast?_concat, Lines.ofBytes_ended,
      List.splitOn_eq_singleton (hbody.not_mem (by decide)), ih hbodies, List.map_singleton, hchomp]
    rfl

/-! ## Books -/

namespace Journal

/-- What comes of the line of an entry, if the journal is told of one. -/
def result? (journal : Journal) : Happening → Option (Except Failure String)
  | .logged stamp entry scope => some (entry.line journal.set stamp (journal.find scope))
  | .created .. | .recorded .. | .entered _ | .exited _ => none

/-- Tell the journal several things. -/
def takeAll (journal : Journal) (happenings : List Happening) : Journal :=
  happenings.foldl take journal

/-- What comes of the lines of the entries among several things, in their order. -/
def results (journal : Journal) : List Happening → List (Except Failure String)
  | [] => []
  | happening :: happenings =>
    (journal.result? happening).toList ++ (journal.take happening).results happenings

/-- Whether a journal has written the lines that came of entries, each a whole one, and has counted
those entries that nothing came of. -/
structure Accounts (journal : Journal) (results : List (Except Failure String)) : Prop where
  known : ∀ named ∈ journal.known, named.2.fields.Legible
  lines : journal.lines = results.filterMap Except.toOption
  whole : ∀ line ∈ journal.lines, ∃ body, line = body ++ "\n" ∧ IsObject body
  dropped : journal.dropped = results.countP fun result => !result.isOk

variable {journal : Journal} {results : List (Except Failure String)}

theorem find_legible (h : ∀ named ∈ journal.known, named.2.fields.Legible) (ids : List Nat) :
    ∀ span ∈ journal.find ids, span.fields.Legible := by
  intro span hspan
  obtain ⟨id, -, hlookup⟩ := List.mem_filterMap.mp hspan
  obtain ⟨later, earlier, hknown, -⟩ := List.lookup_eq_some_iff.mp hlookup
  refine h (id, span) ?_
  rw [hknown]
  exact List.mem_append_right later List.mem_cons_self

/-- **One happening** keeps the books. -/
theorem Accounts.take (h : journal.Accounts results) {happening : Happening}
    (hrecorded : happening.Recorded) :
    (journal.take happening).Accounts (results ++ (journal.result? happening).toList) := by
  cases happening with
  | created id name fields =>
    rw [result?, Option.toList_none, List.append_nil]
    refine ⟨List.forall_mem_cons.mpr ⟨fun field hfield => ?_, h.known⟩, h.lines, h.whole, h.dropped⟩
    obtain ⟨declared, hdeclared, hvalue⟩ := List.mem_filterMap.mp hfield
    obtain ⟨value, hsome, rfl⟩ := Option.map_eq_some_iff.mp hvalue
    exact (hrecorded declared hdeclared value hsome).legible
  | recorded id values =>
    rw [result?, Option.toList_none, List.append_nil]
    refine ⟨fun named hnamed => ?_, h.lines, h.whole, h.dropped⟩
    obtain ⟨before, hbefore, rfl⟩ := List.mem_map.mp hnamed
    dsimp only
    split
    · exact Span.record_legible (h.known before hbefore) fun field hfield =>
        (hrecorded field hfield).legible
    · exact h.known before hbefore
  | entered id | exited id =>
    rw [result?, Option.toList_none, List.append_nil]
    exact ⟨h.known, h.lines, h.whole, h.dropped⟩
  | logged stamp entry scope =>
    have hentry : entry.fields.Legible := fun field hfield => (hrecorded field hfield).legible
    rw [result?, Option.toList_some, Journal.take]
    cases hline : entry.line journal.set stamp (journal.find scope) with
    | ok line =>
      have hwhole := Entry.line_isObject hentry (find_legible h.known scope) hline
      refine ⟨h.known, ?_, ?_, ?_⟩
      · rw [List.filterMap_append, ← h.lines]
        rfl
      · exact List.forall_mem_append.mpr ⟨h.whole, List.forall_mem_singleton.mpr hwhole⟩
      · rw [List.countP_append, ← h.dropped]
        rfl
    | error failure =>
      refine ⟨h.known, ?_, h.whole, ?_⟩
      · rw [List.filterMap_append, ← h.lines]
        exact (List.append_nil _).symm
      · rw [List.countP_append, ← h.dropped]
        rfl

/-- **Any happenings** keep the books. -/
theorem Accounts.takeAll (h : journal.Accounts results) {happenings : List Happening}
    (hrecorded : ∀ happening ∈ happenings, happening.Recorded) :
    (journal.takeAll happenings).Accounts (results ++ journal.results happenings) := by
  induction happenings generalizing journal results with
  | nil =>
    rw [Journal.results, List.append_nil]
    exact h
  | cons happening happenings ih =>
    obtain ⟨hfirst, hothers⟩ := List.forall_mem_cons.mp hrecorded
    rw [Journal.results, ← List.append_assoc]
    exact ih (h.take hfirst) hothers

theorem start_accounts (set : MaskerSet) : (start set).Accounts [] :=
  ⟨List.forall_mem_nil _, rfl, List.forall_mem_nil _, rfl⟩

theorem Accounts.written (h : journal.Accounts results) :
    ∃ bodies : List String, results.filterMap Except.toOption = bodies.map (· ++ "\n") ∧
      (∀ body ∈ bodies, IsObject body) ∧
      journal.written = bodies.flatMap fun body => body.toUTF8.data.toList ++ [10] := by
  obtain ⟨-, hlines, hwhole, -⟩ := h
  rw [← hlines, Journal.written]
  generalize journal.lines = lines at hwhole
  induction lines with
  | nil => exact ⟨[], rfl, List.forall_mem_nil _, rfl⟩
  | cons line lines ih =>
    obtain ⟨⟨body, rfl, hbody⟩, hothers⟩ := List.forall_mem_cons.mp hwhole
    obtain ⟨bodies, rfl, hbodies, hbytes⟩ := ih hothers
    refine ⟨body :: bodies, rfl, List.forall_mem_cons.mpr ⟨hbody, hbodies⟩, ?_⟩
    rw [List.flatMap_cons, List.flatMap_cons, hbytes, bytes_append]
    rfl

/-! ## Runs -/

theorem take_set (journal : Journal) (happening : Happening) :
    (journal.take happening).set = journal.set := by
  cases happening with
  | logged stamp entry scope =>
    rw [take]
    split <;> rfl
  | created | recorded | entered | exited => rfl

theorem takeAll_set (journal : Journal) (happenings : List Happening) :
    (journal.takeAll happenings).set = journal.set := by
  induction happenings generalizing journal with
  | nil => rfl
  | cons happening happenings ih => exact (ih (journal.take happening)).trans (journal.take_set happening)

/-- **Every entry has one whole line, or is counted as dropped.** After any happenings, whatever is
masked and whichever maskers fail, the bytes that have been written are one line after the other for
the entries whose lines could be made, in their order. Each of these lines is a JSON object and a line
end, and no other lines are found in the bytes: whatever is recorded, it begins no line of its own.
All other entries are counted, and such an entry changes nothing but the count. -/
theorem whole_lines_or_dropped (set : MaskerSet) (happenings : List Happening)
    (hrecorded : ∀ happening ∈ happenings, happening.Recorded) :
    let after := (start set).takeAll happenings
    let results := (start set).results happenings
    (∃ bodies : List String, results.filterMap Except.toOption = bodies.map (· ++ "\n") ∧
      (∀ body ∈ bodies, IsObject body) ∧
      after.written = (bodies.flatMap fun body => body.toUTF8.data.toList ++ [10]) ∧
      Lines.split [] after.written = bodies.map fun body => body.toUTF8.data.toList) ∧
    after.dropped = (results.countP fun result => !result.isOk) ∧
    ∀ stamp entry scope failure, entry.line set stamp (after.find scope) = .error failure →
      after.take (.logged stamp entry scope) = { after with dropped := after.dropped + 1 } := by
  intro after results
  have haccounts : after.Accounts results := (start_accounts set).takeAll hrecorded
  obtain ⟨bodies, hlines, hbodies, hbytes⟩ := haccounts.written
  refine ⟨⟨bodies, hlines, hbodies, hbytes, ?_⟩, haccounts.dropped, ?_⟩
  · rw [Lines.split_eq, hbytes, ofBytes_bodies hbodies]
  · intro stamp entry scope failure hfails
    have hset : after.set = set := takeAll_set (start set) happenings
    rw [take, hset, hfails]

/-- An entry in a span, a message with line ends in it, and a masker that fails of one of the spans'
fields, before and after it is recorded. -/
theorem whole_lines_or_dropped_lookup :
    let fails : FieldMasker := .custom fun place =>
      if place.pointer = "/spans/0/fields/key" then .error (.masker "lookup failed") else .ok none
    let happenings : List Happening :=
      [.created 7 "job" [("key", none)], .entered 7,
        .logged "now" ⟨.info, "app", [("message", .string "a\n\"b\u0001")]⟩ [7],
        .recorded 7 [("key", .ofNat 18446744073709551615)],
        .logged "now" ⟨.info, "app", []⟩ [7], .exited 7]
    let after := (start { fieldMaskers := [fails] }).takeAll happenings
    after.dropped = 1 ∧ ∃ bodies : List String, bodies.length = 1 ∧
      (∀ body ∈ bodies, IsObject body) ∧
      Lines.split [] after.written = bodies.map fun body => body.toUTF8.data.toList := by
  intro fails happenings after
  have hrecorded : ∀ happening ∈ happenings, happening.Recorded := by
    have hkey : Recordable (.ofNat 18446744073709551615) := .natural 18446744073709551615
    simp [happenings, Happening.Recorded, Recordable.text, hkey]
  obtain ⟨⟨bodies, hresults, hbodies, -, hsplit⟩, hdropped, -⟩ :=
    whole_lines_or_dropped { fieldMaskers := [fails] } happenings hrecorded
  refine ⟨hdropped.trans (by decide +kernel), bodies, ?_, hbodies, hsplit⟩
  rw [← List.length_map (f := (· ++ "\n")), ← hresults]
  decide +kernel

end Journal

end StreamMask.Log
