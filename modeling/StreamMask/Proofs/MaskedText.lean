/-
Masking of whole texts.

A text is masked if it is a document in which every string says something, and if
something is shown of its tree; then it comes out as the JSON of what is shown
(`maskText_eq_ok`). With maskers that do not fail that is so of all these documents:
nothing that is read from a text can fail to nest. The masked text is one line, and
read again it gives the events that were emitted, as far as JSON can write them.
-/
import StreamMask.Proofs.ShownTrees
import StreamMask.Proofs.UnfailingMaskers
import StreamMask.Proofs.Utf8Facts

namespace StreamMask

open Json

/-! ## Maskers that do not fail -/

namespace Tree

variable {set : MaskerSet}

mutual

/-- **With maskers that do not fail, something is shown of every tree.** -/
theorem exists_shows (hset : set.NeverFails) (place : Position) (tree : Tree) :
    ∃ shown, Shows set place tree shown := by
  match tree with
  | scalar value =>
    obtain ⟨masked, hmasked⟩ := hset.maskScalar_isOk place value
    exact ⟨_, .scalar hmasked⟩
  | array hint items =>
    obtain ⟨shown, hshown⟩ := exists_showsItems hset place 0 items
    exact ⟨_, .array hshown⟩
  | object hint fields =>
    obtain ⟨shown, hshown⟩ := exists_showsFields hset place fields
    exact ⟨_, .object hshown⟩

theorem exists_showsItems (hset : set.NeverFails) (place : Position) (index : Nat)
    (items : List Tree) : ∃ shown, ShowsItems set place index items shown := by
  match items with
  | [] => exact ⟨[], .nil⟩
  | item :: items =>
    obtain ⟨first, hfirst⟩ := exists_shows hset (place.inItem index) item
    obtain ⟨others, hothers⟩ := exists_showsItems hset place (index + 1) items
    exact ⟨_, .cons hfirst hothers⟩

theorem exists_showsFields (hset : set.NeverFails) (place : Position)
    (fields : List (String × Tree)) : ∃ shown, ShowsFields set place fields shown := by
  match fields with
  | [] => exact ⟨[], .nil⟩
  | (name, value) :: fields =>
    obtain ⟨others, hothers⟩ := exists_showsFields hset place fields
    obtain ⟨answer, hanswer⟩ := hset.fieldMask_ok (place.inField name)
    cases answer with
    | some mask => exact ⟨_, .masked hanswer hothers⟩
    | none =>
      obtain ⟨first, hfirst⟩ := exists_shows hset (place.inField name) value
      exact ⟨_, .passed hanswer hfirst hothers⟩

end

end Tree

/-! ## Documents as trees -/

namespace Json

mutual

/-- **The tree of a document is legible**: its numbers are worth what they say. -/
theorem Spells.legible {value : Value} {text : List Char} (h : Spells value text) :
    value.tree.Legible := by
  match h with
  | .null => trivial
  | .bool value => trivial
  | .number valid => exact Scalar.legible_ofNumeral valid
  | .string valid => trivial
  | .emptyArray blanks => trivial
  | .array spells => exact spells.legible
  | .emptyObject blanks => trivial
  | .object spells => exact spells.legible

theorem SpellsElement.legible {value : Value} {text : List Char} (h : SpellsElement value text) :
    value.tree.Legible := by
  match h with
  | .padded _ spells _ => exact spells.legible

theorem SpellsItems.legible {items : List Value} {text : List Char} (h : SpellsItems items text) :
    Tree.ItemsLegible (Value.itemTrees items) := by
  match h with
  | .last spells => exact ⟨spells.legible, trivial⟩
  | .more spells others => exact ⟨spells.legible, others.legible⟩

theorem SpellsField.legible {field : Option String × Value} {text : List Char}
    (h : SpellsField field text) : field.2.tree.Legible := by
  match h with
  | .named _ _ _ spells => exact spells.legible

theorem SpellsFields.legible {fields : List (Option String × Value)} {text : List Char}
    (h : SpellsFields fields text) : Tree.FieldsLegible (Value.fieldTrees fields) := by
  match h with
  | .last spells => exact ⟨spells.legible, trivial⟩
  | .more spells others => exact ⟨spells.legible, others.legible⟩

end

end Json

/-! ## Streams -/

theorem Recorder.writeAll_eq (recorder : Recorder) (events : List Event) :
    Sink.writeAll recorder events = (recorder.record events, .ok ()) := by
  induction events generalizing recorder with
  | nil => rw [record_nil]; rfl
  | cons event events ih =>
    rw [Sink.writeAll_cons, write_eq_record, Outcome.andThen_ok, ih, record_record]
    rfl

theorem Masking.finish_start (set : MaskerSet) (writer : Writer String) :
    finish (start set writer) = (start set writer, .ok ()) := rfl

/-! ## Bytes -/

theorem Json.Visible.bytes {text : String} (h : Visible text.toList) :
    ∀ byte ∈ text.toUTF8.data, 0x20 ≤ byte := by
  intro byte hbyte
  rw [← Array.mem_toList_iff, Text.toUTF8_toList, Text.encode, List.mem_flatMap] at hbyte
  obtain ⟨c, hc, hbyte⟩ := hbyte
  exact UInt8.le_iff_toNat_le.mpr (Text.le_of_mem_utf8EncodeChar (by decide) (h c hc) byte hbyte)

/-! ## Whole texts -/

/-- Whether a text is a document in which every string says something. -/
def Json.IsDocument (text : String) : Prop :=
  ∃ value : Value, SpellsElement value text.toList ∧ value.Sound

/-- The JSON of a legible tree is read as its events. -/
theorem Json.replayText_json {tree : Tree} (h : tree.Legible) (recorder : Recorder) :
    replayText tree.json recorder = (recorder.record (tree.events.map Event.plain), .ok ()) := by
  rw [replayText_printed h, Recorder.writeAll_eq]

variable {set : MaskerSet} {text out : String}

/-- A text that is written to every sink as a tree is masked as what is shown of the tree. -/
theorem maskText_of_shows {tree shown : Tree}
    (htext : ∀ stream : Masking (Writer String),
      replayText text stream = Sink.writeAll stream tree.events)
    (h : tree.Shows set .root shown) : maskText set text = .ok shown.json := by
  rw [maskText, htext, Masking.start_writeAll_shows Writer.write_ok h, Outcome.andThen_ok,
    Masking.finish_start, Writer.writeAll_tree]
  show Except.ok ("" ++ "" ++ shown.json) = _
  rw [String.empty_append, String.empty_append]

/-- **A text is masked exactly if it is a document of which something is shown**, and then comes out
as the JSON of that. -/
theorem maskText_eq_ok : maskText set text = .ok out ↔
    ∃ value : Value, ∃ shown : Tree, SpellsElement value text.toList ∧ value.Sound ∧
      value.tree.Shows set .root shown ∧ out = shown.json := by
  constructor
  · intro h
    have hreplayed : (replayText text (Masking.start set (Writer.fresh ""))).2 = .ok () := by
      rw [maskText] at h
      generalize replayText text (Masking.start set (Writer.fresh "")) = outcome at h ⊢
      obtain ⟨stream, _ | _⟩ := outcome
      · contradiction
      · rfl
    obtain ⟨value, hspells, hsound⟩ := document_of_replayText hreplayed
    rw [replayText_sound hspells hsound] at hreplayed
    obtain ⟨shown, hshown⟩ := Masking.shows_of_start_writeAll Writer.write_ok hreplayed
    have hout := maskText_of_shows (fun stream => replayText_sound hspells hsound stream) hshown
    rw [h] at hout
    exact ⟨value, shown, hspells, hsound, hshown, Except.ok.inj hout⟩
  · rintro ⟨value, shown, hspells, hsound, hshown, rfl⟩
    exact maskText_of_shows (fun stream => replayText_sound hspells hsound stream) hshown

/-- A masked text holds no control characters. -/
theorem maskText_visible (h : maskText set text = .ok out) : Visible out.toList := by
  obtain ⟨value, shown, hspells, -, hshown, rfl⟩ := maskText_eq_ok.mp h
  obtain ⟨-, -, -, -, hvisible⟩ := shown.prints (hshown.legible hspells.legible)
  exact hvisible

/-- A document comes out as the JSON of the tree that is emitted for it. -/
theorem maskText_of_document (hset : set.NeverFails) (h : IsDocument text) :
    ∃ shown : Tree, shown.Legible ∧ maskText set text = .ok shown.json ∧
      replayText text (Masking.start set Recorder.empty) =
        (Masking.start set (Recorder.empty.record shown.events), .ok ()) := by
  obtain ⟨value, hspells, hsound⟩ := h
  obtain ⟨shown, hshown⟩ := value.tree.exists_shows hset .root
  have hmasked : maskText set text = .ok shown.json :=
    maskText_of_shows (fun stream => replayText_sound hspells hsound stream) hshown
  refine ⟨shown, hshown.legible hspells.legible, hmasked, ?_⟩
  rw [replayText_sound hspells hsound, Masking.start_writeAll_shows Recorder.accepts hshown,
    Recorder.writeAll_eq]

/-- What is no such document fails as one, whatever is masked. -/
theorem maskText_of_not_document (hset : set.NeverFails) (h : ¬IsDocument text) :
    ∃ fault, maskText set text = .error (.json fault) := by
  have hfails : ∃ stream fault, replayText text (Masking.start set (Writer.fresh "")) =
      (stream, .error (.json fault)) := by
    by_cases hspells : ∃ value, SpellsElement value text.toList
    · obtain ⟨value, hspells⟩ := hspells
      have hunsound : ¬value.Sound := fun hsound => h ⟨value, hspells, hsound⟩
      obtain ⟨shown, hshown⟩ := value.tree.exists_shows hset .root
      have hwritten := Masking.start_writeAll_shows Writer.write_ok hshown (Writer.fresh "")
      exact replayText_unsound hspells hunsound _ (congrArg Prod.snd hwritten)
    · obtain ⟨fault, hfault⟩ := replayText_malformed hspells (Masking.start set (Writer.fresh ""))
      exact ⟨_, fault, hfault⟩
  obtain ⟨stream, fault, hfault⟩ := hfails
  refine ⟨fault, ?_⟩
  rw [maskText, hfault]
  rfl

/-- **Just the documents are masked, and what comes out is read as what was emitted.** With maskers
that do not fail, a text is masked if it is a document in which every string says something, and
otherwise fails as JSON. The masked text has no control characters, and its events are those that
are emitted for the text, as far as JSON can write them. -/
theorem maskText_masks_documents (set : MaskerSet) (hset : set.NeverFails) (text : String) :
    ((∃ out, maskText set text = .ok out) ↔ IsDocument text) ∧
      (∀ failure, maskText set text = .error failure → ∃ fault, failure = .json fault) ∧
      ∀ out, maskText set text = .ok out →
        (∀ byte ∈ out.toUTF8.data, 0x20 ≤ byte) ∧
        ∃ emitted : List Event,
          replayText text (Masking.start set Recorder.empty) =
            (Masking.start set (Recorder.empty.record emitted), .ok ()) ∧
          replayText out Recorder.empty =
            (Recorder.empty.record (emitted.map Event.plain), .ok ()) := by
  by_cases hdocument : IsDocument text
  · obtain ⟨shown, hlegible, hmasked, hemitted⟩ := maskText_of_document hset hdocument
    refine ⟨⟨fun _ => hdocument, fun _ => ⟨_, hmasked⟩⟩, fun failure hfailure => ?_,
      fun out hout => ?_⟩
    · rw [hmasked] at hfailure
      contradiction
    · rw [hmasked] at hout
      cases hout
      obtain ⟨-, -, -, -, hvisible⟩ := shown.prints hlegible
      exact ⟨hvisible.bytes, shown.events, hemitted, replayText_json hlegible Recorder.empty⟩
  · obtain ⟨fault, hfault⟩ := maskText_of_not_document hset hdocument
    refine ⟨⟨fun ⟨out, hout⟩ => ?_, fun h => absurd h hdocument⟩, fun failure hfailure => ?_,
      fun out hout => ?_⟩
    · rw [hfault] at hout
      contradiction
    · rw [hfault] at hfailure
      cases hfailure
      exact ⟨fault, rfl⟩
    · rw [hfault] at hout
      contradiction

/-- A field is masked whatever its value is, and a float that a masker makes infinite is read again as
null. -/
theorem maskText_masks_list :
    let set : MaskerSet := {
      fieldMaskers := [.names ⟨["pin"], .string "***"⟩]
      valueMaskers := [.custom fun _ value =>
        .ok (if value.kind = "float" then some (.float (.infinity false)) else none)] }
    let text := " [\x7b\"pin\": [1, 2]\x7d, 3.5, \"\\ud83d\\ude00\"] "
    set.NeverFails ∧ IsDocument text ∧
      ∃ emitted : List Event,
        replayText text (Masking.start set Recorder.empty) =
          (Masking.start set (Recorder.empty.record emitted), .ok ()) ∧
        replayText "[\x7b\"pin\":\"***\"\x7d,null,\"😀\"]" Recorder.empty =
          (Recorder.empty.record (emitted.map Event.plain), .ok ()) := by
  intro set text
  have hset : set.NeverFails := by
    refine ⟨fun decide h => ?_, fun decide h => ?_⟩
    · simp [set] at h
    · have hdecide := List.mem_singleton.mp h
      cases hdecide
      exact fun _ _ _ h => nomatch h
  have hout : maskText set text = .ok "[\x7b\"pin\":\"***\"\x7d,null,\"😀\"]" := by
    have hsome : (maskText set text).toOption = some "[\x7b\"pin\":\"***\"\x7d,null,\"😀\"]" := by
      decide +kernel
    cases hmasked : maskText set text with
    | error failure => rw [hmasked] at hsome; contradiction
    | ok out => rw [hmasked] at hsome; exact congrArg Except.ok (Option.some.inj hsome)
  obtain ⟨hiff, -, hread⟩ := maskText_masks_documents set hset text
  exact ⟨hset, hiff.mp ⟨_, hout⟩, (hread _ hout).2⟩

end StreamMask
