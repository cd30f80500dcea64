/-
Three ways to produce the events of a document.

Data are streamed as their tree, or printed and the text replayed; a text is replayed
from a string or from its bytes. The ways agree: a printed datum has the events of its
tree, but for the sizes that its containers announce (`replayText_compact`), and these make
no difference to a writer (`writeAll_unhinted`).
-/
import StreamMask.Json.Datum
import StreamMask.Proofs.ByteSources
import StreamMask.Proofs.PrintingFacts

namespace StreamMask

open Json

/-- An event of a container that does not announce how many members it has. -/
def Event.unhinted : Event → Event
  | .beginObject _ => .beginObject none
  | .beginArray _ => .beginArray none
  | event => event

namespace Json

/-! ## Numbers -/

namespace Number

/-- The scalar of a number is written as the number is. -/
theorem toScalar_json (number : Number) : number.toScalar.json = number.text := by
  cases number with
  | natural value =>
    show (Scalar.ofNat value.toNat).json = toString value.toNat
    unfold Scalar.ofNat
    -- What 63 bits do not hold is kept as digits.
    split
    · next h =>
      show toString (Int64.ofNat value.toNat).toInt = toString value.toNat
      rw [Int64.toInt_ofNat_of_lt h]
      rfl
    · rfl
  | negative value => rfl
  | float value =>
    rw [toScalar, text]
    split
    · rfl
    · next h => exact (render_not_finite h).symm

theorem toScalar_legible (number : Number) : number.toScalar.Legible := by
  cases number with
  | natural value =>
    have hworth := ofNumeral_ofNat value.toNat
    show (Scalar.ofNat value.toNat).Legible
    rw [Scalar.ofNat] at hworth ⊢
    by_cases h : value.toNat < twoTo 63
    · rw [if_pos h]
      trivial
    · rw [if_neg h] at hworth ⊢
      have htext := Numeral.ofInt_text value.toNat
      exact ⟨.ofInt value.toNat, Numeral.ofInt_valid _, htext, hworth⟩
  | negative value => trivial
  | float value =>
    rw [toScalar]
    split <;> trivial

/-- JSON can write the scalar of every number. -/
theorem toScalar_plain (number : Number) : number.toScalar.plain = number.toScalar := by
  cases number with
  | natural value =>
    show (Scalar.ofNat value.toNat).plain = Scalar.ofNat value.toNat
    unfold Scalar.ofNat
    split <;> rfl
  | negative value => rfl
  | float value =>
    rw [toScalar]
    split
    · next h => exact if_pos h
    · rfl

end Number

/-! ## Data -/

namespace Datum

mutual

theorem tree_legible (datum : Datum) : datum.tree.Legible := by
  match datum with
  | null | bool value | string text => trivial
  | number value => exact value.toScalar_legible
  | array items => exact itemTrees_legible items
  | object fields => exact fieldTrees_legible fields

theorem itemTrees_legible (items : List Datum) : Tree.ItemsLegible (itemTrees items) := by
  match items with
  | [] => trivial
  | item :: items => exact ⟨item.tree_legible, itemTrees_legible items⟩

theorem fieldTrees_legible (fields : List (String × Datum)) :
    Tree.FieldsLegible (fieldTrees fields) := by
  match fields with
  | [] => trivial
  | (_, value) :: fields => exact ⟨value.tree_legible, fieldTrees_legible fields⟩

end

mutual

/-- **The compact JSON of a datum is that of its tree.** -/
theorem compact_eq (datum : Datum) : datum.compact = datum.tree.json := by
  match datum with
  | null | bool value | string text => rfl
  | number value => exact value.toScalar_json.symm
  | array items => rw [compact, tree, Tree.json, String.toList_inj.mp (compactItems_eq items)]
  | object fields => rw [compact, tree, Tree.json, String.toList_inj.mp (compactFields_eq fields)]

theorem compactItems_eq (items : List Datum) :
    (",".intercalate (compactItems items)).toList = (Tree.itemsJson false (itemTrees items)).toList := by
  match items with
  | [] => rfl
  | [item] =>
    rw [itemTrees, Tree.itemsJson_first, compactItems, compactItems, String.intercalate_singleton,
      item.compact_eq]
    exact (List.append_nil _).symm
  | item :: next :: items =>
    have hothers := compactItems_eq (next :: items)
    simp only [compactItems, itemTrees] at hothers ⊢
    rw [Tree.itemsJson_first, Tree.itemsJson_started, String.intercalate_cons_cons,
      String.toList_append, String.toList_append, hothers, item.compact_eq, List.append_assoc]
    rfl

theorem compactFields_eq (fields : List (String × Datum)) :
    (",".intercalate (compactFields fields)).toList =
      (Tree.fieldsJson false (fieldTrees fields)).toList := by
  match fields with
  | [] => rfl
  | [(name, value)] =>
    rw [fieldTrees, Tree.fieldsJson_first, compactFields, compactFields, String.intercalate_singleton,
      value.compact_eq]
    simp only [String.toList_append, List.append_assoc]
    exact congrArg (fun text => (quote name).toList ++ ':' :: text) (List.append_nil _).symm
  | (name, value) :: next :: fields =>
    have hothers := compactFields_eq (next :: fields)
    obtain ⟨_, _⟩ := next
    simp only [compactFields, fieldTrees] at hothers ⊢
    rw [Tree.fieldsJson_first, Tree.fieldsJson_started, String.intercalate_cons_cons,
      String.toList_append, String.toList_append, hothers, value.compact_eq]
    simp only [String.toList_append, List.append_assoc]
    rfl

end

mutual

/-- Of the events of a datum, JSON has no way to write the sizes, and nothing else. -/
theorem events_plain (datum : Datum) :
    datum.tree.events.map Event.plain = datum.tree.events.map Event.unhinted := by
  match datum with
  | null | bool value | string text => rfl
  | number value => exact congrArg (fun value => [Event.scalar value]) value.toScalar_plain
  | array items =>
    have hitems := itemEvents_plain items
    simp only [tree, Tree.events, List.map_append, List.map_cons, hitems]
    rfl
  | object fields =>
    have hfields := fieldEvents_plain fields
    simp only [tree, Tree.events, List.map_append, List.map_cons, hfields]
    rfl

theorem itemEvents_plain (items : List Datum) :
    (Tree.itemEvents (itemTrees items)).map Event.plain =
      (Tree.itemEvents (itemTrees items)).map Event.unhinted := by
  match items with
  | [] => rfl
  | item :: items =>
    rw [itemTrees, Tree.itemEvents, List.map_append, List.map_append, item.events_plain,
      itemEvents_plain items]

theorem fieldEvents_plain (fields : List (String × Datum)) :
    (Tree.fieldEvents (fieldTrees fields)).map Event.plain =
      (Tree.fieldEvents (fieldTrees fields)).map Event.unhinted := by
  match fields with
  | [] => rfl
  | (name, value) :: fields =>
    have hvalue := value.events_plain
    have hfields := fieldEvents_plain fields
    simp only [fieldTrees, Tree.fieldEvents, List.map_append, List.map_cons, hvalue, hfields]
    rfl

end

end Datum

variable {σ : Type} [Sink σ]

/-- **A printed datum is replayed as the events of the datum**, but for the sizes of containers. -/
theorem replayText_compact (datum : Datum) (sink : σ) :
    replayText datum.compact sink = Sink.writeAll sink (datum.events.map Event.unhinted) := by
  rw [datum.compact_eq, replayText_printed datum.tree_legible, datum.events_plain]
  rfl

end Json

/-! ## Sizes make no difference -/

theorem Sink.writeAll_unhinted {σ : Type} [Sink σ]
    (h : ∀ (sink : σ) (event : Event), write sink event.unhinted = write sink event) (sink : σ)
    (events : List Event) : writeAll sink (events.map Event.unhinted) = writeAll sink events := by
  induction events generalizing sink with
  | nil => rfl
  | cons event events ih =>
    rw [List.map_cons, writeAll_cons, writeAll_cons, h]
    congr 1
    funext sink
    exact ih sink

variable {ω : Type} [Output ω]

theorem Writer.write_unhinted (writer : Writer ω) (event : Event) :
    Sink.write writer event.unhinted = Sink.write writer event := by
  cases event <;> rfl

theorem Masking.forward_unhinted (stream : Masking (Writer ω)) (event : Event) :
    stream.forward event.unhinted = stream.forward event := by
  rw [forward, forward, Writer.write_unhinted]

/-- A stream into a writer does not regard sizes. -/
theorem Masking.write_unhinted (stream : Masking (Writer ω)) (event : Event) :
    Sink.write stream event.unhinted = Sink.write stream event := by
  have henter : ∀ (kind : Container) (hint : Option Nat),
      stream.enter kind none = stream.enter kind hint := by
    intro kind hint
    unfold enter
    cases stream.position.enter kind with
    | error fault => rfl
    | ok position =>
      have hopening : (kind.opening hint).unhinted = kind.opening none := by cases kind <;> rfl
      simp only [← hopening, forward_unhinted]
  cases event with
  | beginObject hint => exact henter .object hint
  | beginArray hint => exact henter .array hint
  | _ => rfl

/-! ## The producers -/

/-- **The producers of a document agree.** A datum and its printed text give a sink the same events,
but for the sizes of containers, and so the same text comes out however the stream is masked and
whatever the writer writes to. A source is replayed to its end exactly if its bytes are a text that
is, and then it is replayed as this text. Nothing at all is replayed of a source that fails. -/
theorem producers_agree :
    (∀ datum : Datum,
      (∀ {σ : Type} [Sink σ] (sink : σ),
        replayText datum.compact sink = Sink.writeAll sink (datum.events.map Event.unhinted)) ∧
      ∀ {ω : Type} [Output ω] (stream : Masking (Writer ω)),
        Sink.writeAll stream datum.events = replayText datum.compact stream) ∧
    (∀ (bytes : List UInt8) {σ : Type} [Sink σ] (sink : σ),
      (((Source.mk bytes false).replay sink).2 = .ok () ↔
        ∃ text : String, text.toUTF8.data.toList = bytes ∧ (replayText text sink).2 = .ok ()) ∧
      ∀ text : String, text.toUTF8.data.toList = bytes → (replayText text sink).2 = .ok () →
        (Source.mk bytes false).replay sink = replayText text sink) ∧
    ∀ (bytes : List UInt8) {σ : Type} [Sink σ] (sink : σ),
      ∃ fault, (Source.mk bytes true).replay sink = (sink, .error (.json fault)) := by
  refine ⟨fun datum => ⟨fun sink => replayText_compact datum sink, fun stream => ?_⟩, ?_,
    fun bytes _ _ sink => Source.replay_of_fails bytes sink⟩
  · rw [replayText_compact, Sink.writeAll_unhinted Masking.write_unhinted]
  · intro bytes σ _ sink
    have hsame : ∀ text : String, text.toUTF8.data.toList = bytes →
        (replayText text sink).2 = .ok () →
        (Source.mk bytes false).replay sink = replayText text sink := by
      rintro text rfl hreplayed
      rw [Text.toUTF8_toList]
      exact Source.replay_of_text hreplayed
    refine ⟨⟨fun h => ?_, ?_⟩, hsame⟩
    · obtain ⟨text, hbytes, hreplay⟩ := Source.replay_of_ok h
      refine ⟨text, hbytes ▸ Text.toUTF8_toList text, ?_⟩
      rw [← hreplay]
      exact h
    · rintro ⟨text, hbytes, hreplayed⟩
      rw [hsame text hbytes hreplayed]
      exact hreplayed

/-- A document with a name that repeats, an escape and a number that is no float. -/
theorem producers_agree_repeated :
    let text := "\x7b\"k\": [\x7b\x7d, 1.10],\"k\":\"\\u00e4\"\x7d "
    (replayText text Recorder.empty).2 = .ok () ∧
      (Source.mk text.toUTF8.data.toList false).replay Recorder.empty =
        replayText text Recorder.empty := by
  intro text
  have hreplayed : (replayText text Recorder.empty).2 = .ok () :=
    ok_of_toOption (by decide +kernel)
  obtain ⟨-, hbytes, -⟩ := producers_agree
  have hsame := (hbytes text.toUTF8.data.toList Recorder.empty).2 text rfl hreplayed
  exact ⟨hreplayed, hsame⟩

end StreamMask
