/-
The events of what was read.

A value says its events in order, but for the strings and names that say nothing
(`Value.spoken`). It is written to a sink up to the first of these, where there is a
fault, or up to the first event that the sink refuses (`Sink.Recites`). A value whose
strings all say something is a tree, and otherwise what it says are events of a tree:
of the one that has empty strings in the faulty places (`Value.tree`).
-/
import Mathlib.Data.List.Forall2
import StreamMask.Json.Replay
import StreamMask.Proofs.GrammarFacts
import StreamMask.Proofs.SinkFacts

namespace StreamMask.Json

namespace Value

mutual

/-- Whether no string or name in a value has half of a surrogate pair in it. -/
def Sound : Value → Prop
  | null | bool _ | number _ => True
  | string text => text.isSome = true
  | array items => ItemsSound items
  | object fields => FieldsSound fields

def ItemsSound : List Value → Prop
  | [] => True
  | item :: items => item.Sound ∧ ItemsSound items

def FieldsSound : List (Option String × Value) → Prop
  | [] => True
  | (name, value) :: fields => name.isSome = true ∧ value.Sound ∧ FieldsSound fields

end

mutual

/-- The tree of a value. What says nothing is taken for empty text. -/
def tree : Value → Tree
  | null => .scalar .null
  | bool value => .scalar (.bool value)
  | number n => .scalar (.ofNumeral n)
  | string text => .scalar (.string (text.getD ""))
  | array items => .array none (itemTrees items)
  | object fields => .object none (fieldTrees fields)

def itemTrees : List Value → List Tree
  | [] => []
  | item :: items => item.tree :: itemTrees items

def fieldTrees : List (Option String × Value) → List (String × Tree)
  | [] => []
  | (name, value) :: fields => (name.getD "", value.tree) :: fieldTrees fields

end

mutual

/-- The events of a value in the order of the text; none where a string or a name says nothing. -/
def spoken : Value → List (Option Event)
  | null => [some (.scalar .null)]
  | bool value => [some (.scalar (.bool value))]
  | number n => [some (.scalar (.ofNumeral n))]
  | string text => [text.map fun text => .scalar (.string text)]
  | array items => some (.beginArray none) :: (itemsSpoken items ++ [some .endArray])
  | object fields => some (.beginObject none) :: (fieldsSpoken fields ++ [some .endObject])

def itemsSpoken : List Value → List (Option Event)
  | [] => []
  | item :: items => item.spoken ++ itemsSpoken items

def fieldsSpoken : List (Option String × Value) → List (Option Event)
  | [] => []
  | (name, value) :: fields => name.map .field :: (value.spoken ++ fieldsSpoken fields)

end

mutual

/-- A value is sound if it says all of its events. -/
theorem sound_iff (value : Value) : value.Sound ↔ none ∉ value.spoken := by
  match value with
  | null | bool _ | number _ => simp [Sound, spoken]
  | string text => cases text <;> simp [Sound, spoken]
  | array items => simp [Sound, spoken, itemsSound_iff items]
  | object fields => simp [Sound, spoken, fieldsSound_iff fields]

theorem itemsSound_iff (items : List Value) : ItemsSound items ↔ none ∉ itemsSpoken items := by
  match items with
  | [] => simp [ItemsSound, itemsSpoken]
  | item :: items => simp [ItemsSound, itemsSpoken, item.sound_iff, itemsSound_iff items]

theorem fieldsSound_iff (fields : List (Option String × Value)) :
    FieldsSound fields ↔ none ∉ fieldsSpoken fields := by
  match fields with
  | [] => simp [FieldsSound, fieldsSpoken]
  | (name, value) :: fields =>
    cases name <;> simp [FieldsSound, fieldsSpoken, value.sound_iff, fieldsSound_iff fields]

end

/-- Whether events are those that are said, where anything is said. -/
def Completes (spoken : List (Option Event)) (events : List Event) : Prop :=
  List.Forall₂ (fun said event => ∀ known ∈ said, known = event) spoken events

theorem Completes.append {xs ys : List (Option Event)} {events others : List Event}
    (hxs : Completes xs events) (hys : Completes ys others) : Completes (xs ++ ys) (events ++ others) :=
  List.rel_append hxs hys

theorem Completes.said (event : Event) : Completes [some event] [event] := by
  simp [Completes]

theorem Completes.eq {spoken : List (Option Event)} {events : List Event} (h : Completes spoken events)
    (hall : none ∉ spoken) : spoken = events.map some := by
  induction h with
  | nil => rfl
  | @cons said event spoken events hsaid h ih =>
    obtain ⟨hne, hrest⟩ := not_or.mp (mt List.mem_cons.mpr hall)
    cases said with
    | none => exact absurd rfl hne
    | some known => rw [hsaid known rfl, ih hrest, List.map_cons]

mutual

/-- **The tree of a value has the events that the value says.** -/
theorem tree_completes (value : Value) : Completes value.spoken value.tree.events := by
  match value with
  | null | bool _ | number _ => exact .said _
  | string text => cases text <;> simp [Completes, spoken, tree, Tree.events]
  | array items =>
    exact .cons (fun _ h => Option.some.inj h.symm ▸ rfl) ((items_complete items).append (.said _))
  | object fields =>
    exact .cons (fun _ h => Option.some.inj h.symm ▸ rfl) ((fields_complete fields).append (.said _))

theorem items_complete (items : List Value) :
    Completes (itemsSpoken items) (Tree.itemEvents (itemTrees items)) := by
  match items with
  | [] => exact .nil
  | item :: items => exact item.tree_completes.append (items_complete items)

theorem fields_complete (fields : List (Option String × Value)) :
    Completes (fieldsSpoken fields) (Tree.fieldEvents (fieldTrees fields)) := by
  match fields with
  | [] => exact .nil
  | (name, value) :: fields =>
    refine .cons (fun known h => ?_) (value.tree_completes.append (fields_complete fields))
    cases name with
    | none => contradiction
    | some name => exact (Option.some.inj h).symm

end

end Value

/-! ## Writing what is said -/

variable {σ : Type} [Sink σ]

/-- Whether an outcome is that of writing what is said to a sink, up to the first event that it refuses
or up to where nothing is said. -/
inductive Recites : List (Option Event) → σ → Outcome σ → Prop where
  | done {sink : σ} : Recites [] sink (sink, .ok ())
  | unsaid {sink : σ} {rest : List (Option Event)} (fault : Fault) :
    Recites (none :: rest) sink (sink, .error (.json fault))
  | refused {sink next : σ} {event : Event} {rest : List (Option Event)} {failure : Failure}
      (write : Sink.write sink event = (next, .error failure)) :
    Recites (some event :: rest) sink (next, .error failure)
  | taken {sink next : σ} {event : Event} {rest : List (Option Event)} {outcome : Outcome σ}
      (write : Sink.write sink event = (next, .ok ())) (later : Recites rest next outcome) :
    Recites (some event :: rest) sink outcome

namespace Recites

variable {spoken : List (Option Event)} {sink : σ} {outcome : Outcome σ}

theorem eq_writeAll {events : List Event} (h : Recites (events.map some) sink outcome) :
    outcome = Sink.writeAll sink events := by
  induction events generalizing sink with
  | nil => cases h; rfl
  | cons event events ih =>
    rw [Sink.writeAll_cons]
    cases h with
    | refused write => rw [write]; rfl
    | taken write later => rw [write]; exact ih later

/-- What is written to its end is all said. -/
theorem all_said (h : Recites spoken sink outcome) (hok : outcome.2 = .ok ()) : none ∉ spoken := by
  induction h with
  | done => exact List.not_mem_nil
  | unsaid fault => contradiction
  | refused write => contradiction
  | taken write later ih => simpa using ih hok

/-- Where a sink takes all events but not all are said, there is a fault. -/
theorem broken (h : Recites spoken sink outcome) {events : List Event}
    (hcompletes : Value.Completes spoken events) (hunsaid : none ∈ spoken)
    (hsink : (Sink.writeAll sink events).2 = .ok ()) :
    ∃ sink' fault, outcome = (sink', .error (.json fault)) := by
  induction h generalizing events with
  | done => contradiction
  | unsaid fault => exact ⟨_, fault, rfl⟩
  | refused write =>
    cases hcompletes with
    | cons hsaid hrest =>
      rw [← hsaid _ rfl, Sink.writeAll_cons, write] at hsink
      contradiction
  | taken write later ih =>
    cases hcompletes with
    | cons hsaid hrest =>
      rw [← hsaid _ rfl, Sink.writeAll_cons, write] at hsink
      exact ih hrest (by simpa using hunsaid) hsink

end Recites

namespace Script

/-- Whether a script is written to every sink as what is said. -/
def Plays (σ : Type) [Sink σ] (spoken : List (Option Event)) (script : Script) : Prop :=
  ∀ sink : σ, Recites spoken sink (script.replay sink)

theorem replay_push (event : Event) (script : Script) (sink : σ) :
    (script.push event).replay sink = Outcome.andThen (Sink.write sink event) script.replay := by
  rw [replay, push, Sink.writeAll_cons, Outcome.andThen_assoc]
  rfl

theorem Plays.push {spoken : List (Option Event)} {script : Script} (event : Event)
    (h : Plays σ spoken script) : Plays σ (some event :: spoken) (script.push event) := by
  intro sink
  rw [replay_push]
  cases hwrite : Sink.write sink event with
  | mk next result =>
    cases result with
    | error failure => exact .refused hwrite
    | ok => exact .taken hwrite (h next)

theorem Plays.pushText {spoken : List (Option Event)} {script : Script} (text : Except Fault String)
    (event : String → Event) (h : Plays σ spoken script) :
    Plays σ (text.toOption.map event :: spoken) (script.pushText text event) := by
  cases text with
  | ok text => exact h.push (event text)
  | error fault => exact fun sink => .unsaid fault

end Script

namespace Node

open Script

mutual

/-- **A node is written as what it says.** -/
theorem script_plays (node : Node) {spoken : List (Option Event)} {next : Script}
    (h : Plays σ spoken next) : Plays σ (node.outline.spoken ++ spoken) (node.script next) := by
  match node with
  | null => exact h.push _
  | bool value => exact h.push _
  | number numeral => exact h.push _
  | string text => exact h.pushText text fun text => .scalar (.string text)
  | array items =>
    have hitems := (items_play items (h.push .endArray)).push (.beginArray none)
    rwa [List.append_cons, ← List.cons_append] at hitems
  | object fields =>
    have hfields := (fields_play fields (h.push .endObject)).push (.beginObject none)
    rwa [List.append_cons, ← List.cons_append] at hfields

theorem items_play (items : List Node) {spoken : List (Option Event)} {next : Script}
    (h : Plays σ spoken next) :
    Plays σ (Value.itemsSpoken (itemsOutline items) ++ spoken) (itemsScript items next) := by
  match items with
  | [] => exact h
  | item :: items =>
    have hitem := item.script_plays (items_play items h)
    rwa [← List.append_assoc] at hitem

theorem fields_play (fields : List (Except Fault String × Node)) {spoken : List (Option Event)}
    {next : Script} (h : Plays σ spoken next) :
    Plays σ (Value.fieldsSpoken (fieldsOutline fields) ++ spoken) (fieldsScript fields next) := by
  match fields with
  | [] => exact h
  | (name, value) :: fields =>
    have hvalue := (value.script_plays (fields_play fields h)).pushText name .field
    rwa [← List.append_assoc] at hvalue

end

end Node

/-! ## Replaying -/

/-- A node is written to a sink as what it says. -/
theorem Node.replay_recites (node : Node) (sink : σ) :
    Recites node.outline.spoken sink (node.replay sink) := by
  have hdone : Script.Plays σ [] .done := fun sink => .done
  have hplays := node.script_plays hdone sink
  rwa [List.append_nil] at hplays

/-- A node whose strings all say something is written to a sink as its tree. -/
theorem Node.replay_sound {node : Node} (h : node.outline.Sound) (sink : σ) :
    node.replay sink = Sink.writeAll sink node.outline.tree.events := by
  have hrecites := node.replay_recites sink
  rw [node.outline.tree_completes.eq (node.outline.sound_iff.mp h)] at hrecites
  exact hrecites.eq_writeAll

/-- All strings of a node that is written to its end say something. -/
theorem Node.sound_of_replay {node : Node} {sink : σ} (h : (node.replay sink).2 = .ok ()) :
    node.outline.Sound :=
  node.outline.sound_iff.mpr ((node.replay_recites sink).all_said h)

/-- **A document is written to a sink as what it says.** -/
theorem replayText_recites {text : String} {value : Value} (h : SpellsElement value text.toList)
    (sink : σ) : Recites value.spoken sink (replayText text sink) := by
  obtain ⟨node, hread, rfl⟩ := (ofText_iff_spells text.toList value).mpr h
  simp only [replayText, hread]
  exact node.replay_recites sink

/-- A document whose strings all say something is written to a sink as its tree. -/
theorem replayText_sound {text : String} {value : Value} (h : SpellsElement value text.toList)
    (hsound : value.Sound) (sink : σ) : replayText text sink = Sink.writeAll sink value.tree.events := by
  have hrecites := replayText_recites h sink
  rw [value.tree_completes.eq (value.sound_iff.mp hsound)] at hrecites
  exact hrecites.eq_writeAll

/-- A text that is written to its end is a document in which every string says something. -/
theorem document_of_replayText {text : String} {sink : σ} (h : (replayText text sink).2 = .ok ()) :
    ∃ value : Value, SpellsElement value text.toList ∧ value.Sound := by
  cases hread : Node.ofText text.toList with
  | error fault => simp [replayText, hread] at h
  | ok node =>
    simp only [replayText, hread] at h
    exact ⟨node.outline, (ofText_iff_spells _ _).mp ⟨node, hread, rfl⟩, node.sound_of_replay h⟩

/-- Of a document in which some string says nothing, the first events are written to a sink that
takes all of its tree; then there is a fault. -/
theorem replayText_unsound {text : String} {value : Value} (h : SpellsElement value text.toList)
    (hsound : ¬value.Sound) (sink : σ) (hsink : (Sink.writeAll sink value.tree.events).2 = .ok ()) :
    ∃ sink' fault, replayText text sink = (sink', .error (.json fault)) := by
  have hunsaid : none ∈ value.spoken :=
    Classical.byContradiction fun hall => hsound (value.sound_iff.mpr hall)
  exact (replayText_recites h sink).broken value.tree_completes hunsaid hsink

/-- A text that is no document has a fault, the same for every sink, and nothing is written of it. -/
theorem fault_of_malformed {text : String} (h : ¬∃ value, SpellsElement value text.toList) :
    ∃ fault, ∀ (σ : Type) [Sink σ] (sink : σ), replayText text sink = (sink, .error (.json fault)) := by
  cases hread : Node.ofText text.toList with
  | error fault => exact ⟨fault, fun σ _ sink => by simp only [replayText, hread]⟩
  | ok node => exact absurd ⟨_, (ofText_iff_spells _ _).mp ⟨node, hread, rfl⟩⟩ h

/-- Nothing of a text that is no document is written. -/
theorem replayText_malformed {text : String} (h : ¬∃ value, SpellsElement value text.toList)
    (sink : σ) : ∃ fault, replayText text sink = (sink, .error (.json fault)) := by
  obtain ⟨fault, hfault⟩ := fault_of_malformed h
  exact ⟨fault, hfault σ sink⟩

end StreamMask.Json
