/-
What comes of a text at a sink.

Nothing comes of a text that is no document. A document is written event by event in its
own order, up to the first string or name that holds half of a surrogate pair alone; only
there does writing to a sink that takes every event end with a fault. It makes no difference
whether the text is read once or looked at again slice by slice.
-/
import StreamMask.Proofs.AcceptingFacts
import StreamMask.Proofs.SlicedTexts

namespace StreamMask.Json

/-- A string says nothing just if it holds half of a surrogate pair alone. -/
theorem said_eq_none {parts : List Part} (hvalid : ∀ part ∈ parts, part.Valid) :
    said parts = none ↔ Unpaired none parts := by
  rw [said, Option.map_eq_none_iff]
  exact meaning_eq_none parts hvalid none (by simp)

/-- What is said before anything is unsaid is all that comes before that. -/
theorem first_unsaid {before others : List Event} {after rest : List (Option Event)}
    (h : before.map some ++ none :: after = others.map some ++ none :: rest) : before = others := by
  induction before generalizing others with
  | nil =>
    cases others with
    | nil => rfl
    | cons other others => cases h
  | cons event before ih =>
    cases others with
    | nil => cases h
    | cons other others =>
      obtain ⟨hevent, hrest⟩ := List.cons.inj h
      rw [Option.some.inj hevent, ih hrest]

namespace Recites

variable {σ : Type} [Sink σ] {spoken : List (Option Event)} {sink : σ} {outcome : Outcome σ}

/-- A sink that takes every event gets all that is said, or all up to where nothing is. -/
theorem of_accepts (h : Recites spoken sink outcome) (hsink : Sink.Accepts σ) :
    (∃ events, spoken = events.map some ∧ outcome = (Sink.feed sink events, .ok ())) ∨
      ∃ before after fault, spoken = before.map some ++ none :: after ∧
        outcome = (Sink.feed sink before, .error (.json fault)) := by
  induction h with
  | done => exact .inl ⟨[], rfl, rfl⟩
  | @unsaid sink rest fault => exact .inr ⟨[], rest, fault, rfl, rfl⟩
  | @refused sink next event rest failure write =>
    have htaken := hsink sink event
    rw [write] at htaken
    contradiction
  | @taken sink next event rest outcome write later ih =>
    have hfeed (events : List Event) : Sink.feed sink (event :: events) = Sink.feed next events := by
      rw [Sink.feed_cons, write]
    rcases ih with ⟨events, rfl, rfl⟩ | ⟨before, after, fault, rfl, rfl⟩
    · exact .inl ⟨event :: events, rfl, by rw [hfeed]⟩
    · exact .inr ⟨event :: before, after, fault, rfl, by rw [hfeed]⟩

end Recites

/-- **A text is written up to half of a surrogate pair, or not at all.** To look at it again slice by
slice comes to the same as to read it once. Of a text that is no document nothing is written to any
sink, and there is a fault. A document is written to a sink that takes every event: either all of its
events in order, or all before the first string or name that says nothing, and there is a fault then.
A string says nothing just if it holds half of a surrogate pair alone. -/
theorem replayText_up_to_surrogate (text : String) :
    (∀ (σ : Type) [Sink σ] (sink : σ), replaySlices text sink = replayText text sink) ∧
    ((¬∃ value, SpellsElement value text.toList) →
      ∃ fault, ∀ (σ : Type) [Sink σ] (sink : σ), replayText text sink = (sink, .error (.json fault))) ∧
    (∀ value, SpellsElement value text.toList → ∀ (σ : Type) [Sink σ], Sink.Accepts σ → ∀ sink : σ,
      (∃ events, value.spoken = events.map some ∧
          replayText text sink = (Sink.feed sink events, .ok ())) ∨
        ∃ before after fault, value.spoken = before.map some ++ none :: after ∧
          replayText text sink = (Sink.feed sink before, .error (.json fault))) ∧
    ∀ parts : List Part, (∀ part ∈ parts, part.Valid) → (said parts = none ↔ Unpaired none parts) :=
  ⟨fun _ _ => replaySlices_eq text, fault_of_malformed,
    fun _ hspells _ _ hsink sink => (replayText_recites hspells sink).of_accepts hsink,
    fun _ => said_eq_none⟩

/-- Before half of a surrogate pair, the beginning of an array and a string are written. -/
theorem replayText_up_to_high_half :
    let text := "[\"a\", \"\\ud800\", 2]"
    (∃ value, SpellsElement value text.toList) ∧
      ∃ fault, replayText text Recorder.empty =
        (Recorder.empty.record [.beginArray none, .scalar (.string "a")], .error (.json fault)) := by
  intro text
  let two : Numeral := ⟨false, ['2'], [], none⟩
  have htwo : two.Valid := ⟨⟨nofun, rfl⟩, by simp [two], rfl, nofun⟩
  have hspace : Blank [' '] := by simp [Blank]
  have hpad {value : Value} {text : List Char} (h : Spells value text) :
      SpellsElement value (' ' :: text) := h.element.pad hspace
  have hletter : Spells (.string (some "a")) "\"a\"".toList :=
    @Spells.string [.plain 'a'] (by simp [Part.Valid])
  have hhalf : Spells (.string none) "\"\\ud800\"".toList :=
    @Spells.string [.unit 'd' '8' '0' '0'] (by simp [Part.Valid, IsHex])
  have hspells := (Spells.array (.more hletter.element (.more (hpad hhalf)
    (.last (hpad (.number htwo)))))).element
  have htext : '[' :: ("\"a\"".toList ++ ',' :: (' ' :: "\"\\ud800\"".toList ++ ',' :: ' ' :: two.text) ++
      [']']) = text.toList := by decide
  rw [htext] at hspells
  refine ⟨⟨_, hspells⟩, ?_⟩
  obtain ⟨-, -, hdocument, -⟩ := replayText_up_to_surrogate text
  rcases hdocument _ hspells Recorder Recorder.accepts Recorder.empty with
    ⟨events, hspoken, -⟩ | ⟨before, after, fault, hspoken, hreplayed⟩
  · have hunsaid : none ∈ events.map (some : Event → Option Event) := by
      rw [← hspoken]
      simp [Value.spoken, Value.itemsSpoken]
    simp at hunsaid
  · have hbefore : [.beginArray none, .scalar (.string "a")] = before := first_unsaid hspoken
    subst hbefore
    exact ⟨fault, hreplayed⟩

end StreamMask.Json
