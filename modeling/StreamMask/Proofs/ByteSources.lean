/-
Documents that come as bytes.

A source is read as a value exactly if its bytes are those of a text that is read as that
value (`Source.read_iff`). The value's bytes are taken out before they are read as text,
but what stands around them is blank, and so is text in any case.
-/
import StreamMask.Proofs.OctetFacts
import StreamMask.Proofs.ScriptFacts

namespace StreamMask.Json

open Text (encode octets decode)

theorem readEnd_eq_ok {text : List Char} : readEnd text = .ok () ↔ Blank text := by
  constructor
  · intro h
    obtain ⟨blank, hblank, hsplit⟩ := skipBlank_split text
    unfold readEnd at h
    split at h
    · next hnil =>
      rw [hnil, List.append_nil] at hsplit
      exact hsplit ▸ hblank
    · contradiction
  · intro h
    have hskip := skipBlank_append h (show NoBlank [] from trivial)
    rw [List.append_nil] at hskip
    rw [readEnd, hskip]

theorem SpellsElement.pad_after {value : Value} {text blank : List Char}
    (h : SpellsElement value text) (hblank : Blank blank) : SpellsElement value (text ++ blank) := by
  obtain ⟨hbefore, hspells, hafter⟩ := h
  rw [List.append_assoc, List.append_assoc]
  exact .padded hbefore hspells (hafter.append hblank)

namespace Source

/-- The bytes of a value, if `rest` is left after it. -/
def between (bytes : List UInt8) (rest : List Char) : List UInt8 :=
  let start := (octets bytes).length - (skipBlank (octets bytes)).length
  (bytes.drop start).take ((octets bytes).length - rest.length - start)

/-- Where blanks stand around a value, its bytes are those between the blanks. -/
theorem between_eq {before value after : List UInt8} (hblank : Blank (octets before))
    (hvalue : NoBlank (octets value ++ octets after)) :
    between (before ++ (value ++ after)) (octets after) = value := by
  have hskip : skipBlank (octets (before ++ (value ++ after))) = octets value ++ octets after := by
    rw [octets_append, octets_append, skipBlank_append hblank hvalue]
  unfold between
  rw [hskip]
  simp only [octets, List.length_map, List.length_append]
  rw [Nat.add_sub_cancel, List.drop_left,
    show before.length + (value.length + after.length) - after.length - before.length = value.length
      by omega, List.take_left]

/-- A source is read if its end is reached, its value has been found and that is text. -/
theorem read_eq_ok {source : Source} {node : Node} :
    source.read = .ok node ↔
      ∃ octal rest text, Node.read .octets (octets source.bytes) = .ok (octal, rest) ∧
        decode (between source.bytes rest) = (text, []) ∧ Blank rest ∧ source.fails = false ∧
        Node.ofText text = .ok node := by
  constructor
  · intro h
    unfold read at h
    dsimp only at h
    split at h
    · contradiction
    · next octal rest hread =>
      split at h
      · contradiction
      · next text hdecode =>
        split at h
        · contradiction
        · next hend =>
          split at h
          · contradiction
          · next hfails =>
            exact ⟨octal, rest, text, hread, hdecode, readEnd_eq_ok.mp hend,
              Bool.eq_false_iff.mpr hfails, h⟩
  · rintro ⟨octal, rest, text, hread, hdecode, hblank, hfails, hnode⟩
    rw [between] at hdecode
    simp only [read, hread, hdecode, readEnd_eq_ok.mpr hblank, hfails]
    exact hnode

/-- Bytes that come to an end are read only as what their text is. -/
theorem read_sound {source : Source} {node : Node} (h : source.read = .ok node) :
    ∃ text : String, source.bytes = encode text.toList ∧ SpellsElement node.outline text.toList := by
  obtain ⟨octal, rest, value, hread, hdecode, hblank, -, hnode⟩ := read_eq_ok.mp h
  obtain ⟨inner, hspells, hskip⟩ := readValue_sound hread
  obtain ⟨before, hbefore, hsplit⟩ := skipBlank_split (octets source.bytes)
  rw [hskip] at hsplit
  obtain ⟨first, others, hbytes, hfirst, hothers⟩ := List.map_eq_append_iff.mp hsplit
  obtain ⟨middle, last, rfl, hmiddle, hlast⟩ := List.map_eq_append_iff.mp hothers
  have hnoBlank : NoBlank (octets middle ++ octets last) := by
    rw [octets, octets, hmiddle, hlast]
    exact hspells.noBlank rest
  have hfirstBlank : Blank (octets first) := by
    rw [octets, hfirst]
    exact hbefore
  have hbetween := between_eq hfirstBlank hnoBlank
  rw [← hbytes, show octets last = rest from hlast] at hbetween
  rw [hbetween, Text.decode_iff] at hdecode
  have hencoded : ∀ {bytes : List UInt8} {blank : List Char}, octets bytes = blank → Blank blank →
      bytes = encode blank := by
    intro bytes blank hoctets hblank
    exact octets_injective (hoctets.trans (octetsOf_blank hblank).symm)
  refine ⟨String.ofList (before ++ (value ++ rest)), ?_, ?_⟩
  · rw [String.toList_ofList, Text.encode_append, Text.encode_append, hbytes, hdecode,
      hencoded hfirst hbefore, hencoded hlast hblank]
  · rw [String.toList_ofList]
    have hvalue : SpellsElement node.outline value := (ofText_iff_spells _ _).mp ⟨node, hnode, rfl⟩
    exact (hvalue.pad_after hblank).pad hbefore

/-- The bytes of a document are read. -/
theorem read_complete {value : Value} {text : List Char} (h : SpellsElement value text) :
    ∃ node, (Source.mk (encode text) false).read = .ok node ∧ node.outline = value := by
  cases h with
  | @padded _ before inner after hbefore hspells hafter =>
    obtain ⟨value', hoctets⟩ := hspells.octets
    -- As bytes, the value is another one, but it stands at the same place.
    have hsplit : octets (encode (before ++ (inner ++ after))) =
        before ++ (octetsOf inner ++ after) := by
      show octetsOf _ = _
      rw [octetsOf_append, octetsOf_append, octetsOf_blank hbefore, octetsOf_blank hafter]
    have hend : NoNumber after := by
      have hnil := noNumber_blank hafter (show NoNumber [] from trivial)
      rwa [List.append_nil] at hnil
    obtain ⟨octal, -, hread⟩ := readValue_spells .octets hoctets
      (Node.fuelFor (before ++ (octetsOf inner ++ after)))
      (by simp only [Node.fuelFor, List.length_append]; omega) hend
    obtain ⟨node, hnode, houtline⟩ := (ofText_iff_spells inner value).mpr hspells.element
    have hbefore' : Blank (octets (encode before)) := by
      rw [show octets (encode before) = before from octetsOf_blank hbefore]
      exact hbefore
    have hbetween : between (encode before ++ (encode inner ++ encode after))
        (octets (encode after)) = encode inner := between_eq hbefore' (hoctets.noBlank _)
    rw [← Text.encode_append, ← Text.encode_append, show octets (encode after) = after from
      octetsOf_blank hafter] at hbetween
    refine ⟨node, read_eq_ok.mpr ⟨octal, after, inner, ?_, ?_, hafter, rfl, hnode⟩, houtline⟩
    · rw [hsplit, Node.read, readValue_blank _ hbefore (hoctets.noBlank _), hread]
    · rw [hbetween, Text.decode_iff]

/-- **A source is read as the value that its bytes are written for**, if they are the bytes of a
text. -/
theorem read_iff {bytes : List UInt8} {value : Value} :
    (∃ node, (Source.mk bytes false).read = .ok node ∧ node.outline = value) ↔
      ∃ text : String, bytes = encode text.toList ∧ SpellsElement value text.toList := by
  constructor
  · rintro ⟨node, hread, rfl⟩
    exact read_sound hread
  · rintro ⟨text, rfl, hspells⟩
    exact read_complete hspells

variable {σ : Type} [Sink σ]

/-- A source that cannot be read to its end writes nothing. -/
theorem replay_of_fails (bytes : List UInt8) (sink : σ) :
    ∃ fault, (Source.mk bytes true).replay sink = (sink, .error (.json fault)) := by
  unfold replay
  cases hread : (Source.mk bytes true).read with
  | error fault => exact ⟨fault, rfl⟩
  | ok node =>
    obtain ⟨-, -, -, -, -, -, hfails, -⟩ := read_eq_ok.mp hread
    contradiction

/-- What a source writes to the end is what its text writes. -/
theorem replay_of_ok {bytes : List UInt8} {sink : σ}
    (h : ((Source.mk bytes false).replay sink).2 = .ok ()) :
    ∃ text : String, bytes = encode text.toList ∧
      (Source.mk bytes false).replay sink = replayText text sink := by
  unfold replay at h ⊢
  cases hread : (Source.mk bytes false).read with
  | error fault => rw [hread] at h; contradiction
  | ok node =>
    rw [hread] at h
    obtain ⟨text, hbytes, hspells⟩ := read_iff.mp ⟨node, hread, rfl⟩
    have hsound : node.outline.Sound := node.sound_of_replay h
    refine ⟨text, hbytes, ?_⟩
    rw [replayText_sound hspells hsound]
    exact node.replay_sound hsound sink

/-- What a text writes to the end is what its bytes write. -/
theorem replay_of_text {text : String} {sink : σ} (h : (replayText text sink).2 = .ok ()) :
    (Source.mk (encode text.toList) false).replay sink = replayText text sink := by
  obtain ⟨value, hspells, hsound⟩ := document_of_replayText h
  obtain ⟨node, hread, rfl⟩ := read_iff.mpr ⟨text, rfl, hspells⟩
  rw [replayText_sound hspells hsound, replay]
  simp only [hread]
  exact node.replay_sound hsound sink

end Source
end StreamMask.Json
