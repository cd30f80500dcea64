/-
Pointers as paths.

The pointer of a place is the text of an absolute path. Right after a field name every
open container is at a field or an item, so a place has one label for each of them
(`Position.labels`), and its pointer writes the labels and nothing else. Read as a path,
it selects the places of those labels: a field and an item are not told apart. An empty
name at the end would be lost, and a field named by a star would become any field.
-/
import StreamMask.Proofs.JoinedNames
import StreamMask.Proofs.PathSelection

namespace StreamMask

namespace Path

/-- A decimal text is its own escape. -/
theorem escapeChars_toString (index : Nat) :
    escapeChars (toString index).toList = (toString index).toList := by
  have hdigits := List.all_eq_true.mp (Text.toDigits_isDigit index)
  rw [Text.toList_toString]
  exact escapeChars_plain (fun hmem => nomatch hdigits '~' hmem) fun hmem => nomatch hdigits '/' hmem

/-- Nothing is trimmed off a text that ends with an escaped name. -/
theorem trimEnd_append_escapeChars {name : List Char} (h : name ≠ []) (text : List Char) :
    trimEnd (text ++ escapeChars name) = text ++ escapeChars name := by
  have hescape : escapeChars name ≠ [] := fun hnil => h (escapeChars_inj.mp hnil)
  have hlast : (escapeChars name).getLast hescape ≠ '/' := fun heq =>
    separator_notMem_escapeChars name (heq ▸ List.getLast_mem hescape)
  rw [← List.dropLast_append_getLast hescape, ← List.append_assoc, trimEnd_concat hlast]

/-- The part that an escaped name is says that name, unless it is a star. -/
theorem said?_escapeChars {name : String} (h : name ≠ "*") :
    said? (escapeChars name.toList) = some name := by
  have hstar : escapeChars name.toList ≠ ['*'] := fun heq => by
    have hname : name.toList = ['*'] := escapeChars_inj.mp heq
    exact h (String.toList_inj.mp hname)
  rw [said?, if_neg hstar, unescape, String.toList_ofList, unescapeChars_escapeChars,
    String.ofList_toList]

end Path

open StreamMask.Path

theorem Frame.toList_step (frame : Frame) :
    frame.step.toList = frame.label?.elim [] fun label => '/' :: escapeChars label.toList := by
  cases frame with
  | object pending => cases pending <;> simp [Frame.step, Frame.label?, escape]
  | array index =>
    simp only [Frame.step, Frame.label?, Option.elim_some, String.toList_append, escapeChars_toString]
    rfl

namespace Position

/-- Whether every open container is at a field or an item. -/
def Placed (p : Position) : Prop := ∀ frame ∈ p.frames, frame.hasPosition = true

/-- What the members in progress are called, from the root. -/
def labels (p : Position) : List String := p.frames.reverse.filterMap Frame.label?

/-- Only a field is called by a star. -/
theorem star_mem_frames {p : Position} (h : "*" ∈ p.labels) : .object (some "*") ∈ p.frames := by
  obtain ⟨frame, hmem, hlabel⟩ := List.mem_filterMap.mp h
  have hmem := List.mem_reverse.mp hmem
  cases frame with
  | object pending =>
    cases hlabel
    exact hmem
  | array index =>
    -- No decimal text is a star.
    have hindex : toString index = "*" := Option.some.inj hlabel
    have hdigits := Text.toDigits_isDigit index
    rw [← Text.toList_toString, hindex] at hdigits
    contradiction

theorem Placed.map_label? {p : Position} (h : p.Placed) :
    p.frames.reverse.map Frame.label? = p.labels.map some := by
  rw [labels, List.map_filterMap_some_eq_filter_map_isSome, eq_comm, List.filter_eq_self]
  intro label? hmem
  obtain ⟨frame, hframe, rfl⟩ := List.mem_map.mp hmem
  rw [Frame.label?_isSome]
  exact h frame (List.mem_reverse.mp hframe)

theorem Placed.length_labels {p : Position} (h : p.Placed) : p.labels.length = p.depth := by
  have hlength := congrArg List.length h.map_label?
  rw [List.length_map, List.length_map, List.length_reverse] at hlength
  exact hlength.symm

/-- **Right after a field name every open container is at a member**, the innermost at that field. -/
theorem Reached.after_field {p c : Position} {name : String} (hp : p.Reached)
    (hc : p.advance (.field name) = .ok c) :
    c.Placed ∧ c.Counted ∧ c.name? = some name ∧ ∃ outer, c.labels = outer ++ [name] := by
  cases advance_eq_ok.1 hc with
  | field =>
    next outer =>
    refine ⟨fun frame hmem => ?_, (hp.inField name).counted, rfl, outer.labels, ?_⟩
    · rcases List.mem_cons.mp hmem with rfl | hmem
      · rfl
      · exact hp.nested frame hmem
    · rw [labels, Position.inField, List.reverse_cons, List.filterMap_append]
      rfl

/-! ## The text of a pointer -/

/-- The pointer writes the labels, each behind a separator. -/
theorem toList_pointer (p : Position) :
    p.pointer.toList = p.labels.flatMap fun label => '/' :: escapeChars label.toList := by
  rw [pointer, String.toList_join, labels]
  induction p.frames.reverse with
  | nil => rfl
  | cons frame frames ih =>
    rw [List.map_cons, List.flatMap_cons, ih, frame.toList_step]
    cases hlabel : frame.label? with
    | none => simp [hlabel]
    | some label => simp [hlabel]

/-- Labels are written with a separator between any two and one in front. -/
theorem flatMap_separator {labels : List String} (h : labels ≠ []) :
    labels.flatMap (fun label => '/' :: escapeChars label.toList) =
      '/' :: ['/'].intercalate (labels.map fun label => escapeChars label.toList) := by
  induction labels with
  | nil => exact absurd rfl h
  | cons first others ih =>
    cases others with
    | nil => simp
    | cons second others =>
      rw [List.flatMap_cons, ih (List.cons_ne_nil _ _)]
      simp [List.intercalate_cons_cons]

/-- What stands between separators behind the first one are the labels. -/
theorem splitOn_pointer {p : Position} (h : p.labels ≠ []) :
    ∃ rest, p.pointer.toList = '/' :: rest ∧
      rest.splitOn '/' = p.labels.map fun label => escapeChars label.toList := by
  exact ⟨_, p.toList_pointer.trans (flatMap_separator h), splitOn_joined h⟩

/-- **Places have the same pointer if and only if they have the same labels.** -/
theorem pointer_inj {p q : Position} (hp : p.labels ≠ []) (hq : q.labels ≠ []) :
    p.pointer = q.pointer ↔ p.labels = q.labels := by
  rw [← String.toList_inj, toList_pointer, toList_pointer, flatMap_separator hp,
    flatMap_separator hq, List.cons_inj_right, joined_inj hp hq]

/-- A pointer has a part for each label, if nothing is lost at its end. -/
theorem parts_pointer {p : Position} {outer : List String} {name : String}
    (hlabels : p.labels = outer ++ [name]) (hname : name ≠ "") :
    p.pointer.toList.head? = some '/' ∧ trimEnd (body p.pointer.toList) ≠ [] ∧
      parts p.pointer.toList = p.labels.map fun label => escapeChars label.toList := by
  have hnil : p.labels ≠ [] := by simp [hlabels]
  have hchars : name.toList ≠ [] := fun heq => hname (String.toList_eq_nil_iff.mp heq)
  obtain ⟨rest, hrest, hparts⟩ := splitOn_pointer hnil
  have htrim : trimEnd p.pointer.toList = p.pointer.toList := by
    rw [toList_pointer, hlabels, List.flatMap_append, List.flatMap_singleton, List.append_cons]
    exact trimEnd_append_escapeChars hchars _
  rw [hrest] at htrim ⊢
  have hbody : trimEnd rest ≠ [] := fun heq => by
    have hall := trimEnd_body_eq_nil.mp (show trimEnd (body ('/' :: rest)) = [] from heq)
    rw [htrim] at hall
    cases hall
  rw [trimEnd_cons hbody] at htrim
  refine ⟨rfl, hbody, ?_⟩
  change (trimEnd rest).splitOn '/' = _
  rw [List.tail_eq_of_cons_eq htrim, hparts]

end Position

namespace Pattern

/-- An absolute path of labels selects the places of those labels. -/
theorem selects_iff_labels {text : String} {labels : List String} {place : Position}
    (hroot : text.toList.head? = some '/')
    (hsaid : (parts text.toList).map said? = labels.map some) (hplaced : place.Placed) :
    Selects text place ↔ place.labels = labels := by
  have hnames {frames : List Frame} :
      List.Forall₂ Names (labels.map some) frames ↔ frames.map Frame.label? = labels.map some := by
    rw [List.forall₂_map_left_iff, eq_comm, ← List.forall₂_eq_eq_eq, List.forall₂_map_left_iff,
      List.forall₂_map_right_iff]
    simp only [names_some, eq_comm]
  simp only [Selects, hsaid, hnames, List.length_map, hroot, forall_const]
  constructor
  · rintro ⟨-, hinner, hdepth⟩
    rw [List.take_of_length_le hdepth.le, hplaced.map_label?] at hinner
    exact (List.map_inj_right fun _ _ => Option.some.inj).mp hinner
  · rintro rfl
    rw [List.take_of_length_le hplaced.length_labels.ge, hplaced.map_label?]
    exact ⟨hplaced.length_labels.le, rfl, hplaced.length_labels.symm⟩

/-- **The pointer of a field is a path to that field.** Right after a field name that is not empty, and
with no field named by a star around, the pointer is read as an absolute path with a token for each
open container. Right after any field name, that path fits where the pointer is the same and nowhere
else. -/
theorem parse_pointer_fits {p c p' c' : Position} {name name' : String}
    (hp : p.Reached) (hc : p.advance (.field name) = .ok c)
    (hp' : p'.Reached) (hc' : p'.advance (.field name') = .ok c')
    (hname : c.name? ≠ some "") (hstar : .object (some "*") ∉ c.frames) :
    ∃ pattern, parse c.pointer = .ok pattern ∧ pattern.absolute = true ∧
      pattern.tokens.length = c.depth ∧ (pattern.fits c' = true ↔ c'.pointer = c.pointer) := by
  obtain ⟨hplaced, -, hcurrent, outer, hlabels⟩ := hp.after_field hc
  obtain ⟨hplaced', hcounted', -, outer', hlabels'⟩ := hp'.after_field hc'
  have hname : name ≠ "" := fun heq => hname (heq ▸ hcurrent)
  obtain ⟨hroot, hbody, hparts⟩ := Position.parts_pointer hlabels hname
  have hescaped : wellEscaped c.pointer.toList = true := by
    rw [← wellEscaped_parts, hparts]
    intro part hmem
    obtain ⟨label, -, rfl⟩ := List.mem_map.mp hmem
    exact wellEscaped_escapeChars label.toList
  have hsaid : (parts c.pointer.toList).map said? = c.labels.map some := by
    rw [hparts, List.map_map]
    refine List.map_congr_left fun label hmem => said?_escapeChars ?_
    rintro rfl
    exact hstar (Position.star_mem_frames hmem)
  have hparse := parse_eq_ok.mpr ⟨hbody, hescaped, rfl⟩
  refine ⟨_, hparse, by simp [hroot], ?_, ?_⟩
  · rw [List.length_map, hparts, List.length_map, hplaced.length_labels]
  · rw [fits_iff_of_counted hparse hcounted', selects_iff_labels hroot hsaid hplaced']
    exact (Position.pointer_inj (by simp [hlabels']) (by simp [hlabels])).symm

/-- An item, and a field of the same name in another document: their pointers are the same. -/
theorem parse_pointer_fits_rows :
    let events : List Event := [.beginObject none, .field "a/b", .beginArray none, .scalar .null,
      .beginObject none]
    let events' : List Event := [.beginObject none, .field "a/b", .beginObject none, .field "1",
      .beginObject none]
    let p := (Sink.feed (Masking.start .empty Recorder.empty) events).position
    let p' := (Sink.feed (Masking.start .empty Recorder.empty) events').position
    let c : Position := ⟨[.object (some "id"), .array 1, .object (some "a/b")]⟩
    let c' : Position := ⟨[.object (some "id"), .object (some "1"), .object (some "a/b")]⟩
    p.Reached ∧ p.advance (.field "id") = .ok c ∧ p'.Reached ∧ p'.advance (.field "id") = .ok c' ∧
      c.name? ≠ some "" ∧ .object (some "*") ∉ c.frames ∧ c.pointer = "/a~1b/1/id" ∧
      ∃ pattern, parse "/a~1b/1/id" = .ok pattern ∧ pattern.tokens.length = 3 ∧
        pattern.fits c' = true := by
  intro events events' p p' c c'
  have hp : p.Reached := Masking.feed_reached _ _ (by decide)
  have hp' : p'.Reached := Masking.feed_reached _ _ (by decide)
  have hc : p.advance (.field "id") = .ok c := by decide +kernel
  have hc' : p'.advance (.field "id") = .ok c' := by decide +kernel
  have hname : c.name? ≠ some "" := by decide
  have hstar : .object (some "*") ∉ c.frames := by decide
  have hpointer : c.pointer = "/a~1b/1/id" := by decide +kernel
  have hpointer' : c'.pointer = c.pointer := by decide +kernel
  obtain ⟨pattern, hparse, -, hlength, hfits⟩ := parse_pointer_fits hp hc hp' hc' hname hstar
  rw [hpointer] at hparse
  exact ⟨hp, hc, hp', hc', hname, hstar, hpointer, pattern, hparse, hlength, hfits.mpr hpointer'⟩

end Pattern
end StreamMask
