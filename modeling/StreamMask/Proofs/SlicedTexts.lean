/-
A text that is looked at again slice by slice.

The second look at a well-formed text never disagrees with the first: it goes from member
to member where the first one did, takes just the slices of the members, and finds the same
fault in a string, since a fault lies in the string itself and its place is counted from
the same point. So both ways of writing a text come to the same (`replaySlices_eq`).
-/
import StreamMask.Json.Slices
import StreamMask.Proofs.ScriptFacts
import StreamMask.Proofs.ShapeFacts

namespace StreamMask.Json

/-! ## Faults in strings -/

namespace Medium

theorem size_append (medium : Medium) (xs ys : List Char) :
    medium.size (xs ++ ys) = medium.size xs + medium.size ys := by
  induction xs with
  | nil => exact (Nat.zero_add _).symm
  | cons c xs ih =>
    show medium.width c + medium.size (xs ++ ys) = medium.width c + medium.size xs + medium.size ys
    rw [ih, Nat.add_assoc]

/-- A place in a text does not depend on what follows the text. -/
theorem placeFrom_append (place : Place) {bytes : Nat} {text : List Char}
    (h : bytes ≤ Medium.text.size text) (rest : List Char) :
    Medium.text.placeFrom place bytes (text ++ rest) = Medium.text.placeFrom place bytes text := by
  induction text generalizing place bytes with
  | nil =>
    obtain rfl : bytes = 0 := Nat.le_zero.mp h
    cases rest <;> rfl
  | cons c text ih =>
    cases bytes with
    | zero => rfl
    | succ bytes =>
      have hbytes : bytes + 1 ≤ c.utf8Size + Medium.text.size text := h
      rw [List.cons_append, placeFrom, placeFrom]
      split
      · next hline =>
        have hone : c.utf8Size = 1 := hline ▸ rfl
        exact ih _ (by omega)
      · exact ih _ (Nat.sub_le_iff_le_add'.mpr hbytes)

end Medium

theorem Stop.Within.fault_before {stop : Stop} {text : List Char} (h : stop.Within text)
    (rest : List Char) : (stop.before rest).fault .text (text ++ rest) = stop.fault .text text := by
  obtain ⟨⟨before, rfl⟩, hahead⟩ := h
  have hbytes : Medium.text.size (before ++ stop.rest ++ rest) - Medium.text.size (stop.rest ++ rest) =
      Medium.text.size (before ++ stop.rest) - Medium.text.size stop.rest := by
    simp only [Medium.size_append]
    omega
  have hsize := Medium.text.size_append before stop.rest
  simp only [Stop.fault, Stop.place, Stop.before, Medium.place, hbytes]
  rw [Medium.placeFrom_append _ (by omega)]

/-- What a string says, or where its fault is, does not depend on what follows it. -/
theorem decode_quoted_append {parts : List Part} (hvalid : ∀ part ∈ parts, part.Valid)
    (before rest : List Char) :
    Node.decode (before ++ Part.quoted parts rest) (Part.quoted parts rest) =
      Node.decode (before ++ Part.quoted parts []) (Part.quoted parts []) := by
  rw [Node.decode, Node.decode]
  cases hmeaning : meaning parts with
  | some chars => rw [readString_said hvalid hmeaning, readString_said hvalid hmeaning]
  | none =>
    obtain ⟨stop, hwithin, hstop⟩ := readString_unsaid hvalid hmeaning
    have hfault := (hwithin.of_suffix (List.suffix_append before _)).fault_before
    have hnil := hfault []
    rw [List.append_nil] at hnil
    simp only [hstop]
    rw [quoted_append parts rest, ← List.append_assoc, hfault, hnil]

/-! ## Walks through a text -/

variable {σ : Type} [Sink σ]

/-- Whether a part of a script is written as a walk through a text writes it. -/
def Walked (script : Script → Script) (walk : σ → Outcome σ) : Prop :=
  ∀ (next : Script) (sink : σ), (script next).replay sink = Outcome.andThen (walk sink) next.replay

theorem Walked.push (event : Event) : Walked (·.push event) (fun sink : σ => Sink.write sink event) :=
  fun next sink => Script.replay_push event next sink

theorem Walked.pushText (text : Except Fault String) (event : String → Event) :
    Walked (·.pushText text event) (fun sink : σ => writeText text event sink) := by
  intro next sink
  cases text with
  | ok text => exact Script.replay_push (event text) next sink
  | error fault => rfl

theorem Walked.followed {first second : Script → Script} {walk walk' : σ → Outcome σ}
    (h : Walked first walk) (h' : Walked second walk') :
    Walked (fun next => first (second next)) (fun sink => Outcome.andThen (walk sink) walk') := by
  intro next sink
  rw [h, Outcome.andThen_assoc]
  congr 1
  funext sink
  exact h' next sink

theorem Walked.replay {script : Script → Script} {walk : σ → Outcome σ} (h : Walked script walk)
    (sink : σ) : (script .done).replay sink = walk sink := by
  rw [h]
  obtain ⟨state, _ | _⟩ := walk sink <;> rfl

/-! ## Steps of the walk -/

/-- A value that follows blanks is taken as a slice. -/
theorem readSlice_spells {value : Value} {slice text rest : List Char} (h : Spells value slice)
    (hskip : skipBlank text = slice ++ rest) (hrest : NoNumber rest) :
    readSlice text = .ok (slice, rest) := by
  obtain ⟨before, hbefore, htext⟩ := skipBlank_split text
  rw [hskip] at htext
  have hfuel : 2 * slice.length ≤ Node.fuelFor text := by
    rw [Node.fuelFor, htext, List.length_append, List.length_append]
    omega
  obtain ⟨node, -, hread⟩ := readValue_spells .text h _ hfuel hrest
  have hvalue : Node.read .text text = .ok (node, rest) := by
    rw [Node.read, ← hread]
    generalize Node.fuelFor text = fuel
    rw [htext]
    exact readValue_blank fuel hbefore (h.noBlank rest)
  simp only [readSlice, hvalue, hskip, Except.map, List.length_append, Nat.add_sub_cancel,
    List.take_left]

theorem replaySlice_plain {fuel : Nat} {c : Char} {text : List Char} {value : Scalar}
    (hc : c ≠ '[' ∧ c ≠ '\x7b' ∧ c ≠ '"') (hread : readPlain (c :: text) = .ok value) :
    (replaySlice (fuel + 1) (c :: text) : σ → Outcome σ) =
      fun sink => Sink.write sink (.scalar value) := by
  funext sink
  rw [replaySlice, hread]
  · exact fun _ heq => hc.1 (List.cons.inj heq).1
  · exact fun _ heq => hc.2.1 (List.cons.inj heq).1
  · exact fun _ heq => hc.2.2 (List.cons.inj heq).1

theorem readPlain_number {n : Numeral} (h : n.Valid) : readPlain n.text = .ok (.ofNumeral n) := by
  obtain ⟨c, tail, htext, hc⟩ := h.head
  have hword {word : String} {d : Char} {letters : List Char} (hletters : word.toList = d :: letters)
      (hd : d ≠ '-' ∧ d.isDigit = false) : n.text ≠ word.toList := by
    rw [htext, hletters]
    exact fun heq => numberHead_ne hc hd (List.cons.inj heq).1
  have hread := readNumeral_append h (show NoNumber [] from trivial)
  rw [List.append_nil] at hread
  rw [readPlain, if_neg (hword rfl (by decide)), if_neg (hword rfl (by decide)),
    if_neg (hword rfl (by decide)), hread]
  rfl

theorem replayItems_item {fuel : Nat} {slice text first item left : List Char} {isFirst : Bool}
    (hnext : Datum.nextItem isFirst text = .ok (some first)) (hread : readSlice first = .ok (item, left)) :
    (replayItems (fuel + 1) slice isFirst text : σ → Outcome σ) = fun sink =>
      Outcome.andThen (replaySlice fuel item sink) (replayItems fuel slice false left) := by
  funext sink
  rw [replayItems]
  simp only [hnext, hread]

theorem replayItems_end {fuel : Nat} {slice text rest : List Char} {isFirst : Bool}
    (hend : skipBlank text = ']' :: rest) :
    Walked (·.push .endArray) (replayItems (fuel + 1) slice isFirst text : σ → Outcome σ) := by
  intro next sink
  rw [replayItems]
  simp only [Datum.nextItem_end isFirst hend, Script.replay_push]

theorem replayFields_field {fuel : Nat} {slice text after behind value left : List Char} {isFirst : Bool}
    {parts : List Part} (hvalid : ∀ part ∈ parts, part.Valid) (hafter : Blank after)
    (hnext : Datum.nextField isFirst text = .ok (some (Part.quoted parts (after ++ ':' :: behind))))
    (hread : readSlice behind = .ok (value, left)) :
    (replayFields (fuel + 1) slice isFirst text : σ → Outcome σ) = fun sink =>
      Outcome.andThen (writeText (Node.decode slice (Part.quoted parts (after ++ ':' :: behind))) .field sink)
        fun sink => Outcome.andThen (replaySlice fuel value sink) (replayFields fuel slice false left) := by
  have hcolon : Datum.readColon (after ++ ':' :: behind) = .ok behind := by
    rw [Datum.readColon, skipBlank_append hafter (noBlank_cons behind rfl)]
    rfl
  funext sink
  rw [replayFields]
  simp only [hnext, Node.decode]
  cases hmeaning : meaning parts with
  | some chars => simp only [readString_said hvalid hmeaning, hcolon, hread, writeText]
  | none =>
    obtain ⟨stop, -, hstop⟩ := readString_unsaid hvalid hmeaning
    simp only [hstop, writeText, Outcome.andThen_error, stopped]

theorem replayFields_end {fuel : Nat} {slice text rest : List Char} {isFirst : Bool}
    (hend : skipBlank text = '\x7d' :: rest) :
    Walked (·.push .endObject) (replayFields (fuel + 1) slice isFirst text : σ → Outcome σ) := by
  intro next sink
  rw [replayFields]
  simp only [Datum.nextField_end isFirst hend, Script.replay_push]

/-! ## The walk through a well-formed text -/

-- The induction is on how the slice is written. The reader of the whole text and the walk have fuel of
-- their own, since the walk begins anew with that of the slice.
mutual

/-- **A slice is written as it was read in the whole text.** -/
theorem slice_walked {value : Value} {slice : List Char} (h : Spells value slice) (fuel fuel' : Nat)
    (hfuel : 2 * slice.length ≤ fuel) (hfuel' : 2 * slice.length ≤ fuel') {rest : List Char}
    (hrest : NoNumber rest) :
    ∃ node, Node.readValue .text fuel' (slice ++ rest) = .ok (node, rest) ∧
      Walked node.script (replaySlice fuel slice : σ → Outcome σ) := by
  have hpos : 0 < slice.length := by
    obtain ⟨c, tail, rfl, -⟩ := h.head
    exact Nat.succ_pos _
  obtain ⟨fuel, rfl⟩ : ∃ k, fuel = k + 1 := ⟨fuel - 1, by omega⟩
  obtain ⟨fuel', rfl⟩ : ∃ k, fuel' = k + 1 := ⟨fuel' - 1, by omega⟩
  match h with
  | .null =>
    refine ⟨.null, readLiteral_append "ull" .null rest, ?_⟩
    rw [replaySlice_plain (by decide) rfl]
    exact .push _
  | .bool true =>
    refine ⟨.bool true, readLiteral_append "rue" (.bool true) rest, ?_⟩
    rw [show (toString true).toList = 't' :: ['r', 'u', 'e'] from rfl, replaySlice_plain (by decide) rfl]
    exact .push _
  | .bool false =>
    refine ⟨.bool false, readLiteral_append "alse" (.bool false) rest, ?_⟩
    rw [show (toString false).toList = 'f' :: ['a', 'l', 's', 'e'] from rfl,
      replaySlice_plain (by decide) rfl]
    exact .push _
  | @Spells.number n valid =>
    obtain ⟨c, tail, htext, hc⟩ := valid.head
    have hread := readPlain_number valid
    refine ⟨.number n, readValue_number fuel' valid hrest, ?_⟩
    rw [htext] at hread ⊢
    rw [replaySlice_plain ⟨numberHead_ne hc (by decide), numberHead_ne hc (by decide),
      numberHead_ne hc (by decide)⟩ hread]
    exact .push _
  | @Spells.string parts valid =>
    have hdecode : Node.decode ('"' :: Part.quoted parts rest) (Part.quoted parts rest) =
        Node.decode ('"' :: Part.quoted parts []) (Part.quoted parts []) :=
      decode_quoted_append valid ['"'] rest
    rw [List.cons_append, ← quoted_append]
    refine ⟨_, readValue_string fuel' valid rest, ?_⟩
    rw [hdecode]
    exact .pushText _ _
  | @Spells.emptyArray blank blanks =>
    obtain ⟨fuel, rfl⟩ : ∃ k, fuel = k + 1 := ⟨fuel - 1, by simp at hfuel; omega⟩
    have hend : skipBlank (blank ++ [']']) = [']'] := skipBlank_append blanks (noBlank_cons [] rfl)
    rw [List.cons_append, List.append_assoc]
    exact ⟨_, readValue_emptyArray fuel' blanks rest, (Walked.push _).followed (replayItems_end hend)⟩
  | @Spells.emptyObject blank blanks =>
    obtain ⟨fuel, rfl⟩ : ∃ k, fuel = k + 1 := ⟨fuel - 1, by simp at hfuel; omega⟩
    have hend : skipBlank (blank ++ ['\x7d']) = ['\x7d'] := skipBlank_append blanks (noBlank_cons [] rfl)
    rw [List.cons_append, List.append_assoc]
    exact ⟨_, readValue_emptyObject fuel' blanks rest, (Walked.push _).followed (replayFields_end hend)⟩
  | @Spells.array items text spells =>
    simp only [List.length_cons, List.length_append, List.length_nil] at hfuel hfuel'
    obtain ⟨nodes, hread, hwalk⟩ := items_walked spells fuel fuel' (by omega) (by omega)
      (Datum.nextItem_first rfl (spells.head _)) rest
    rw [List.cons_append, List.append_assoc]
    exact ⟨.array nodes, readValue_array hread (spells.head _), (Walked.push _).followed hwalk⟩
  | @Spells.object fields text spells =>
    simp only [List.length_cons, List.length_append, List.length_nil] at hfuel hfuel'
    obtain ⟨nodes, hread, hwalk⟩ := fields_walked spells fuel fuel' (by omega) (by omega)
      ['\x7b'] rfl rfl fun _ => Datum.nextField_first
    rw [List.cons_append, List.append_assoc]
    exact ⟨.object nodes, readValue_object hread (spells.head _), (Walked.push _).followed hwalk⟩

/-- An item or a value of a field is taken as the slice between the blanks around it. -/
theorem element_walked {value : Value} {text : List Char} (h : SpellsElement value text)
    (fuel fuel' : Nat) (hfuel : 2 * text.length ≤ fuel) (hfuel' : 2 * text.length ≤ fuel') (c : Char)
    (hnumber : c.isDigit = false ∧ c ≠ '.' ∧ c ≠ 'e' ∧ c ≠ 'E') (hblank : isBlank c = false)
    (tail tail' : List Char) :
    ∃ slice left node read,
      (∀ behind, skipBlank behind = skipBlank (text ++ c :: tail) → readSlice behind = .ok (slice, left)) ∧
      skipBlank left = c :: tail ∧
      Node.readValue .text fuel' (text ++ c :: tail') = .ok (node, read) ∧ skipBlank read = c :: tail' ∧
      Walked node.script (replaySlice fuel slice : σ → Outcome σ) := by
  match h with
  | @SpellsElement.padded _ before slice after hbefore hspells hafter =>
    simp only [List.length_append] at hfuel hfuel'
    have hskip (tail : List Char) : skipBlank (after ++ c :: tail) = c :: tail :=
      skipBlank_append hafter (noBlank_cons tail hblank)
    have hends (tail : List Char) : NoNumber (after ++ c :: tail) :=
      noNumber_blank hafter (noNumber_cons tail hnumber)
    obtain ⟨node, hread, hwalk⟩ :=
      slice_walked hspells fuel fuel' (by omega) (by omega) (hends tail')
    refine ⟨slice, after ++ c :: tail, node, after ++ c :: tail', fun behind hbehind => ?_, hskip tail, ?_,
      hskip tail', hwalk⟩
    · rw [List.append_assoc, List.append_assoc, skipBlank_append hbefore (hspells.noBlank _)] at hbehind
      exact readSlice_spells hspells hbehind (hends tail)
    · rw [List.append_assoc, List.append_assoc, readValue_blank fuel' hbefore (hspells.noBlank _), hread]

/-- The items that are left of an array are walked through as they were read. -/
theorem items_walked {items : List Value} {text : List Char} (h : SpellsItems items text)
    (fuel fuel' : Nat) (hfuel : 2 * text.length + 2 ≤ fuel) (hfuel' : 2 * text.length + 1 ≤ fuel')
    {slice behind : List Char} {isFirst : Bool}
    (hnext : Datum.nextItem isFirst behind = .ok (some (skipBlank (text ++ [']'])))) (rest : List Char) :
    ∃ nodes, Node.readItems .text fuel' (text ++ ']' :: rest) = .ok (nodes, rest) ∧
      Walked (fun next => Node.itemsScript nodes (next.push .endArray))
        (replayItems fuel slice isFirst behind : σ → Outcome σ) := by
  obtain ⟨fuel, rfl⟩ : ∃ k, fuel = k + 1 := ⟨fuel - 1, by omega⟩
  obtain ⟨fuel', rfl⟩ : ∃ k, fuel' = k + 1 := ⟨fuel' - 1, by omega⟩
  have hskip (text : List Char) : skipBlank (skipBlank text) = skipBlank text :=
    skipBlank_noBlank (noBlank_skipBlank text)
  match h with
  | .last helement =>
    obtain ⟨item, left, node, read, hslice, hleft, hread, hend, hwalk⟩ :=
      element_walked helement fuel fuel' (by omega) (by omega) ']' (by decide) rfl [] rest
    obtain ⟨fuel, rfl⟩ : ∃ k, fuel = k + 1 := ⟨fuel - 1, by omega⟩
    refine ⟨[node], readItems_last hread hend, ?_⟩
    rw [replayItems_item hnext (hslice _ (hskip _))]
    exact hwalk.followed (replayItems_end hleft)
  | @SpellsItems.more _ _ text others helement hothers =>
    simp only [List.length_append, List.length_cons] at hfuel hfuel'
    rw [List.append_assoc] at hnext ⊢
    obtain ⟨item, left, node, read, hslice, hleft, hread, hend, hwalk⟩ :=
      element_walked helement fuel fuel' (by omega) (by omega) ',' (by decide) rfl
        (others ++ [']']) (others ++ ']' :: rest)
    obtain ⟨nodes, hreads, hwalks⟩ := items_walked hothers fuel fuel' (by omega) (by omega)
      (Datum.nextItem_next hleft rfl (hothers.head _)) rest
    refine ⟨node :: nodes, readItems_more hread hend hreads, ?_⟩
    rw [replayItems_item hnext (hslice _ (hskip _))]
    exact hwalk.followed hwalks

/-- A field is walked through as it was read, if what follows it is. -/
theorem field_walked {field : Option String × Value} {text : List Char} (h : SpellsField field text)
    (fuel fuel' : Nat) (hfuel : 2 * text.length ≤ fuel) (hfuel' : 2 * text.length ≤ fuel') (c : Char)
    (hnumber : c.isDigit = false ∧ c ≠ '.' ∧ c ≠ 'e' ∧ c ≠ 'E') (hblank : isBlank c = false)
    {before tail tail' slice start : List Char} (hslice : slice = before ++ (text ++ c :: tail))
    (hstart : start = before ++ (text ++ c :: tail')) :
    ∃ name node quoted left,
      ReadsField .text fuel' start (text ++ c :: tail') (c :: tail') name node ∧
      skipBlank (text ++ c :: tail) = '"' :: quoted ∧ skipBlank left = c :: tail ∧
      ∀ {isFirst : Bool} {behind : List Char} {others : Script → Script},
        Datum.nextField isFirst behind = .ok (some quoted) →
        Walked others (replayFields fuel slice false left : σ → Outcome σ) →
        Walked (fun next => (node.script (others next)).pushText name .field)
          (replayFields (fuel + 1) slice isFirst behind : σ → Outcome σ) := by
  match h with
  | @SpellsField.named parts _ blank after text hbefore hvalid hafter helement =>
    simp only [Part.quoted, List.length_append, List.length_cons] at hfuel hfuel'
    obtain ⟨value, left, node, read, hvalue, hleft, hread, hend, hwalk⟩ :=
      element_walked helement fuel fuel' (by omega) (by omega) c hnumber hblank tail tail'
    have hquoted (tail : List Char) : blank ++ '"' :: Part.quoted parts (after ++ ':' :: text) ++ tail =
        blank ++ '"' :: Part.quoted parts (after ++ ':' :: (text ++ tail)) := by
      simp only [Part.quoted, List.append_assoc, List.cons_append]
    -- A fault in a name is placed from the object's bracket on, which is as far away in both texts.
    have hname (rest : List Char) := decode_quoted_append hvalid (before ++ (blank ++ ['"'])) rest
    have hsame : Node.decode start (Part.quoted parts (after ++ ':' :: (text ++ c :: tail'))) =
        Node.decode slice (Part.quoted parts (after ++ ':' :: (text ++ c :: tail))) := by
      have hsplit (rest : List Char) : before ++ (blank ++ '"' :: rest) =
          before ++ (blank ++ ['"']) ++ rest := by simp
      rw [hslice, hstart, hquoted, hquoted, hsplit (Part.quoted parts (after ++ ':' :: (text ++ c :: tail))),
        hsplit (Part.quoted parts (after ++ ':' :: (text ++ c :: tail')))]
      exact (hname _).trans (hname _).symm
    have hquote (tail : List Char) :
        skipBlank (blank ++ '"' :: Part.quoted parts (after ++ ':' :: text) ++ tail) =
          '"' :: Part.quoted parts (after ++ ':' :: (text ++ tail)) := by
      rw [hquoted, skipBlank_append hbefore (noBlank_cons _ rfl)]
    refine ⟨_, node, Part.quoted parts (after ++ ':' :: (text ++ c :: tail)), left,
      ⟨_, _, _, read, hquote _, skipString_quoted .text hvalid _, hsame.symm,
        skipBlank_append hafter (noBlank_cons _ rfl), hread, hend⟩, hquote _, hleft, ?_⟩
    intro isFirst behind others hnext hothers
    rw [replayFields_field hvalid hafter hnext (hvalue _ rfl)]
    exact (Walked.pushText _ _).followed (hwalk.followed hothers)

/-- The fields that are left of an object are walked through as they were read. -/
theorem fields_walked {fields : List (Option String × Value)} {text : List Char}
    (h : SpellsFields fields text) (fuel fuel' : Nat) (hfuel : 2 * text.length + 2 ≤ fuel)
    (hfuel' : 2 * text.length + 1 ≤ fuel') (before : List Char) {slice start behind rest : List Char}
    {isFirst : Bool} (hslice : slice = before ++ (text ++ ['\x7d']))
    (hstart : start = before ++ (text ++ '\x7d' :: rest))
    (hnext : ∀ quoted, skipBlank (text ++ ['\x7d']) = '"' :: quoted →
      Datum.nextField isFirst behind = .ok (some quoted)) :
    ∃ nodes, Node.readFields .text fuel' start (text ++ '\x7d' :: rest) = .ok (nodes, rest) ∧
      Walked (fun next => Node.fieldsScript nodes (next.push .endObject))
        (replayFields fuel slice isFirst behind : σ → Outcome σ) := by
  obtain ⟨fuel, rfl⟩ : ∃ k, fuel = k + 1 := ⟨fuel - 1, by omega⟩
  obtain ⟨fuel', rfl⟩ : ∃ k, fuel' = k + 1 := ⟨fuel' - 1, by omega⟩
  match h with
  | .last hfield =>
    obtain ⟨name, node, quoted, left, hread, hquote, hleft, hwalk⟩ :=
      field_walked hfield fuel fuel' (by omega) (by omega) '\x7d' (by decide) rfl hslice hstart
    obtain ⟨fuel, rfl⟩ : ∃ k, fuel = k + 1 := ⟨fuel - 1, by omega⟩
    exact ⟨[(name, node)], readFields_last hread, hwalk (hnext quoted hquote) (replayFields_end hleft)⟩
  | @SpellsFields.more _ _ text others hfield hothers =>
    simp only [List.length_append, List.length_cons] at hfuel hfuel'
    rw [List.append_assoc] at hslice hstart ⊢
    obtain ⟨name, node, quoted, left, hread, hquote, hleft, hwalk⟩ :=
      field_walked hfield fuel fuel' (by omega) (by omega) ',' (by decide) rfl hslice hstart
    have hmember (rest : List Char) : before ++ (text ++ ',' :: (others ++ rest)) =
        before ++ (text ++ [',']) ++ (others ++ rest) := by simp
    obtain ⟨nodes, hreads, hwalks⟩ := fields_walked hothers fuel fuel' (by omega) (by omega) _
      (hslice.trans (hmember _)) (hstart.trans (hmember _)) fun quoted => Datum.nextField_next hleft
    refine ⟨(name, node) :: nodes, readFields_more hread hreads, hwalk (hnext quoted ?_) hwalks⟩
    rw [List.append_assoc]
    exact hquote

end

/-- **A text that is looked at again slice by slice is written as the whole was read**: to every sink
the same events, with the same fault if there is one. -/
theorem replaySlices_eq (text : String) (sink : σ) : replaySlices text sink = replayText text sink := by
  rw [replaySlices, replayText, Node.ofText]
  cases hread : Node.read .text text.toList with
  | error stop =>
    simp only [readSlice, hread, Except.map]
    rfl
  | ok read =>
    obtain ⟨node, rest⟩ := read
    cases hend : readEnd rest with
    | error stop =>
      simp only [readSlice, hread, Except.map, hend]
      rfl
    | ok =>
      have hnode : Node.ofText text.toList = .ok node := by simp only [Node.ofText, hread, hend]
      have hspells := (ofText_iff_spells text.toList node.outline).mp ⟨node, hnode, rfl⟩
      generalize text.toList = chars, node.outline = value at hread hspells
      obtain @⟨_, before, slice, after, hbefore, hspells, hafter⟩ := hspells
      have hends : NoNumber (after ++ []) := noNumber_blank hafter trivial
      rw [List.append_nil] at hends
      have hfuel : 2 * slice.length ≤ Node.fuelFor (before ++ (slice ++ after)) := by
        simp only [Node.fuelFor, List.length_append]
        omega
      obtain ⟨node', hread', hwalk⟩ := @slice_walked σ _ _ _ hspells _ _ (Nat.le_refl _) hfuel _ hends
      have hskip := skipBlank_append hbefore (hspells.noBlank after)
      rw [Node.read, readValue_blank _ hbefore (hspells.noBlank after), hread'] at hread
      cases hread
      simp only [readSlice_spells hspells hskip hends, hend]
      exact (hwalk.replay sink).symm

end StreamMask.Json
