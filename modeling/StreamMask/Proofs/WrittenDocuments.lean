/-
What a writer of JSON has written, whatever has come before.

What stands between a value and what came before it depends on where it stands and on whether
anything came before (`Position.separator`). The writer knows no position; but where a
document has been written up to a position, its flags are those of the open containers
(`Writer.Stands`), which each event keeps. So a whole value adds its text and the separator, and
leaves no other trace than that the innermost container has a member now.
-/
import StreamMask.Proofs.LogLines
import StreamMask.Proofs.Nesting
import StreamMask.Proofs.WriterFacts

namespace StreamMask

/-! ## Where a writer stands -/

/-- What stands before a value at a position, if a document has been begun or not. -/
def Position.separator (p : Position) (isBegun : Bool) : String :=
  match p.frames with
  | [] => if isBegun then "\n" else ""
  | .array index :: _ => if 0 < index then "," else ""
  | .object _ :: _ => ""

/-- Whether the flag of the innermost container tells that it has a member, one in progress included.
Between the fields of an object nothing tells whether there are any. -/
def Frame.Marked : Frame → (isStarted : Bool) → Prop
  | .array index, isStarted => isStarted = decide (0 < index)
  | .object (some _), isStarted => isStarted = true
  | .object none, _ => True

/-- Whether flags are those of open containers. All but the innermost have a member, the one that
the next container is in. -/
inductive Writer.Flags : List Frame → List Bool → Prop where
  | root : Flags [] []
  | inside {frame : Frame} {outer : List Frame} {isStarted : Bool} (marked : frame.Marked isStarted) :
    Flags (frame :: outer) (isStarted :: List.replicate outer.length true)

namespace Writer

/-- Whether a writer is as it is when a document has been written up to a position. -/
structure Stands (writer : Writer String) (p : Position) (isBegun : Bool) : Prop where
  started : Flags p.frames writer.started
  afterName : writer.afterName = p.name?.isSome
  begun : writer.begun = isBegun
  begun_of_open : p.frames ≠ [] → isBegun = true

namespace Stands

variable {writer : Writer String} {p q : Position} {isBegun : Bool}

theorem fresh (output : String) : Stands (Writer.fresh output) .root false :=
  ⟨.root, rfl, rfl, fun h => absurd rfl h⟩

theorem inside (output : String) (p : Position) {frame : Frame} {isStarted : Bool}
    (hmarked : frame.Marked isStarted) :
    Stands ⟨output, isStarted :: List.replicate p.depth true, frame.name?.isSome, true⟩
      ⟨frame :: p.frames⟩ true :=
  ⟨.inside hmarked, rfl, rfl, fun _ => rfl⟩

/-- After a value, every open container has a member. -/
theorem complete (output : String) (p : Position) :
    Stands ⟨output, List.replicate p.depth true, false, true⟩ p.complete true := by
  obtain ⟨_ | ⟨frame, outer⟩⟩ := p
  · exact ⟨.root, rfl, rfl, fun _ => rfl⟩
  · cases frame with
    | object pending =>
      have hmarked : (Frame.object none).Marked true := trivial
      exact inside output ⟨outer⟩ hmarked
    | array index =>
      have hmarked : (Frame.array (index + 1)).Marked true := by simp [Frame.Marked]
      exact inside output ⟨outer⟩ hmarked

theorem started_eq (h : Stands writer p isBegun) :
    List.replicate p.depth true = writer.started.set 0 true := by
  obtain ⟨output, started, afterName, begun⟩ := writer
  obtain ⟨frames⟩ := p
  cases h.started with
  | root => rfl
  | inside marked => rfl

/-- **What stands before a value** is told by the position. -/
theorem separated_eq (h : Stands writer p isBegun) (hp : p.Ready) :
    writer.separated =
      ⟨writer.output ++ p.separator isBegun, List.replicate p.depth true, false, true⟩ := by
  obtain ⟨output, started, afterName, begun⟩ := writer
  obtain ⟨frames⟩ := p
  obtain ⟨hstarted, rfl, rfl, hopen⟩ := h
  cases hstarted with
  | root => rfl
  | @inside frame outer isStarted marked =>
    have hbegun : begun = true := hopen (List.cons_ne_nil _ _)
    subst hbegun
    cases frame with
    | array index =>
      simp only [Frame.Marked] at marked
      subst marked
      simp [Position.separator, Position.name?, Position.current?, Position.depth, Frame.name?,
        separated, Tree.comma, List.replicate_succ]
    | object pending =>
      cases pending with
      | none => exact absurd rfl (hp outer)
      | some name =>
        simp only [Frame.Marked] at marked
        subst marked
        simp [Position.separator, Position.name?, Position.current?, Position.depth, Frame.name?,
          separated, List.replicate_succ]

/-- **Each event keeps the flags in step with the position.** -/
theorem write (h : Stands writer p isBegun) {event : Event} (hmoves : p.Moves event q) :
    Stands (Sink.write writer event).1 q (event ≠ .flush || isBegun) := by
  cases hmoves with
  | @beginArray _ hint hp =>
    show Stands (writer.beginContainer "[").1 _ _
    rw [beginContainer, beforeValue_eq, h.separated_eq hp]
    have hmarked : (Frame.array 0).Marked false := rfl
    exact inside _ p hmarked
  | @beginObject _ hint hp =>
    show Stands (writer.beginContainer "\x7b").1 _ _
    rw [beginContainer, beforeValue_eq, h.separated_eq hp]
    have hmarked : (Frame.object none).Marked false := trivial
    exact inside _ p hmarked
  | @endArray p index =>
    obtain ⟨output, started, afterName, begun⟩ := writer
    obtain ⟨hstarted, rfl, rfl, hopen⟩ := h
    obtain rfl : begun = true := hopen (List.cons_ne_nil _ _)
    cases hstarted with
    | inside marked => exact complete _ p
  | @endObject p =>
    obtain ⟨output, started, afterName, begun⟩ := writer
    obtain ⟨hstarted, rfl, rfl, hopen⟩ := h
    obtain rfl : begun = true := hopen (List.cons_ne_nil _ _)
    cases hstarted with
    | inside marked => exact complete _ p
  | @field p name =>
    obtain ⟨output, started, afterName, begun⟩ := writer
    obtain ⟨hstarted, rfl, rfl, hopen⟩ := h
    obtain rfl : begun = true := hopen (List.cons_ne_nil _ _)
    cases hstarted with
    | @inside _ _ isStarted marked =>
      show Stands (Writer.field _ name).1 _ _
      unfold Writer.field
      simp only [separate_eq]
      have hmarked : (Frame.object (some name)).Marked true := rfl
      exact inside _ p hmarked
  | @scalar _ value hp =>
    show Stands (writer.scalar value).1 _ _
    rw [scalar, beforeValue_eq, h.separated_eq hp]
    exact complete _ p
  | flush => exact h

/-- So do all events over which a position advances. -/
theorem writeAll (h : Stands writer p isBegun) {events : List Event}
    (hq : events.foldlM Position.advance p = .ok q) :
    ∃ after : Writer String, Sink.writeAll writer events = (after, .ok ()) ∧
      Stands after q (!(Event.content events).isEmpty || isBegun) := by
  induction events generalizing writer p isBegun with
  | nil =>
    cases hq
    exact ⟨writer, rfl, h⟩
  | cons event events ih =>
    rw [List.foldlM_cons] at hq
    cases hr : p.advance event with
    | error fault =>
      rw [hr] at hq
      cases hq
    | ok r =>
      rw [hr] at hq
      obtain ⟨after, hwritten, hafter⟩ := ih (h.write (Position.advance_eq_ok.mp hr)) hq
      have hevent : Sink.write writer event = ((Sink.write writer event).1, .ok ()) :=
        Prod.ext rfl (write_ok writer event)
      refine ⟨after, by rw [Sink.writeAll_cons, hevent, Outcome.andThen_ok, hwritten], ?_⟩
      by_cases hflush : event = .flush
      · simpa [Event.content, hflush] using hafter
      · simpa [Event.content, hflush] using hafter

end Stands

/-! ## Values -/

/-- A flush makes no difference to what is written. -/
theorem writeAll_content (writer : Writer String) (events : List Event) :
    Sink.writeAll writer (Event.content events) = Sink.writeAll writer events := by
  induction events generalizing writer with
  | nil => rfl
  | cons event events ih =>
    by_cases hflush : event = .flush
    · subst hflush
      exact ih writer
    · rw [Event.content, List.filter_cons_of_pos (by simpa using hflush), Sink.writeAll_cons,
        Sink.writeAll_cons]
      congr 1
      funext writer
      exact ih writer

/-- **One more value** adds its text and what separates it. -/
theorem Stands.writeAll_value {writer : Writer String} {p : Position} {isBegun : Bool}
    (h : Stands writer p isBegun) (hp : p.Ready) {value : List Event} {tree : Tree}
    (hvalue : Event.content value = tree.events) :
    Sink.writeAll writer value =
      (⟨writer.output ++ p.separator isBegun ++ tree.json, writer.started.set 0 true, false, true⟩,
        .ok ()) := by
  rw [← writeAll_content, hvalue, writeAll_tree, h.separated_eq hp, h.started_eq]
  rfl

/-- After a first document, each one adds a line end and its text. -/
theorem writeAll_documents (trees : List Tree) (output : String) :
    Sink.writeAll (⟨output, [], false, true⟩ : Writer String) (trees.flatMap Tree.events) =
      (⟨"\n".intercalate (output :: trees.map Tree.json), [], false, true⟩, .ok ()) := by
  induction trees generalizing output with
  | nil => rw [List.map_nil, String.intercalate_singleton]; rfl
  | cons tree trees ih =>
    rw [List.flatMap_cons, Sink.writeAll_append, writeAll_tree, Outcome.andThen_ok]
    show Sink.writeAll (⟨output ++ "\n" ++ tree.json, [], false, true⟩ : Writer String) _ = _
    rw [ih, String.intercalate_cons_append, List.map_cons, String.intercalate_cons_cons]

end Writer

/-! ## Bytes -/

namespace Text

theorem quoteChar_base64Char (n : Nat) : Json.quoteChar (base64Char n) = [base64Char n] := by
  by_cases h : n < 63
  · have hall : ∀ n < 63, Json.quoteChar (base64Char n) = [base64Char n] := by decide
    exact hall n h
  · have hlast : base64Char n = '/' := by
      unfold base64Char
      rw [if_neg (by omega), if_neg (by omega), if_neg (by omega), if_neg (by omega)]
    rw [hlast]
    rfl

/-- Nothing in the text of bytes needs an escape. -/
theorem quote_base64 (bytes : List UInt8) :
    Json.quote (base64 bytes) = "\"" ++ base64 bytes ++ "\"" := by
  have hplain : (base64Chars bytes).flatMap Json.quoteChar = base64Chars bytes := by
    have hpad : Json.quoteChar '=' = ['='] := rfl
    fun_induction base64Chars bytes with
    | case1 => rfl
    | case2 a n => simp [quoteChar_base64Char, hpad]
    | case3 a b n => simp [quoteChar_base64Char, hpad]
    | case4 a b c rest n ih => simp [quoteChar_base64Char, ih]
  rw [Json.quote, Json.quoteChars, base64, String.toList_ofList, hplain]
  exact String.toList_inj.mp (by simp)

/-- The text of bytes is padded to whole groups of four. -/
theorem length_base64 (bytes : List UInt8) :
    (base64 bytes).length = 4 * ((bytes.length + 2) / 3) := by
  rw [base64, String.length_ofList]
  fun_induction base64Chars bytes with
  | case1 => rfl
  | case2 a n => simp
  | case3 a b n => simp
  | case4 a b c rest n ih =>
    simp only [List.length_cons, ih]
    omega

end Text

/-! ## The printer -/

open Writer (Stands)

/-- Documents are written with line ends in between, flushed or not. -/
theorem Writer.writeAll_fresh {trees : List Tree} {events : List Event}
    (h : Event.content events = trees.flatMap Tree.events) :
    ∃ writer : Writer String, Sink.writeAll (Writer.fresh "") events = (writer, .ok ()) ∧
      writer.output = "\n".intercalate (trees.map Tree.json) := by
  rw [← writeAll_content, h]
  cases trees with
  | nil => exact ⟨Writer.fresh "", rfl, rfl⟩
  | cons tree trees =>
    have hfirst : Sink.writeAll (Writer.fresh "") tree.events =
        ((⟨tree.json, [], false, true⟩ : Writer String), .ok ()) := by
      have hroot : (Writer.fresh "").separated.text tree.json =
          ⟨"" ++ "" ++ tree.json, [], false, true⟩ := rfl
      rw [writeAll_tree, hroot, String.empty_append, String.empty_append]
    refine ⟨⟨"\n".intercalate (tree.json :: trees.map Tree.json), [], false, true⟩, ?_, rfl⟩
    rw [List.flatMap_cons, Sink.writeAll_append, hfirst, Outcome.andThen_ok, writeAll_documents]

/-- **The writer is a compact printer.** The events of some documents, with flushes anywhere, are
written as the documents' texts with line ends in between. Where events have been written up to
a position and a value may come, one more value adds what separates it there and its text. Then
the writer has the same containers open, of which the innermost has a member now, and waits for
no value of a field. The text of a container has its members with commas in between and nothing
else, a name is joined to its value by a colon; digits and raw text stand as they are, a float
that is no number or infinite is null, and bytes are a string of padded groups of four characters. -/
theorem writer_prints_documents :
    (∀ (trees : List Tree) (events : List Event), Event.content events = trees.flatMap Tree.events →
      ∃ writer : Writer String, Sink.writeAll (Writer.fresh "") events = (writer, .ok ()) ∧
        writer.output = "\n".intercalate (trees.map Tree.json)) ∧
    (∀ (written value : List Event) (p : Position) (tree : Tree),
      written.foldlM Position.advance .root = .ok p → p.Ready → Event.content value = tree.events →
      ∃ before after : Writer String,
        Sink.writeAll (Writer.fresh "") written = (before, .ok ()) ∧
        Sink.writeAll before value = (after, .ok ()) ∧
        after.output = before.output ++ p.separator (!(Event.content written).isEmpty) ++ tree.json ∧
        before.started.length = p.depth ∧ after.started = before.started.set 0 true ∧
        before.afterName = p.name?.isSome ∧ after.afterName = false) ∧
    (∀ hint items, (Tree.array hint items).json = "[" ++ ",".intercalate (items.map Tree.json) ++ "]") ∧
    (∀ hint fields, (Tree.object hint fields).json =
      "\x7b" ++ ",".intercalate (fields.map fun (name, value) => Json.quote name ++ ":" ++ value.json) ++
        "\x7d") ∧
    (∀ text, (Tree.scalar (.bigInteger text)).json = text ∧ (Tree.scalar (.bigDecimal text)).json = text ∧
      (Tree.scalar (.raw text)).json = text) ∧
    (∀ value : Binary64, ¬value.isFinite → (Tree.scalar (.float value)).json = "null") ∧
    ∀ bytes, (Tree.scalar (.binary bytes)).json = "\"" ++ Text.base64 bytes ++ "\"" ∧
      (Text.base64 bytes).length = 4 * ((bytes.length + 2) / 3) := by
  refine ⟨fun trees events => Writer.writeAll_fresh, ?_, ?_, ?_, fun text => ⟨rfl, rfl, rfl⟩,
    fun value => render_not_finite, fun bytes => ⟨Text.quote_base64 bytes, Text.length_base64 bytes⟩⟩
  · intro written value p tree hwritten hp hvalue
    obtain ⟨before, hbefore, hstands⟩ := (Stands.fresh "").writeAll hwritten
    rw [Bool.or_false] at hstands
    have hadded := hstands.writeAll_value hp hvalue
    have hlength : before.started.length = p.depth := by
      rw [← List.length_set, ← hstands.started_eq, List.length_replicate]
    exact ⟨before, _, hbefore, hadded, rfl, hlength, rfl, hstands.afterName, rfl⟩
  · intro hint items
    rw [Tree.json, Tree.itemsJson_eq_intercalate]
  · intro hint fields
    rw [Tree.json, Tree.fieldsJson_eq_intercalate]

/-- Two documents with a flush in between, and a list that is a second value of a field of the second. -/
theorem writer_prints_documents_in_field :
    (let object : Tree := .object (some 1) [("a", .array none [.scalar (.integer 1), .scalar .null])]
     let events := .scalar (.raw "1.50") :: .flush :: object.events
     Event.content events = [.scalar (.raw "1.50"), object].flatMap Tree.events ∧
      ∃ writer : Writer String, Sink.writeAll (Writer.fresh "") events = (writer, .ok ()) ∧
        writer.output = "\n".intercalate ["1.50", "\x7b\"a\":[1,null]\x7d"]) ∧
    let written := [.scalar .null, .beginObject none, .field "a", .beginArray none, .scalar (.bool true)]
    let tree : Tree := .array none [.scalar (.binary [255])]
    ∃ before after : Writer String,
      Sink.writeAll (Writer.fresh "") written = (before, .ok ()) ∧
      Sink.writeAll before (.flush :: tree.events) = (after, .ok ()) ∧
      after.output = before.output ++ "," ++ "[\"/w==\"]" ∧ after.started = [true, true] := by
  obtain ⟨hdocuments, hvalue, -⟩ := writer_prints_documents
  refine ⟨?_, ?_⟩
  · intro object events
    have hcontent : Event.content events = [.scalar (.raw "1.50"), object].flatMap Tree.events := rfl
    have hprinted := hdocuments _ _ hcontent
    exact ⟨hcontent, hprinted⟩
  · intro written tree
    obtain ⟨before, after, hbefore, hafter, houtput, -, hstarted, -⟩ :=
      hvalue written (.flush :: tree.events) ⟨[.array 1, .object (some "a")]⟩ tree rfl nofun rfl
    refine ⟨before, after, hbefore, hafter, houtput, ?_⟩
    cases hbefore
    exact hstarted

end StreamMask
