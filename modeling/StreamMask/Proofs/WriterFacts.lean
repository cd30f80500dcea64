/-
The writer of JSON, proved to print trees.

`Tree.json` prints a tree by recursion. To an output that takes everything, the
writer gives the same text, after what separates the tree from what has been
written before, and is then as if the tree had been a scalar.
-/
import StreamMask.Json.Writer
import StreamMask.Proofs.SinkFacts

namespace StreamMask

namespace Tree

/-- What stands before a member of a container. -/
def comma (isStarted : Bool) : String := if isStarted then "," else ""

theorem comma_false : (comma false).toList = [] := rfl

mutual

/-- The compact JSON of a tree. -/
def json : Tree → String
  | scalar value => value.json
  | array _ items => "[" ++ itemsJson false items ++ "]"
  | object _ fields => "\x7b" ++ fieldsJson false fields ++ "\x7d"

/-- The items of an array that has some already or not. -/
def itemsJson : (isStarted : Bool) → List Tree → String
  | _, [] => ""
  | isStarted, item :: items => comma isStarted ++ item.json ++ itemsJson true items

/-- The fields of an object that has some already or not. -/
def fieldsJson : (isStarted : Bool) → List (String × Tree) → String
  | _, [] => ""
  | isStarted, (name, value) :: fields =>
    comma isStarted ++ Json.quote name ++ ":" ++ value.json ++ fieldsJson true fields

end

end Tree

namespace Writer

/-- A writer after some more text. -/
def text (writer : Writer String) (piece : String) : Writer String :=
  { writer with output := writer.output ++ piece }

/-- A writer where a value is about to be written. -/
def separated : Writer String → Writer String
  | ⟨output, started, true, begun⟩ => ⟨output, started, false, begun⟩
  | ⟨output, isStarted :: outer, false, begun⟩ =>
    ⟨output ++ Tree.comma isStarted, true :: outer, false, begun⟩
  | ⟨output, [], false, begun⟩ => ⟨output ++ if begun then "\n" else "", [], false, true⟩

theorem separate_eq (output : String) (started outer : List Bool)
    (isStarted afterName begun : Bool) :
    separate (⟨output, started, afterName, begun⟩ : Writer String) isStarted outer =
      (⟨output ++ Tree.comma isStarted, true :: outer, afterName, begun⟩, .ok ()) := by
  cases isStarted with
  | true => rfl
  | false =>
    rw [show Tree.comma false = "" from rfl, String.append_empty]
    rfl

theorem beforeValue_eq (writer : Writer String) : writer.beforeValue = (writer.separated, .ok ()) := by
  obtain ⟨output, started, afterName, begun⟩ := writer
  cases afterName with
  | true => rfl
  | false =>
    cases started with
    | cons isStarted outer => exact separate_eq ..
    | nil =>
      cases begun with
      | true => rfl
      | false =>
        show (_, _) = (Writer.mk (output ++ "") [] false true, _)
        rw [String.append_empty]

theorem separated_afterName (writer : Writer String) : writer.separated.afterName = false := by
  obtain ⟨output, started, afterName, begun⟩ := writer
  cases afterName with
  | true => rfl
  | false => cases started <;> rfl

/-- Nothing that is written to an output that takes everything fails. -/
theorem write_ok (writer : Writer String) (event : Event) : (Sink.write writer event).2 = .ok () := by
  cases event with
  | beginObject hint =>
    show (writer.beginContainer "\x7b").2 = _
    rw [beginContainer, beforeValue_eq]
    rfl
  | beginArray hint =>
    show (writer.beginContainer "[").2 = _
    rw [beginContainer, beforeValue_eq]
    rfl
  | endObject => rfl
  | endArray => rfl
  | field name =>
    obtain ⟨output, started, afterName, begun⟩ := writer
    cases started with
    | nil => rfl
    | cons isStarted outer =>
      show (field _ name).2 = _
      unfold field
      simp only [separate_eq]
      rfl
  | scalar value =>
    show (writer.scalar value).2 = _
    rw [scalar, beforeValue_eq]
    rfl
  | flush => rfl

mutual

/-- **The writer prints a tree.** -/
theorem writeAll_tree (tree : Tree) (writer : Writer String) :
    Sink.writeAll writer tree.events = (writer.separated.text tree.json, .ok ()) := by
  match tree with
  | .scalar value =>
    show Outcome.andThen (writer.scalar value) _ = _
    rw [scalar, beforeValue_eq]
    rfl
  | .array hint items =>
    have hname := writer.separated_afterName
    show Outcome.andThen (writer.beginContainer "[") _ = _
    rw [beginContainer, beforeValue_eq]
    generalize writer.separated = writer at *
    obtain ⟨output, started, afterName, begun⟩ := writer
    subst hname
    show Sink.writeAll (Writer.mk (output ++ "[") (false :: started) false begun)
      (Tree.itemEvents items ++ [.endArray]) = _
    rw [Sink.writeAll_append, writeAll_items items]
    show (Writer.mk (output ++ "[" ++ Tree.itemsJson false items ++ "]") started false begun, _) = _
    simp only [text, Tree.json, String.append_assoc]
  | .object hint fields =>
    have hname := writer.separated_afterName
    show Outcome.andThen (writer.beginContainer "\x7b") _ = _
    rw [beginContainer, beforeValue_eq]
    generalize writer.separated = writer at *
    obtain ⟨output, started, afterName, begun⟩ := writer
    subst hname
    show Sink.writeAll (Writer.mk (output ++ "\x7b") (false :: started) false begun)
      (Tree.fieldEvents fields ++ [.endObject]) = _
    rw [Sink.writeAll_append, writeAll_fields fields]
    show (Writer.mk (output ++ "\x7b" ++ Tree.fieldsJson false fields ++ "\x7d") started false begun, _)
      = _
    simp only [text, Tree.json, String.append_assoc]

/-- The writer prints the items of an array. -/
theorem writeAll_items (items : List Tree) (output : String) (isStarted : Bool) (outer : List Bool)
    (begun : Bool) :
    Sink.writeAll (Writer.mk output (isStarted :: outer) false begun) (Tree.itemEvents items) =
      (⟨output ++ Tree.itemsJson isStarted items, (isStarted || !items.isEmpty) :: outer, false, begun⟩,
        .ok ()) := by
  match items with
  | [] =>
    rw [Tree.itemsJson, String.append_empty, List.isEmpty_nil, Bool.not_true, Bool.or_false]
    rfl
  | item :: items =>
    rw [Tree.itemEvents, Sink.writeAll_append, writeAll_tree item]
    show Sink.writeAll (Writer.mk (output ++ Tree.comma isStarted ++ item.json) (true :: outer) false begun)
      (Tree.itemEvents items) = _
    rw [writeAll_items items, List.isEmpty_cons, Bool.not_false, Bool.or_true, Bool.true_or,
      Tree.itemsJson]
    simp only [String.append_assoc]

/-- The writer prints the fields of an object. -/
theorem writeAll_fields (fields : List (String × Tree)) (output : String) (isStarted : Bool)
    (outer : List Bool) (begun : Bool) :
    Sink.writeAll (Writer.mk output (isStarted :: outer) false begun) (Tree.fieldEvents fields) =
      (⟨output ++ Tree.fieldsJson isStarted fields, (isStarted || !fields.isEmpty) :: outer, false,
        begun⟩, .ok ()) := by
  match fields with
  | [] =>
    rw [Tree.fieldsJson, String.append_empty, List.isEmpty_nil, Bool.not_true, Bool.or_false]
    rfl
  | (name, value) :: fields =>
    have hfield : Sink.write (Writer.mk output (isStarted :: outer) false begun) (.field name) =
        (⟨output ++ Tree.comma isStarted ++ Json.quote name ++ ":", true :: outer, true, begun⟩,
          .ok ()) := by
      show field _ name = _
      unfold field
      simp only [separate_eq]
      rfl
    rw [Tree.fieldEvents, List.cons_append, Sink.writeAll_cons, hfield, Outcome.andThen_ok,
      Sink.writeAll_append, writeAll_tree value]
    show Sink.writeAll (Writer.mk (output ++ Tree.comma isStarted ++ Json.quote name ++ ":" ++ value.json)
      (true :: outer) false begun) (Tree.fieldEvents fields) = _
    rw [writeAll_fields fields, List.isEmpty_cons, Bool.not_false, Bool.or_true, Bool.true_or,
      Tree.fieldsJson]
    simp only [String.append_assoc]

end

end Writer
end StreamMask
