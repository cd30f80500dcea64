/-
Events that a position advances over nest: what has come so far is whole values,
and for each container that is still open its beginning and whole members
(`Opened`). So where no container is open, there are whole values and nothing
else.
-/
import StreamMask.Proofs.PositionFacts

namespace StreamMask

/-- The events of documents, apart from those that only pass on what has been held back. -/
def Event.content (events : List Event) : List Event := events.filter (· ≠ .flush)

theorem Event.content_append (xs ys : List Event) : content (xs ++ ys) = content xs ++ content ys :=
  List.filter_append ..

namespace Tree

theorem itemEvents_append (xs ys : List Tree) :
    itemEvents (xs ++ ys) = itemEvents xs ++ itemEvents ys := by
  induction xs with
  | nil => rfl
  | cons item xs ih => rw [List.cons_append, itemEvents, itemEvents, ih, List.append_assoc]

theorem fieldEvents_append (xs ys : List (String × Tree)) :
    fieldEvents (xs ++ ys) = fieldEvents xs ++ fieldEvents ys := by
  induction xs with
  | nil => rfl
  | cons field xs ih =>
    obtain ⟨name, value⟩ := field
    simp only [List.cons_append, fieldEvents, ih, List.append_assoc]

end Tree

/-- What has come before a position: the events of whole values, then for each open container, the
outermost first, its beginning, its whole members, and the name of its field in progress. -/
inductive Opened : List Frame → List Event → Prop where
  | values (trees : List Tree) : Opened [] (trees.flatMap Tree.events)
  | array {outer : List Frame} {before : List Event} (hint : Option Nat) (items : List Tree) :
    Opened outer before → Position.Ready ⟨outer⟩ →
      Opened (.array items.length :: outer) (before ++ .beginArray hint :: Tree.itemEvents items)
  | object {outer : List Frame} {before : List Event} (hint : Option Nat)
      (fields : List (String × Tree)) :
    Opened outer before → Position.Ready ⟨outer⟩ →
      Opened (.object none :: outer) (before ++ .beginObject hint :: Tree.fieldEvents fields)
  | field {outer : List Frame} {before : List Event} (hint : Option Nat)
      (fields : List (String × Tree)) (name : String) :
    Opened outer before → Position.Ready ⟨outer⟩ →
      Opened (.object (some name) :: outer)
        (before ++ .beginObject hint :: (Tree.fieldEvents fields ++ [.field name]))

namespace Opened

/-- A whole value goes to where it stands. -/
theorem value {p : Position} {before : List Event} (h : Opened p.frames before) (hp : p.Ready)
    (tree : Tree) : Opened p.complete.frames (before ++ tree.events) := by
  obtain ⟨frames⟩ := p
  cases h with
  | values trees =>
    have := values (trees ++ [tree])
    simpa [List.flatMap_append, Position.complete] using this
  | array hint items houter hready =>
    have := array hint (items ++ [tree]) houter hready
    simpa [Tree.itemEvents_append, Tree.itemEvents, Position.complete, Frame.complete] using this
  | object hint fields houter hready => exact absurd rfl (hp _)
  | field hint fields name houter hready =>
    have := object hint (fields ++ [(name, tree)]) houter hready
    simpa [Tree.fieldEvents_append, Tree.fieldEvents, Position.complete, Frame.complete] using this

theorem moves {p q : Position} {event : Event} {before : List Event} (h : Opened p.frames before)
    (hm : p.Moves event q) : Opened q.frames (before ++ Event.content [event]) := by
  cases hm with
  | beginArray hp => exact array _ [] h hp
  | beginObject hp => exact object _ [] h hp
  | @endArray p index =>
    cases h with
    | @array outer before hint items houter hready =>
      have := value (p := p) houter hready (.array hint items)
      simpa [Event.content, Tree.events] using this
  | @endObject p =>
    cases h with
    | @object outer before hint fields houter hready =>
      have := value (p := p) houter hready (.object hint fields)
      simpa [Event.content, Tree.events] using this
  | @field p name =>
    cases h with
    | @object outer before hint fields houter hready =>
      have := field hint fields name houter hready
      simpa [Event.content, Position.inField] using this
  | scalar hp => exact h.value hp (.scalar _)
  | flush => simpa [Event.content] using h

theorem follow {events : List Event} : ∀ {p q : Position} {before : List Event},
    Opened p.frames before → events.foldlM Position.advance p = .ok q →
      Opened q.frames (before ++ Event.content events) := by
  induction events with
  | nil =>
    intro p q before h hq
    cases hq
    simpa [Event.content] using h
  | cons event events ih =>
    intro p q before h hq
    rw [List.foldlM_cons] at hq
    cases hr : p.advance event with
    | error fault => rw [hr] at hq; cases hq
    | ok r =>
      rw [hr] at hq
      have := ih (h.moves (Position.advance_eq_ok.1 hr)) hq
      rwa [List.append_assoc, ← Event.content_append] at this

end Opened

/-- Events from the root back to the root are those of whole values. -/
theorem Position.values_of_follow {events : List Event}
    (h : events.foldlM Position.advance .root = .ok .root) :
    ∃ trees : List Tree, Event.content events = trees.flatMap Tree.events := by
  have hopened : Opened [] (Event.content events) := Opened.follow (.values []) h
  generalize Event.content events = content at hopened
  cases hopened with
  | values trees => exact ⟨trees, rfl⟩

end StreamMask
