/-
Where a value may stand, and which events move a position where
(`Position.Moves`, which is all that `Position.advance` lets pass).
-/
import StreamMask.Position

namespace StreamMask

/-- The container that a document is, if it is one. -/
def Tree.container? : Tree → Option Container
  | .scalar _ => none
  | .array _ _ => some .array
  | .object _ _ => some .object

namespace Position

/-- The place of an item of the array that is the value at `p`. -/
def inItem (p : Position) (index : Nat) : Position := ⟨.array index :: p.frames⟩

/-- The place between two fields of the object that is the value at `p`. -/
def inObject (p : Position) : Position := ⟨.object none :: p.frames⟩

/-- The place of a field of the object that is the value at `p`. -/
def inField (p : Position) (name : String) : Position := ⟨.object (some name) :: p.frames⟩

/-- Whether a value may come next. -/
def Ready (p : Position) : Prop := ∀ outer, p.frames ≠ .object none :: outer

theorem ready_root : root.Ready := by simp [Ready, root]

theorem ready_inItem (p : Position) (index : Nat) : (p.inItem index).Ready := by
  simp [Ready, inItem]

theorem ready_inField (p : Position) (name : String) : (p.inField name).Ready := by
  simp [Ready, inField]

@[simp] theorem complete_inItem (p : Position) (index : Nat) :
    (p.inItem index).complete = p.inItem (index + 1) := rfl

@[simp] theorem complete_inField (p : Position) (name : String) :
    (p.inField name).complete = p.inObject := rfl

/-! ## Moving on -/

theorem Ready.checkValue {p : Position} (h : p.Ready) (value : Option Container) :
    p.checkValue value = .ok () := by
  unfold Position.checkValue
  split
  · next outer hf => exact absurd hf (h outer)
  · rfl

/-- A value is refused only between the fields of an object. -/
theorem checkValue_cases (p : Position) (value : Option Container) :
    p.Ready ∧ p.checkValue value = .ok () ∨
      (∃ outer : Position, p = outer.inObject) ∧ p.checkValue value = .error (.valueWithoutName value) := by
  obtain ⟨_ | ⟨_ | _, frames⟩⟩ := p
  case cons.object pending =>
    cases pending with
    | none => exact .inr ⟨⟨⟨frames⟩, rfl⟩, rfl⟩
    | some name => exact .inl ⟨ready_inField ⟨frames⟩ name, rfl⟩
  case nil => exact .inl ⟨ready_root, rfl⟩
  case cons.array index => exact .inl ⟨ready_inItem ⟨frames⟩ index, rfl⟩

theorem Ready.enter_object {p : Position} (h : p.Ready) : p.enter .object = .ok p.inObject := by
  rw [Position.enter, h.checkValue]
  rfl

theorem Ready.enter_array {p : Position} (h : p.Ready) : p.enter .array = .ok (p.inItem 0) := by
  rw [Position.enter, h.checkValue]
  rfl

@[simp] theorem leave_inItem (p : Position) (index : Nat) :
    (p.inItem index).leave .array = .ok p.complete := rfl

@[simp] theorem leave_inObject (p : Position) : p.inObject.leave .object = .ok p.complete := rfl

@[simp] theorem enterField_inObject (p : Position) (name : String) :
    p.inObject.enterField name = .ok (p.inField name) := rfl

theorem advance_opening (p : Position) (kind : Container) (hint : Option Nat) :
    p.advance (kind.opening hint) = p.enter kind := by
  cases kind <;> rfl

theorem advance_closing (p : Position) (kind : Container) : p.advance kind.closing = p.leave kind := by
  cases kind <;> rfl

theorem checkValue_eq_ok {p : Position} {value : Option Container} :
    p.checkValue value = .ok () ↔ p.Ready := by
  constructor
  · intro h
    rcases p.checkValue_cases value with ⟨hp, -⟩ | ⟨-, he⟩
    · exact hp
    · rw [he] at h
      cases h
  · exact fun h => h.checkValue value

/-- The events that may come at a position, and the position after each. -/
inductive Moves : Position → Event → Position → Prop where
  | beginArray {p : Position} {hint : Option Nat} (hp : p.Ready) : Moves p (.beginArray hint) (p.inItem 0)
  | beginObject {p : Position} {hint : Option Nat} (hp : p.Ready) : Moves p (.beginObject hint) p.inObject
  | endArray {p : Position} {index : Nat} : Moves (p.inItem index) .endArray p.complete
  | endObject {p : Position} : Moves p.inObject .endObject p.complete
  | field {p : Position} {name : String} : Moves p.inObject (.field name) (p.inField name)
  | scalar {p : Position} {value : Scalar} (hp : p.Ready) : Moves p (.scalar value) p.complete
  | flush {p : Position} : Moves p .flush p

theorem moves_of_enter {p q : Position} {kind : Container} (h : p.enter kind = .ok q)
    (hint : Option Nat) : Moves p (kind.opening hint) q := by
  unfold Position.enter at h
  split at h
  · cases h
  · next hc =>
    cases h
    have hp := checkValue_eq_ok.1 hc
    cases kind
    · exact .beginObject hp
    · exact .beginArray hp

theorem moves_of_leave {p q : Position} {kind : Container} (h : p.leave kind = .ok q) :
    Moves p kind.closing q := by
  obtain ⟨frames⟩ := p
  unfold Position.leave at h
  split at h
  · cases h
  next frame outer hf =>
    dsimp only at hf
    subst hf
    split at h
    · cases h
    next hkind =>
      have hkind := Decidable.not_not.1 hkind
      subst hkind
      split at h
      · cases h
      next hpos =>
        cases h
        cases frame with
        | array index => exact .endArray (p := ⟨outer⟩)
        | object pending =>
          cases pending with
          | none => exact .endObject (p := ⟨outer⟩)
          | some name => exact absurd ⟨rfl, rfl⟩ hpos

theorem moves_of_enterField {p q : Position} {name : String} (h : p.enterField name = .ok q) :
    Moves p (.field name) q := by
  obtain ⟨frames⟩ := p
  unfold Position.enterField at h
  split at h
  · cases h
  · cases h
  · cases h
  · next outer hf =>
    dsimp only at hf
    subst hf
    cases h
    exact .field (p := ⟨outer⟩)

/-- **The rules of nesting.** A position advances over an event exactly as `Moves` says. -/
theorem advance_eq_ok {p q : Position} {event : Event} : p.advance event = .ok q ↔ Moves p event q := by
  constructor
  · intro h
    cases event with
    | beginObject hint => exact moves_of_enter h hint
    | beginArray hint => exact moves_of_enter h hint
    | endObject => exact moves_of_leave h
    | endArray => exact moves_of_leave h
    | field name => exact moves_of_enterField h
    | scalar value =>
      simp only [advance] at h
      cases hc : p.checkValue none with
      | error fault => rw [hc] at h; cases h
      | ok _ => rw [hc] at h; cases h; exact .scalar (checkValue_eq_ok.1 hc)
    | flush => cases h; exact .flush
  · intro h
    cases h with
    | beginArray hp => exact hp.enter_array
    | beginObject hp => exact hp.enter_object
    | @endArray p index => exact leave_inItem p index
    | @endObject p => exact leave_inObject p
    | @field p name => exact enterField_inObject p name
    | scalar hp => rw [advance, hp.checkValue]; rfl
    | flush => rfl

end Position
end StreamMask
