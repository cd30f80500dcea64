/-
Nothing of a masked value can be observed. Two documents that differ only in
the values of fields which some field masker masks (`Tree.Alike`) make a
masking stream do the same to the letter: the same events to the sink, the same
result, and the same place and depth at the end.

The two runs take different steps inside the masked values and meet again after
them. So equality is proved with whatever comes later: what continues alike
from the place after a value continues alike from the value itself.
-/
import StreamMask.Proofs.MaskingFacts

namespace StreamMask

/-- Whether some field masker has an answer for the field at the place. -/
def MaskerSet.Masks (set : MaskerSet) (place : Position) : Prop :=
  ∃ masker ∈ set.fieldMaskers, ∃ mask, masker.mask place = .ok (some mask)

theorem FieldMasker.firstMask_ne_none {place : Position} : ∀ {maskers : List FieldMasker},
    (∃ masker ∈ maskers, ∃ mask, masker.mask place = .ok (some mask)) →
      firstMask maskers place ≠ .ok none
  | [], h => by simp at h
  | masker :: maskers, h => by
    rw [firstMask]
    split
    · simp
    · simp
    next hnone =>
      refine firstMask_ne_none ?_
      obtain ⟨other, hmem, mask, hmask⟩ := h
      rcases List.mem_cons.1 hmem with rfl | hmem
      · rw [hnone] at hmask
        cases hmask
      · exact ⟨other, hmem, mask, hmask⟩

namespace Tree

mutual

/-- Documents that agree at a place in their containers, hints, names and scalars, the values of
masked fields apart. -/
def Alike (set : MaskerSet) (place : Position) : Tree → Tree → Prop
  | scalar v, scalar w => v = w
  | array hint items, array hint' items' => hint = hint' ∧ AlikeItems set place 0 items items'
  | object hint fields, object hint' fields' => hint = hint' ∧ AlikeFields set place fields fields'
  | _, _ => False

/-- Items of two arrays at `place`, the first of them with this index. -/
def AlikeItems (set : MaskerSet) (place : Position) (index : Nat) : List Tree → List Tree → Prop
  | [], [] => True
  | item :: items, item' :: items' =>
    item.Alike set (place.inItem index) item' ∧ AlikeItems set place (index + 1) items items'
  | _, _ => False

/-- Fields of two objects at `place`. -/
def AlikeFields (set : MaskerSet) (place : Position) :
    List (String × Tree) → List (String × Tree) → Prop
  | [], [] => True
  | (name, value) :: fields, (name', value') :: fields' =>
    name = name' ∧
      (set.Masks (place.inField name) ∨ value.Alike set (place.inField name) value') ∧
      AlikeFields set place fields fields'
  | _, _ => False

end

theorem Alike.container? {set : MaskerSet} {place : Position} {t u : Tree} (h : Alike set place t u) :
    t.container? = u.container? := by
  cases t <;> cases u <;> first | rfl | exact h.elim

end Tree

namespace Masking

variable {σ : Type} [Sink σ]

/-- What follows an event that is passed on depends on the sink alone. -/
theorem forward_andThen_congr {set : MaskerSet} {sink : σ} {p : Position} {depth : Nat} {event : Event}
    {f g : Masking σ → Outcome (Masking σ)}
    (h : ∀ sink, f ⟨set, sink, p, depth⟩ = g ⟨set, sink, p, depth⟩) :
    Outcome.andThen (forward ⟨set, sink, p, depth⟩ event) f =
      Outcome.andThen (forward ⟨set, sink, p, depth⟩ event) g := by
  unfold forward
  dsimp only
  cases (Sink.write sink event).2 with
  | error failure => rfl
  | ok _ => exact h _

/-! ## Single events, and what follows them -/

theorem scalar_andThen_congr {set : MaskerSet} {sink : σ} {p : Position} (hp : p.Ready)
    (value : Scalar) {f g : Masking σ → Outcome (Masking σ)}
    (h : ∀ sink, f ⟨set, sink, p.complete, 0⟩ = g ⟨set, sink, p.complete, 0⟩) :
    Outcome.andThen (step ⟨set, sink, p, 0⟩ (.scalar value)) f =
      Outcome.andThen (step ⟨set, sink, p, 0⟩ (.scalar value)) g := by
  rw [step_scalar set sink hp]
  cases set.maskScalar p value with
  | error failure => rfl
  | ok masked =>
    dsimp only
    rw [Outcome.andThen_assoc, Outcome.andThen_assoc]
    exact forward_andThen_congr fun sink => h sink

/-- After a field name a stream either holds back or, if no field masker has an answer, forwards. -/
theorem field_andThen_congr {set : MaskerSet} {sink : σ} {p : Position} {name : String} {depth : Nat}
    (hd : depth ≤ 1) {f g : Masking σ → Outcome (Masking σ)}
    (hhidden : ∀ sink, f ⟨set, sink, p.inField name, 1⟩ = g ⟨set, sink, p.inField name, 1⟩)
    (hshown : set.fieldMask (p.inField name) = .ok none →
      ∀ sink, f ⟨set, sink, p.inField name, 0⟩ = g ⟨set, sink, p.inField name, 0⟩) :
    Outcome.andThen (step ⟨set, sink, p.inObject, depth⟩ (.field name)) f =
      Outcome.andThen (step ⟨set, sink, p.inObject, depth⟩ (.field name)) g := by
  rw [step_field set sink p name hd, Outcome.andThen_assoc, Outcome.andThen_assoc]
  refine forward_andThen_congr fun sink => ?_
  simp only [maskField]
  split
  · rfl
  · next hnone => exact hshown hnone sink
  · rw [Outcome.andThen_assoc, Outcome.andThen_assoc]
    exact forward_andThen_congr fun sink => hhidden sink

/-! ## Whole values, and what follows them -/

mutual

theorem writeAll_alike {set : MaskerSet} {p : Position} (hp : p.Ready) {xs ys : List Event}
    (next : ∀ sink : σ, Sink.writeAll (Masking.mk set sink p.complete 0) xs =
      Sink.writeAll (Masking.mk set sink p.complete 0) ys) :
    ∀ {t u : Tree}, Tree.Alike set p t u → ∀ sink : σ,
      Sink.writeAll (Masking.mk set sink p 0) (t.events ++ xs) =
        Sink.writeAll (Masking.mk set sink p 0) (u.events ++ ys)
  | .scalar v, .scalar w, h, sink => by
    simp only [Tree.Alike] at h
    subst h
    simp only [Tree.events, List.cons_append, List.nil_append, Sink.writeAll_cons, write_eq_step]
    exact scalar_andThen_congr hp v next
  | .array hint items, .array hint' items', h, sink => by
    simp only [Tree.Alike] at h
    obtain ⟨rfl, h⟩ := h
    simp only [Tree.events, List.cons_append, List.append_assoc, Sink.writeAll_cons, write_eq_step,
      (step_begin set sink hp hint).1]
    refine forward_andThen_congr fun sink => writeAll_alikeItems (fun sink => ?_) h sink
    simp only [List.nil_append, Sink.writeAll_cons, write_eq_step, step_endArray]
    exact forward_andThen_congr next
  | .object hint fields, .object hint' fields', h, sink => by
    simp only [Tree.Alike] at h
    obtain ⟨rfl, h⟩ := h
    simp only [Tree.events, List.cons_append, List.append_assoc, Sink.writeAll_cons, write_eq_step,
      (step_begin set sink hp hint).2]
    refine forward_andThen_congr fun sink =>
      writeAll_alikeFields (fun sink depth hd => ?_) (Nat.zero_le 1) h sink
    simp only [List.nil_append, Sink.writeAll_cons, write_eq_step, step_endObject set sink p hd]
    exact forward_andThen_congr next

theorem writeAll_alikeItems {set : MaskerSet} {p : Position} {index : Nat} {items items' : List Tree}
    {xs ys : List Event}
    (next : ∀ sink : σ,
      Sink.writeAll (Masking.mk set sink (p.inItem (index + items.length)) 0) xs =
        Sink.writeAll (Masking.mk set sink (p.inItem (index + items.length)) 0) ys)
    (h : Tree.AlikeItems set p index items items') (sink : σ) :
    Sink.writeAll (Masking.mk set sink (p.inItem index) 0) (Tree.itemEvents items ++ xs) =
      Sink.writeAll (Masking.mk set sink (p.inItem index) 0) (Tree.itemEvents items' ++ ys) :=
  match items, items', h with
  | [], [], _ => next sink
  | item :: items, item' :: items', h => by
    simp only [Tree.AlikeItems] at h
    obtain ⟨hitem, hitems⟩ := h
    simp only [Tree.itemEvents, List.append_assoc]
    refine writeAll_alike (p.ready_inItem index) (fun sink => ?_) hitem sink
    refine writeAll_alikeItems (fun sink => ?_) hitems sink
    have hlen : index + 1 + items.length = index + (item :: items).length := by
      rw [List.length_cons]; omega
    rw [hlen]
    exact next sink

theorem writeAll_alikeFields {set : MaskerSet} {p : Position} {fields fields' : List (String × Tree)}
    {xs ys : List Event}
    (next : ∀ (sink : σ) (depth : Nat), depth ≤ 1 →
      Sink.writeAll (Masking.mk set sink p.inObject depth) xs =
        Sink.writeAll (Masking.mk set sink p.inObject depth) ys)
    {depth : Nat} (hd : depth ≤ 1) (h : Tree.AlikeFields set p fields fields') (sink : σ) :
    Sink.writeAll (Masking.mk set sink p.inObject depth) (Tree.fieldEvents fields ++ xs) =
      Sink.writeAll (Masking.mk set sink p.inObject depth) (Tree.fieldEvents fields' ++ ys) :=
  match fields, fields', h with
  | [], [], _ => next sink depth hd
  | (name, value) :: fields, (name', value') :: fields', h => by
    simp only [Tree.AlikeFields] at h
    obtain ⟨rfl, hvalue, hfields⟩ := h
    simp only [Tree.fieldEvents, List.cons_append, List.append_assoc, Sink.writeAll_cons,
      write_eq_step]
    refine field_andThen_congr hd (fun sink => ?_) fun hnone sink => ?_
    · rw [Sink.writeAll_append, Sink.writeAll_append,
        writeAll_hidden set sink 0 (p.ready_inField name) value,
        writeAll_hidden set sink 0 (p.ready_inField name) value']
      exact writeAll_alikeFields next (Nat.le_refl 1) hfields sink
    · have halike := hvalue.resolve_left fun hm => FieldMasker.firstMask_ne_none hm hnone
      refine writeAll_alike (p.ready_inField name) (fun sink => ?_) halike sink
      exact writeAll_alikeFields next (Nat.zero_le 1) hfields sink

end

/-- **Masked values do not leak.** Documents that are alike at the place of a stream, whatever its
sink and however much it holds back, have the same outcome: the sink, the place, the depth and the
result. -/
theorem writeAll_eq_of_alike (stream : Masking σ) {t u : Tree}
    (h : Tree.Alike stream.set stream.position t u) :
    Sink.writeAll stream t.events = Sink.writeAll stream u.events := by
  obtain ⟨set, sink, p, depth⟩ := stream
  rcases p.checkValue_cases t.container? with ⟨hp, -⟩ | ⟨-, hc⟩
  · cases depth with
    | zero =>
      have hnil : ∀ sink : σ, Sink.writeAll (Masking.mk set sink p.complete 0) [] =
          Sink.writeAll (Masking.mk set sink p.complete 0) [] := fun _ => rfl
      simpa only [List.append_nil] using writeAll_alike hp hnil h sink
    | succ k => rw [writeAll_hidden set sink k hp t, writeAll_hidden set sink k hp u]
  · rw [writeAll_refused hc]
    rw [h.container?] at hc ⊢
    rw [writeAll_refused hc]

/-- A number that the value masker refuses and a list of other things are alike in a masked field. -/
theorem secret_number_eq_secret_list :
    let set : MaskerSet := {
      fieldMaskers := [.path ⟨⟨false, [.named "card", .wildcard]⟩, .null⟩]
      valueMaskers := [.custom fun _ value =>
        if value.kind = "integer" then .error (.masker "a number") else .ok none] }
    let document (secret : Tree) : Tree := .object (some 1)
      [("card", .object none [("pin", secret), ("pin", .scalar (.bool true))]), ("id", .scalar (.integer 7))]
    let number : Tree := .scalar (.integer 4711)
    let list : Tree := .array (some 9) [.object none [("pin", number)], .scalar .null]
    (document number).Alike set .root (document list) ∧
      Sink.writeAll (Masking.start set Recorder.empty) (document number).events =
        Sink.writeAll (Masking.start set Recorder.empty) (document list).events := by
  intro set document number list
  have h : (document number).Alike set .root (document list) := by
    have hmasks : set.Masks ((Position.root.inField "card").inField "pin") :=
      ⟨_, List.mem_singleton.2 rfl, .null, congrArg Except.ok (by decide)⟩
    simp [document, Tree.Alike, Tree.AlikeFields, hmasks]
  exact ⟨h, writeAll_eq_of_alike (Masking.start set Recorder.empty) h⟩

end Masking
end StreamMask
