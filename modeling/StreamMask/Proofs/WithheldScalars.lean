/-
Which scalars of a document are withheld from the value maskers and from the sink:
those in a masked field, however deep, and no others.

Field maskers are asked only where nothing is held back yet, and the first answer
ends the asking. Still the depth tells at every value whether some field around it
is masked (`MaskerSet.Accounts`), whichever masker answers for the field, and
whatever others would answer further inside. So for sets that are built from
rules only the paths that occur in the rules matter, and more paths never show
what fewer withhold.
-/
import StreamMask.Command
import StreamMask.Proofs.EventGrammar
import StreamMask.Proofs.SelectedFields
import StreamMask.Proofs.TreeMasking

namespace StreamMask

/-! ## Places in masked fields -/

theorem FieldMasker.firstMask_eq_some {place : Position} {mask : Mask} :
    ∀ {maskers : List FieldMasker}, firstMask maskers place = .ok (some mask) →
      ∃ masker ∈ maskers, masker.mask place = .ok (some mask)
  | masker :: maskers, h => by
    rw [firstMask] at h
    split at h
    · cases h
    next other hother =>
      cases h
      exact ⟨masker, List.mem_cons_self, hother⟩
    · obtain ⟨other, hmem, hother⟩ := firstMask_eq_some h
      exact ⟨other, List.mem_cons_of_mem _ hmem, hother⟩

namespace MaskerSet

variable {set : MaskerSet} {place : Position}

/-- With maskers that do not fail, a field is masked just if the decision about it is a mask. -/
theorem NeverFails.masks_iff (h : set.NeverFails) :
    set.Masks place ↔ ∃ mask, set.fieldMask place = .ok (some mask) := by
  constructor
  · intro hmasks
    obtain ⟨answer, hanswer⟩ := h.fieldMask_ok place
    cases answer with
    | none => exact absurd hanswer (FieldMasker.firstMask_ne_none hmasks)
    | some mask => exact ⟨mask, hanswer⟩
  · rintro ⟨mask, hmask⟩
    obtain ⟨masker, hmem, hmasker⟩ := FieldMasker.firstMask_eq_some hmask
    exact ⟨masker, hmem, mask, hmasker⟩

/-- Whether a place is at a masked field or inside one. -/
def Covers (set : MaskerSet) (place : Position) : Prop :=
  ∃ (outer : Position) (name : String),
    (outer.inField name).frames <:+ place.frames ∧ set.Masks (outer.inField name)

theorem not_covers_root : ¬set.Covers .root := by
  rintro ⟨outer, name, hsuffix, -⟩
  cases List.suffix_nil.1 hsuffix

theorem covers_cons {frame : Frame} :
    set.Covers ⟨frame :: place.frames⟩ ↔
      (∃ name, frame = .object (some name) ∧ set.Masks (place.inField name)) ∨ set.Covers place := by
  obtain ⟨frames⟩ := place
  constructor
  · rintro ⟨⟨outer⟩, name, hsuffix, hmasks⟩
    rcases List.suffix_cons_iff.1 hsuffix with heq | hsuffix
    · cases heq
      exact .inl ⟨name, rfl, hmasks⟩
    · exact .inr ⟨⟨outer⟩, name, hsuffix, hmasks⟩
  · rintro (⟨name, rfl, hmasks⟩ | ⟨outer, name, hsuffix, hmasks⟩)
    · exact ⟨⟨frames⟩, name, List.suffix_rfl, hmasks⟩
    · exact ⟨outer, name, List.suffix_cons_iff.2 (.inr hsuffix), hmasks⟩

theorem covers_inField {name : String} :
    set.Covers (place.inField name) ↔ set.Masks (place.inField name) ∨ set.Covers place :=
  covers_cons.trans (by simp)

theorem covers_inItem {index : Nat} : set.Covers (place.inItem index) ↔ set.Covers place :=
  covers_cons.trans (by simp)

theorem covers_inObject : set.Covers place.inObject ↔ set.Covers place :=
  covers_cons.trans (by simp)

theorem Covers.of_complete (h : set.Covers place.complete) : set.Covers place := by
  obtain ⟨_ | ⟨frame, frames⟩⟩ := place
  · exact h
  · refine (@covers_cons set ⟨frames⟩ frame).2 (.inr ?_)
    cases frame with
    | object pending => exact covers_inObject.1 h
    | array index => exact covers_inItem.1 h

theorem Covers.mono {other : MaskerSet}
    (h : ∀ (outer : Position) (name : String),
      set.Masks (outer.inField name) → other.Masks (outer.inField name))
    (hcovers : set.Covers place) : other.Covers place := by
  obtain ⟨outer, name, hsuffix, hmasks⟩ := hcovers
  exact ⟨outer, name, hsuffix, h outer name hmasks⟩

/-! ## What the depth says about masked fields -/

/-- Whether the depth is due to the masked fields around a place: nothing is held back outside all of
them, and otherwise the depth counts out to the object of the outermost one. Its name may be gone, if
its value has come and nothing else has. -/
def Accounts (set : MaskerSet) (place : Position) : (depth : Nat) → Prop
  | 0 => ¬set.Covers place
  | k + 1 => ∃ (pending : Option String) (outer : Position),
      place.frames.drop k = .object pending :: outer.frames ∧ ¬set.Covers outer ∧
        ∀ name, pending = some name → set.Masks (outer.inField name)

variable {depth after : Nat}

theorem Accounts.complete (h : set.Accounts place depth) : set.Accounts place.complete depth := by
  cases depth with
  | zero => exact fun hcovers => h hcovers.of_complete
  | succ k =>
    obtain ⟨_ | ⟨frame, frames⟩⟩ := place
    · exact h
    · cases k with
      | succ k => exact h
      | zero =>
        obtain ⟨pending, outer, hframes, hcovers, -⟩ := h
        cases hframes
        exact ⟨none, outer, rfl, hcovers, nofun⟩

/-- Between the fields of an object, what is around the object accounts for the depth. -/
theorem Accounts.not_covers (h : set.Accounts place.inObject depth) (hd : depth ≤ 1) :
    ¬set.Covers place := by
  match depth with
  | 0 => exact fun hcovers => h (covers_inObject.2 hcovers)
  | 1 =>
    obtain ⟨frames⟩ := place
    obtain ⟨pending, ⟨outer⟩, hframes, hcovers, -⟩ := h
    cases hframes
    exact hcovers

/-- The end of a container that is held back. -/
theorem Accounts.leave {p : Position} {frame : Frame} {k : Nat}
    (h : set.Accounts ⟨frame :: p.frames⟩ (k + 2)) : set.Accounts p.complete (k + 1) := by
  have hp : set.Accounts p (k + 1) := h
  exact hp.complete

/-- An event that may come keeps the account, if a field that is decided afresh is held back just
when it is masked. -/
theorem Accounts.moves {p q : Position} {event : Event} (h : set.Accounts p depth)
    (hm : p.Moves event q) (hd : event.Spends depth after)
    (hfield : ∀ (outer : Position) (name : String), event = .field name → q = outer.inField name →
      depth ≤ 1 → (after = 1 ↔ set.Masks q)) : set.Accounts q after := by
  cases hm with
  | beginArray hp =>
    subst hd
    cases depth with
    | zero => exact fun hcovers => h (covers_inItem.1 hcovers)
    | succ k => exact h
  | beginObject hp =>
    subst hd
    cases depth with
    | zero => exact fun hcovers => h (covers_inObject.1 hcovers)
    | succ k => exact h
  | @endArray p index =>
    subst hd
    rcases depth with _ | _ | k
    · exact fun hcovers => h (covers_inItem.2 hcovers.of_complete)
    · -- What is held back is due to the innermost container, which is an object.
      obtain ⟨pending, outer, hframes, -⟩ := h
      cases hframes
    · exact h.leave
  | @endObject p =>
    subst hd
    rcases depth with _ | _ | k
    · exact fun hcovers => h.not_covers (Nat.zero_le 1) hcovers.of_complete
    · exact fun hcovers => h.not_covers (Nat.le_refl 1) hcovers.of_complete
    · exact h.leave
  | @field p name =>
    simp only [Event.Spends] at hd
    split at hd
    next hdepth =>
      subst hd
      obtain ⟨k, rfl⟩ : ∃ k, after = k + 2 := ⟨after - 2, by omega⟩
      exact h
    next hdepth =>
      have hp := h.not_covers (by omega)
      have hmasks := hfield p name rfl rfl (by omega)
      rcases Nat.le_one_iff_eq_zero_or_eq_one.1 hd with rfl | rfl
      · intro hcovers
        rcases covers_inField.1 hcovers with hfield | houter
        · exact absurd (hmasks.2 hfield) Nat.zero_ne_one
        · exact hp houter
      · exact ⟨some name, p, rfl, hp, fun _ heq => by cases heq; exact hmasks.1 rfl⟩
  | scalar hp =>
    subst hd
    exact h.complete
  | flush =>
    subst hd
    exact h

/-- Where a value comes next, something is held back just if a field around it is masked. -/
theorem Accounts.pos_iff (h : set.Accounts place depth) (hn : place.Nested) (hp : place.Ready) :
    0 < depth ↔ set.Covers place := by
  cases depth with
  | zero => exact ⟨nofun, fun hcovers => absurd hcovers h⟩
  | succ k =>
    refine ⟨fun _ => ?_, fun _ => Nat.succ_pos k⟩
    obtain ⟨pending, outer, hframes, -, hmasks⟩ := h
    have hmem : Frame.object pending ∈ place.frames :=
      List.mem_of_mem_drop (hframes ▸ List.mem_cons_self)
    obtain ⟨name, rfl⟩ := Option.isSome_iff_exists.1 (hp.hasPosition hn _ hmem)
    have hsuffix : (outer.inField name).frames <:+ place.frames := by
      rw [Position.inField, ← hframes]
      exact List.drop_suffix k place.frames
    exact ⟨outer, name, hsuffix, hmasks name rfl⟩

end MaskerSet

/-! ## Scalars of a document -/

namespace Tree

/-- The scalars of a document that is the value at a place, each with the events of the document
before it and with its own place. -/
inductive HasScalar : Position → Tree → List Event → Position → Scalar → Prop where
  | here {place : Position} {value : Scalar} : HasScalar place (.scalar value) [] place value
  | item {place inner : Position} {hint : Option Nat} (before : List Tree) {after : List Tree}
      {item : Tree} {events : List Event} {value : Scalar} :
      HasScalar (place.inItem before.length) item events inner value →
        HasScalar place (.array hint (before ++ item :: after))
          (.beginArray hint :: (itemEvents before ++ events)) inner value
  | field {place inner : Position} {hint : Option Nat} (before : List (String × Tree))
      {after : List (String × Tree)} {name : String} {field : Tree} {events : List Event}
      {value : Scalar} :
      HasScalar (place.inField name) field events inner value →
        HasScalar place (.object hint (before ++ (name, field) :: after))
          (.beginObject hint :: (fieldEvents before ++ .field name :: events)) inner value

variable {place inner : Position} {tree : Tree} {events : List Event} {value : Scalar}

theorem HasScalar.events_eq (h : HasScalar place tree events inner value) :
    ∃ rest, tree.events = events ++ .scalar value :: rest := by
  induction h with
  | here => exact ⟨[], rfl⟩
  | @item place inner hint before after item events value h ih =>
    obtain ⟨rest, hrest⟩ := ih
    refine ⟨rest ++ itemEvents after ++ [.endArray], ?_⟩
    simp [Tree.events, itemEvents_append, itemEvents, hrest]
  | @field place inner hint before after name field events value h ih =>
    obtain ⟨rest, hrest⟩ := ih
    refine ⟨rest ++ fieldEvents after ++ [.endObject], ?_⟩
    simp [Tree.events, fieldEvents_append, fieldEvents, hrest]

open Position in
/-- The events before a scalar lead to its place, and there a value may come. -/
theorem HasScalar.follow (h : HasScalar place tree events inner value) (hp : place.Ready) :
    events.foldlM advance place = .ok inner ∧ inner.Ready := by
  induction h with
  | here => exact ⟨rfl, hp⟩
  | @item place inner hint before after item events value h ih =>
    have hitems := follow_itemEvents place 0 before
    rw [Nat.zero_add] at hitems
    rw [follow_cons (advance_eq_ok.2 (.beginArray hp)), follow_append hitems]
    exact ih (place.ready_inItem _)
  | @field place inner hint before after name field events value h ih =>
    rw [follow_cons (advance_eq_ok.2 (.beginObject hp)),
      follow_append (follow_fieldEvents place before), follow_cons (advance_eq_ok.2 .field)]
    exact ih (place.ready_inField name)

end Tree

/-! ## Streams -/

theorem Recorder.record_ne (recorder : Recorder) (event : Event) :
    recorder.record [event] ≠ recorder := by
  intro h
  have hsize := congrArg (·.events.size) h
  simp [record] at hsize

theorem Position.Moves.of_field {p q : Position} {name : String} (h : p.Moves (.field name) q) :
    ∃ outer : Position, p = outer.inObject ∧ q = outer.inField name := by
  cases h with
  | field => exact ⟨_, rfl, rfl⟩

namespace Masking

/-- Whether a scalar that comes next is shown neither to a value masker nor to the sink: whatever the
value maskers are, the document goes on past the scalar and nothing else changes. -/
def Withholds (stream : Masking Recorder) (value : Scalar) : Prop :=
  ∀ maskers : List ValueMasker,
    let other : Masking Recorder := { stream with set := { stream.set with valueMaskers := maskers } }
    other.step (.scalar value) = ({ other with position := other.position.complete }, .ok ())

theorem withholds_iff {stream : Masking Recorder} (hp : stream.position.Ready) (value : Scalar) :
    stream.Withholds value ↔ 0 < stream.depth := by
  obtain ⟨set, recorder, p, depth⟩ := stream
  cases depth with
  | zero =>
    refine ⟨fun h => ?_, nofun⟩
    -- Without value maskers the scalar would be recorded as it is.
    have hnothing := h []
    have hshown := step_scalar { set with valueMaskers := [] } recorder hp value
    rw [MaskerSet.maskScalar_of_nil rfl] at hshown
    have hsame := congrArg (·.1.sink) (hnothing.symm.trans hshown)
    exact absurd hsame.symm (recorder.record_ne _)
  | succ k =>
    exact ⟨fun _ => Nat.succ_pos k, fun _ maskers => step_scalar_hidden _ recorder k hp value⟩

/-- A field name that is decided afresh holds its value back just if the field is masked. -/
theorem step_field_masks {set : MaskerSet} (hset : set.NeverFails) (recorder : Recorder)
    (p : Position) (name : String) {depth : Nat} (hd : depth ≤ 1) :
    (step ⟨set, recorder, p.inObject, depth⟩ (.field name)).1.depth = 1 ↔
      set.Masks (p.inField name) := by
  rw [hset.masks_iff, MaskerSet.fieldMask_eq, step_field_recorder set recorder p name hd]
  obtain ⟨answer, hanswer⟩ := hset.fieldMask_ok (p.inField name)
  rw [MaskerSet.fieldMask_eq] at hanswer
  rw [hanswer]
  cases answer with
  | none => simp
  | some mask => simp

/-- A stream with these maskers, whose depth is due to the masked fields around its place. -/
structure Accounted (set : MaskerSet) (stream : Masking Recorder) : Prop where
  maskers : stream.set = set
  accounts : set.Accounts stream.position stream.depth

theorem start_accounted (set : MaskerSet) (recorder : Recorder) : Accounted set (start set recorder) :=
  ⟨rfl, MaskerSet.not_covers_root⟩

theorem step_accounted {set : MaskerSet} (hset : set.NeverFails) (stream : Masking Recorder)
    (event : Event) (h : Accounted set stream) : Accounted set (stream.step event).1 := by
  obtain ⟨own, recorder, p, depth⟩ := stream
  obtain ⟨rfl, haccounts⟩ := h
  have hshifts := step_shifts ⟨own, recorder, p, depth⟩ event
  refine ⟨hshifts.set, ?_⟩
  rcases hshifts.place with ⟨hposition, hdepth⟩ | ⟨hm, hd⟩
  · rwa [hposition, hdepth]
  · refine haccounts.moves hm hd fun outer name hevent _ hdepth => ?_
    subst hevent
    obtain ⟨inner, hp, hq⟩ := hm.of_field
    change p = inner.inObject at hp
    subst hp
    rw [hq]
    exact step_field_masks hset recorder inner name hdepth

/-- Before each scalar of a document a stream stands at the scalar's place, and the depth is due to
the masked fields around it. -/
theorem at_scalar {set : MaskerSet} (hset : set.NeverFails) {tree : Tree} {events : List Event}
    {place : Position} {value : Scalar} (h : tree.HasScalar .root events place value) :
    ∃ recorder depth,
      Sink.writeAll (start set Recorder.empty) events = (⟨set, recorder, place, depth⟩, .ok ()) ∧
        place.Ready ∧ (0 < depth ↔ set.Covers place) := by
  obtain ⟨hfollow, hready⟩ := h.follow Position.ready_root
  have hbalanced := writeAll_balanced (start_balanced set Recorder.empty) events
  obtain ⟨hmaskers, haccounts⟩ := Sink.writeAll_invariant (Accounted set) (step_accounted hset)
    (start_accounted set Recorder.empty) events
  have hsteady : (start set Recorder.empty).Steady fun _ _ => True := start_steady trivial
  rcases writeAll_follows Recorder.accepts hset hsteady events with
    ⟨q, hq, hok, hposition⟩ | ⟨fault, hfault, -⟩
  · cases hfollow.symm.trans hq
    generalize Sink.writeAll (start set Recorder.empty) events = outcome at *
    obtain ⟨⟨own, recorder, p, depth⟩, result⟩ := outcome
    cases hmaskers
    cases hposition
    cases hok
    exact ⟨recorder, depth, rfl, hready, haccounts.pos_iff hbalanced.nested hready⟩
  · cases hfollow.symm.trans hfault

/-- A scalar outside all masked fields is recorded as the value maskers make it. -/
theorem scalar_shown {set : MaskerSet} (hset : set.NeverFails) {tree : Tree} {events : List Event}
    {place : Position} {value : Scalar} (h : tree.HasScalar .root events place value)
    (hcovers : ¬set.Covers place) :
    ∃ (recorder : Recorder) (masked : Scalar), set.maskScalar place value = .ok masked ∧
      Sink.writeAll (start set Recorder.empty) (events ++ [.scalar value]) =
        (⟨set, recorder.record [.scalar masked], place.complete, 0⟩, .ok ()) := by
  obtain ⟨recorder, depth, hrun, hready, hdepth⟩ := at_scalar hset h
  obtain rfl : depth = 0 := Nat.eq_zero_of_not_pos fun hpos => hcovers (hdepth.1 hpos)
  obtain ⟨masked, hmasked⟩ := hset.maskScalar_isOk place value
  refine ⟨recorder, masked, hmasked, ?_⟩
  rw [Sink.writeAll_append, hrun, Outcome.andThen_ok, Sink.writeAll_cons, write_eq_step,
    step_scalar set recorder hready, hmasked]
  dsimp only
  rw [forward_recorder]
  rfl

end Masking

/-! ## Whole documents -/

namespace MaskerSet

/-- Whether a scalar that comes after some events of a document is withheld. -/
def Withholds (set : MaskerSet) (events : List Event) (value : Scalar) : Prop :=
  (Sink.writeAll (Masking.start set Recorder.empty) events).1.Withholds value

/-- Whether each scalar that one set withholds, of whatever document, the other withholds as well. -/
def WithholdsAllOf (larger set : MaskerSet) : Prop :=
  ∀ (tree : Tree) (events : List Event) (place : Position) (value : Scalar),
    tree.HasScalar .root events place value →
      set.Withholds events value → larger.Withholds events value

theorem withholds_iff_covers {set : MaskerSet} (hset : set.NeverFails) {tree : Tree}
    {events : List Event} {place : Position} {value : Scalar}
    (h : tree.HasScalar .root events place value) : set.Withholds events value ↔ set.Covers place := by
  obtain ⟨recorder, depth, hrun, hready, hdepth⟩ := Masking.at_scalar hset h
  rw [Withholds, hrun]
  exact (Masking.withholds_iff hready value).trans hdepth

end MaskerSet

namespace Rules

variable {rules more : Rules} {set larger : MaskerSet}

theorem covers_mono (h : rules.build = .ok set) (hlarger : more.build = .ok larger)
    (hpaths : rules.paths ⊆ more.paths) (hmaskers : rules.fieldMaskers ⊆ more.fieldMaskers)
    {place : Position} (hcovers : set.Covers place) : larger.Covers place := by
  refine hcovers.mono fun outer name hmasks => ?_
  rw [masks_iff_selects h] at hmasks
  rw [masks_iff_selects hlarger]
  exact hmasks.mono hpaths hmaskers

/-- With the same maskers from outside, more paths withhold what fewer do. -/
theorem withholdsAllOf (h : rules.build = .ok set) (hset : set.NeverFails)
    (hlarger : more.build = .ok larger) (hpaths : rules.paths ⊆ more.paths)
    (hfields : more.fieldMaskers = rules.fieldMaskers)
    (hvalues : more.valueMaskers = rules.valueMaskers) : larger.WithholdsAllOf set := by
  intro tree events place value hscalar hwithheld
  have hnever := neverFails_of_build h hlarger hfields hvalues hset
  rw [MaskerSet.withholds_iff_covers hset hscalar] at hwithheld
  rw [MaskerSet.withholds_iff_covers hnever hscalar]
  exact covers_mono h hlarger hpaths (hfields ▸ List.Subset.refl _) hwithheld

/-- Rules with the same paths can be built as well, whatever their masks are. -/
theorem build_of_same_paths (h : rules.build = .ok set) (mask : Mask) {pathRules : List Rule}
    (hpaths : ∀ path, path ∈ pathRules.flatMap Rule.patterns ↔ path ∈ rules.paths) :
    ∃ other, { rules with defaultMask := mask, pathRules := pathRules }.build = .ok other := by
  obtain ⟨hparse, hcompile⟩ := build_isOk.1 ⟨set, h⟩
  exact build_isOk.2 ⟨fun path hmem => hparse path ((hpaths path).1 hmem), hcompile⟩

end Rules

theorem MaskOptions.extend_eq (options : MaskOptions) (rules : Rules) :
    (options.extend rules).paths = rules.paths ++ options.paths ∧
      (options.extend rules).fieldMaskers = rules.fieldMaskers ∧
      (options.extend rules).valueMaskers = rules.valueMaskers := by
  unfold extend
  cases options.mask with
  | none => simp [Rules.paths, Rules.maskPaths, Rules.maskValues]
  | some argument => simp [Rules.paths, Rules.maskPaths, Rules.maskValues, Rules.withDefaultMask]

/-- **Just what is in masked fields is withheld.** With maskers that do not fail, a scalar of a
document is shown neither to a value masker nor to the sink if and only if it is the value of a masked
field or inside one; what the value maskers make of any other is recorded. So for a set that is built
from rules nothing but the set of their paths matters, neither their order nor their repetition, nor
their masks; and with more paths, such as those of the command line, at least as much is withheld. -/
theorem withheld_just_in_masked_fields (set : MaskerSet) (hset : set.NeverFails) :
    (∀ (tree : Tree) (events : List Event) (place : Position) (value : Scalar),
        tree.HasScalar .root events place value →
          (∃ rest, tree.events = events ++ .scalar value :: rest) ∧
          (set.Withholds events value ↔ set.Covers place) ∧
          (¬set.Covers place → ∃ (recorder : Recorder) (masked : Scalar),
            set.maskScalar place value = .ok masked ∧
              Sink.writeAll (Masking.start set Recorder.empty) (events ++ [.scalar value]) =
                (⟨set, recorder.record [.scalar masked], place.complete, 0⟩, .ok ()))) ∧
      ∀ rules : Rules, rules.build = .ok set →
        (∀ (mask : Mask) (pathRules : List Rule),
          (∀ path, path ∈ pathRules.flatMap Rule.patterns ↔ path ∈ rules.paths) →
          ∃ other, { rules with defaultMask := mask, pathRules := pathRules }.build = .ok other ∧
            other.WithholdsAllOf set ∧ set.WithholdsAllOf other) ∧
        (∀ (more : Rules) (larger : MaskerSet), more.build = .ok larger →
          rules.paths ⊆ more.paths → more.fieldMaskers = rules.fieldMaskers →
          more.valueMaskers = rules.valueMaskers → larger.WithholdsAllOf set) ∧
        ∀ (options : MaskOptions) (larger : MaskerSet), (options.extend rules).build = .ok larger →
          larger.WithholdsAllOf set := by
  refine ⟨fun tree events place value hscalar =>
      ⟨hscalar.events_eq, MaskerSet.withholds_iff_covers hset hscalar,
        Masking.scalar_shown hset hscalar⟩,
    fun rules h => ⟨fun mask pathRules hpaths => ?_, fun more larger hlarger hpaths hfields hvalues =>
      Rules.withholdsAllOf h hset hlarger hpaths hfields hvalues, fun options larger hlarger => ?_⟩⟩
  · obtain ⟨other, hother⟩ := Rules.build_of_same_paths h mask hpaths
    have hnever := Rules.neverFails_of_build h hother rfl rfl hset
    exact ⟨other, hother,
      Rules.withholdsAllOf h hset hother (fun path => (hpaths path).2) rfl rfl,
      Rules.withholdsAllOf hother hnever h (fun path => (hpaths path).1) rfl rfl⟩
  · obtain ⟨hpaths, hfields, hvalues⟩ := options.extend_eq rules
    have hsubset : rules.paths ⊆ (options.extend rules).paths := hpaths ▸ List.subset_append_left ..
    exact Rules.withholdsAllOf h hset hlarger hsubset hfields hvalues

/-- A number in a masked object is withheld, and still is when the rules are turned round and one is
given twice; the number after the object is recorded. -/
theorem number_withheld_in_user :
    let rules : Rules := { pathRules := [⟨["user"], none⟩, ⟨["pin"], some .null⟩] }
    let turned : Rules := { rules with
      defaultMask := .null, pathRules := [⟨["pin", "user"], some (.bool true)⟩, ⟨["pin"], none⟩] }
    let user : Tree := .object none [("pin", .scalar (.integer 7))]
    let before : List Event := [.beginObject none, .field "user", .beginObject none, .field "pin"]
    ∃ set other, rules.build = .ok set ∧ turned.build = .ok other ∧ set.NeverFails ∧
      set.Withholds before (.integer 7) ∧ other.Withholds before (.integer 7) ∧
      ¬set.Withholds (.beginObject none :: (Tree.fieldEvents [("user", user)] ++ [.field "id"]))
        (.integer 2) := by
  intro rules turned user before
  obtain ⟨set, hset⟩ : ∃ set, rules.build = .ok set := ⟨_, rfl⟩
  have hcustom := Rules.custom_mem_of_build hset
  have hnever : set.NeverFails :=
    .of_no_custom (by simp [hcustom.1, rules]) (by simp [hcustom.2, rules])
  have hmasks := Rules.masks_iff_selects hset .root
  obtain ⟨hscalars, hrules⟩ := withheld_just_in_masked_fields set hnever
  obtain ⟨other, hother, hall, -⟩ := (hrules rules hset).1 .null turned.pathRules (by
    simp [rules, turned, Rules.paths])
  let tree : Tree := .object none [("user", user), ("id", .scalar (.integer 2))]
  have hpin : tree.HasScalar .root before ((Position.root.inField "user").inField "pin") (.integer 7) :=
    .field [] (.field [] .here)
  have hid : tree.HasScalar .root
      (.beginObject none :: (Tree.fieldEvents [("user", user)] ++ [.field "id"]))
      (Position.root.inField "id") (.integer 2) :=
    .field [("user", user)] .here
  have hcovers : set.Covers ((Position.root.inField "user").inField "pin") := by
    rw [MaskerSet.covers_inField, MaskerSet.covers_inField, hmasks]
    exact .inr (.inl (.inl ⟨"user", by simp [rules, Rules.paths], _, rfl, rfl⟩))
  have hnot : ¬set.Covers (Position.root.inField "id") := by
    rw [MaskerSet.covers_inField, hmasks]
    rintro ((⟨path, hmem, pattern, hparse, hfits⟩ | ⟨masker, hmem, -⟩) | hroot)
    · have hpath : path = "user" ∨ path = "pin" := by simpa [rules, Rules.paths] using hmem
      rcases hpath with rfl | rfl <;> cases hparse <;> cases hfits
    · cases hmem
    · exact MaskerSet.not_covers_root hroot
  have hwithheld := (hscalars _ _ _ _ hpin).2.1.2 hcovers
  exact ⟨set, other, hset, hother, hnever, hwithheld, hall _ _ _ _ hpin hwithheld,
    fun h => hnot ((hscalars _ _ _ _ hid).2.1.1 h)⟩

end StreamMask
