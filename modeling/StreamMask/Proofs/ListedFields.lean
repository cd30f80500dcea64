/-
Fields that are listed one by one after they have been masked.

They are read off the events of a masked document, but come to what a walk over the fields gives:
either all are replaced by one, or each one is shown in its place and under its name
(`Log.Fields.showsFields_members`). The walk ends with the first masker that fails among those that
are asked: field maskers up to the first that answers, and value maskers only if none has
(`MaskerSet.Asks`).
-/
import StreamMask.Proofs.AskedMaskers
import StreamMask.Proofs.LogLines

namespace StreamMask

/-! ## Who is asked -/

namespace MaskerSet

/-- What is shown of a scalar that is the value of the field at a place: the mask that the first field
masker with an answer gives, and otherwise what the value maskers make of it. -/
def shownAt (set : MaskerSet) (place : Position) (value : Scalar) : Except Failure Scalar :=
  match set.decision place with
  | .error failure => .error failure
  | .ok (some mask) => .ok mask.toScalar
  | .ok none => set.changed place value

theorem shownAt_eq_ok {set : MaskerSet} {place : Position} {value shown : Scalar} :
    set.shownAt place value = .ok shown ↔
      (∃ mask, set.fieldMask place = .ok (some mask) ∧ shown = mask.toScalar) ∨
        set.fieldMask place = .ok none ∧ set.maskScalar place value = .ok shown := by
  rw [shownAt, ← fieldMask_eq, ← maskScalar_eq]
  cases set.fieldMask place with
  | error failure => simp
  | ok answer => cases answer <;> simp [eq_comm]

/-- The answers of the maskers that are asked about a scalar that is the value of a field. -/
inductive Asks (set : MaskerSet) (place : Position) (value : Scalar) :
    Except Failure (Option Mask) → Prop where
  | field {masker : FieldMasker} (asked : FieldMasker.Asked place masker set.fieldMaskers) :
    Asks set place value (masker.mask place)
  | value {masker : ValueMasker} {seen : Scalar} (unanswered : set.decision place = .ok none)
      (maskable : value.isMaskable = true)
      (asked : ValueMasker.Asked place masker seen set.valueMaskers value) :
    Asks set place value (masker.mask place seen)

theorem decision_eq_error {set : MaskerSet} {place : Position} {failure : Failure} :
    set.decision place = .error failure ↔
      ∃ masker, FieldMasker.Asked place masker set.fieldMaskers ∧ masker.mask place = .error failure := by
  rw [← fieldMask_eq]
  exact FieldMasker.firstMask_eq_error

theorem changed_eq_error {set : MaskerSet} {place : Position} {value : Scalar} {failure : Failure} :
    set.changed place value = .error failure ↔ value.isMaskable = true ∧ ∃ masker seen,
      ValueMasker.Asked place masker seen set.valueMaskers value ∧
        masker.mask place seen = .error failure := by
  rw [← maskScalar_eq, maskScalar, ← ValueMasker.chain_eq_error]
  by_cases hmaskable : value.isMaskable = true
  · rw [if_pos hmaskable]
    cases ValueMasker.chain set.valueMaskers place value <;> simp [Except.map, hmaskable]
  · simp [hmaskable]

/-- **Nothing is shown just if a masker fails that is asked.** -/
theorem shownAt_eq_error {set : MaskerSet} {place : Position} {value : Scalar} {failure : Failure} :
    set.shownAt place value = .error failure ↔ Asks set place value (.error failure) := by
  constructor
  · intro h
    unfold shownAt at h
    split at h
    next reported hdecision =>
      cases h
      obtain ⟨masker, hasked, hfails⟩ := decision_eq_error.mp hdecision
      rw [← hfails]
      exact .field hasked
    · cases h
    next hunanswered =>
      obtain ⟨hmaskable, masker, seen, hasked, hfails⟩ := changed_eq_error.mp h
      rw [← hfails]
      exact .value hunanswered hmaskable hasked
  · intro h
    generalize hanswer : (Except.error failure : Except Failure (Option Mask)) = answer at h
    cases h with
    | field asked => rw [shownAt, decision_eq_error.mpr ⟨_, asked, hanswer.symm⟩]
    | value unanswered maskable asked =>
      rw [shownAt, unanswered]
      exact changed_eq_error.mpr ⟨maskable, _, _, asked, hanswer.symm⟩

end MaskerSet

/-! ## A walk over fields -/

namespace Log.Fields

variable {set : MaskerSet} {p : Position} {fields listed : Fields} {failure : Failure}

/-- Whether a walk over the fields of the object at a place comes to a field: something is shown of all
fields before it. -/
inductive Reaches (set : MaskerSet) (p : Position) (name : String) (value : Scalar) : Fields → Prop where
  | next {rest : Fields} : Reaches set p name value ((name, value) :: rest)
  | later {name' : String} {value' shown : Scalar} {rest : Fields}
      (shows : set.shownAt (p.inField name') value' = .ok shown)
      (reaches : Reaches set p name value rest) : Reaches set p name value ((name', value') :: rest)

theorem stop_cons (name : String) (value : Scalar) (fields : Fields) :
    (Tree.maskedFields set set.changed p (members ((name, value) :: fields))).stop =
      match set.shownAt (p.inField name) value with
      | .error failure => some (p.inField name, failure)
      | .ok _ => (Tree.maskedFields set set.changed p fields.members).stop := by
  show (Tree.maskedFields set set.changed p ((name, .scalar value) :: fields.members)).stop = _
  rw [Tree.maskedFields, MaskerSet.shownAt]
  cases set.decision (p.inField name) with
  | error failure => rfl
  | ok answer =>
    cases answer with
    | some mask => simp [Tree.stop_append]
    | none =>
      simp only [Tree.masked]
      cases set.changed (p.inField name) value with
      | error failure => rfl
      | ok masked => simp [Tree.stop_append]

/-- **Fields are masked up to the first that nothing is shown of.** -/
theorem stop_members : (∃ stop, (Tree.maskedFields set set.changed p fields.members).stop =
      some (stop, failure)) ↔
    ∃ name value, Reaches set p name value fields ∧
      set.shownAt (p.inField name) value = .error failure := by
  induction fields with
  | nil =>
    constructor
    · rintro ⟨stop, hstop⟩
      cases hstop
    · rintro ⟨name, value, hreaches, -⟩
      cases hreaches
  | cons field fields ih =>
    obtain ⟨name, value⟩ := field
    rw [stop_cons]
    cases hshown : set.shownAt (p.inField name) value with
    | error reported =>
      constructor
      · rintro ⟨stop, hstop⟩
        cases hstop
        exact ⟨name, value, .next, hshown⟩
      · rintro ⟨name', value', hreaches, hfails⟩
        cases hreaches with
        | next =>
          rw [hshown] at hfails
          cases hfails
          exact ⟨_, rfl⟩
        | later shows reaches =>
          rw [hshown] at shows
          cases shows
    | ok shown =>
      dsimp only
      rw [ih]
      constructor
      · rintro ⟨name', value', hreaches, hfails⟩
        exact ⟨name', value', .later hshown hreaches, hfails⟩
      · rintro ⟨name', value', hreaches, hfails⟩
        cases hreaches with
        | next =>
          rw [hshown] at hfails
          cases hfails
        | later shows reaches => exact ⟨name', value', reaches, hfails⟩

/-- **Fields are shown in their order and under their names**, each one for itself. -/
theorem showsFields_members : Tree.ShowsFields set p fields.members listed.members ↔
    List.Forall₂ (fun field shown => shown.1 = field.1 ∧
      set.shownAt (p.inField field.1) field.2 = .ok shown.2) fields listed := by
  induction fields generalizing listed with
  | nil =>
    constructor
    · intro h
      cases listed with
      | nil => exact .nil
      | cons field listed => cases h
    · intro h
      cases h
      exact .nil
  | cons field fields ih =>
    obtain ⟨name, value⟩ := field
    constructor
    · intro h
      cases listed with
      | nil => cases h
      | cons first listed =>
        obtain ⟨name', shown⟩ := first
        cases h with
        | masked answer tail =>
          exact .cons ⟨rfl, MaskerSet.shownAt_eq_ok.mpr (.inl ⟨_, answer, rfl⟩)⟩ (ih.mp tail)
        | passed answer head tail =>
          cases head with
          | scalar masked =>
            exact .cons ⟨rfl, MaskerSet.shownAt_eq_ok.mpr (.inr ⟨answer, masked⟩)⟩ (ih.mp tail)
    · intro h
      obtain ⟨⟨name', shown⟩, others, ⟨hname, hshown⟩, hothers, rfl⟩ := List.forall₂_cons_left_iff.mp h
      cases hname
      rcases MaskerSet.shownAt_eq_ok.mp hshown with ⟨mask, hanswer, hmask⟩ | ⟨hanswer, hmasked⟩
      · cases hmask
        exact .masked hanswer (ih.mpr hothers)
      · exact .passed hanswer (.scalar hmasked) (ih.mpr hothers)

/-! ## The list -/

/-- The place of the object whose members the fields are. -/
def place : Position := Position.root.inField "fields"

/-- The answers of the maskers that are asked when fields are masked: about all fields together, and if
none of these answers, about one field after another. -/
inductive Consulted (set : MaskerSet) (fields : Fields) : Except Failure (Option Mask) → Prop where
  | together {masker : FieldMasker} (asked : FieldMasker.Asked place masker set.fieldMaskers) :
    Consulted set fields (masker.mask place)
  | apart {name : String} {value : Scalar} {answer : Except Failure (Option Mask)}
      (unanswered : set.decision place = .ok none) (reaches : Reaches set place name value fields)
      (asks : set.Asks (place.inField name) value answer) : Consulted set fields answer

/-- Fields cannot be listed just if their events cannot be masked. -/
theorem masked_eq_error : fields.masked set = .error failure ↔
    ∃ p, ((Tree.object (some 1) [("fields", fields.tree)]).masked set set.changed .root).stop =
      some (p, failure) := by
  rw [masked, document_eq, Masking.start, Masking.writeAll_events set _ Position.ready_root]
  generalize (Tree.object (some 1) [("fields", fields.tree)]).masked set set.changed .root = emission
  obtain ⟨events, _ | ⟨p, reported⟩⟩ := emission
  · have honto : (Emission.mk events none).onto set Recorder.empty Position.root.complete =
        (Masking.start set (Recorder.empty.record events), .ok ()) := rfl
    rw [honto, Outcome.andThen_ok, Masking.finish_recorder]
    simp [Except.map]
  · simp [Emission.onto, Except.map]

theorem stop_document :
    ((Tree.object (some 1) [("fields", fields.tree)]).masked set set.changed .root).stop =
    match set.decision place with
    | .error failure => some (place, failure)
    | .ok (some _) => none
    | .ok none => (Tree.maskedFields set set.changed place fields.members).stop := by
  rw [Tree.masked, Tree.maskedFields, Tree.maskedFields, ← place]
  cases set.decision place with
  | error failure => rfl
  | ok answer =>
    cases answer with
    | some mask => rfl
    | none => simp [Tree.stop_append, tree, Tree.masked]

/-- **If no field masker answers for all fields together, each is listed for itself.** -/
theorem masked_eq_ok_iff_forall (hdecision : set.decision place = .ok none) :
    fields.masked set = .ok listed ↔ List.Forall₂ (fun field shown => shown.1 = field.1 ∧
      set.shownAt (place.inField field.1) field.2 = .ok shown.2) fields listed := by
  have hunanswered : set.fieldMask place = .ok none := (set.fieldMask_eq place).trans hdecision
  rw [masked_eq_ok, ← showsFields_members]
  constructor
  · rintro ⟨value, h⟩
    cases h with
    | replaced answer =>
      have hboth := answer.symm.trans hunanswered
      cases hboth
    | listed answer members => exact members
  · exact fun members => ⟨_, .listed hunanswered members⟩

/-- **Fields cannot be listed just if a masker fails that is asked about them.** -/
theorem masked_eq_error_iff_consulted :
    fields.masked set = .error failure ↔ Consulted set fields (.error failure) := by
  rw [masked_eq_error, stop_document]
  constructor
  · rintro ⟨stop, hstop⟩
    split at hstop
    next reported hdecision =>
      cases hstop
      obtain ⟨masker, hasked, hfails⟩ := MaskerSet.decision_eq_error.mp hdecision
      rw [← hfails]
      exact .together hasked
    · cases hstop
    next hdecision =>
      obtain ⟨name, value, hreaches, hfails⟩ := stop_members.mp ⟨stop, hstop⟩
      exact .apart hdecision hreaches (MaskerSet.shownAt_eq_error.mp hfails)
  · intro h
    generalize hanswer : (Except.error failure : Except Failure (Option Mask)) = answer at h
    cases h with
    | together asked =>
      rw [MaskerSet.decision_eq_error.mpr ⟨_, asked, hanswer.symm⟩]
      exact ⟨_, rfl⟩
    | apart unanswered reaches asks =>
      subst hanswer
      rw [unanswered]
      exact stop_members.mpr ⟨_, _, reaches, MaskerSet.shownAt_eq_error.mpr asks⟩

/-- **Fields that are masked are neither lost nor moved.** If a field masker answers for all fields
together, its mask alone is listed, under the name `fields`. Otherwise as many are listed as there
are, under the same names in the same order, and each value is what is shown of the value in its
place. The list fails just if a masker fails that is asked on the way, and with this failure. -/
theorem masked_lists_each (set : MaskerSet) (fields : Fields) :
    (∀ mask, set.decision place = .ok (some mask) →
      fields.masked set = .ok [("fields", mask.toScalar)]) ∧
    (set.decision place = .ok none → ∀ listed, fields.masked set = .ok listed ↔
      listed.length = fields.length ∧ ∀ i (h : i < fields.length) (h' : i < listed.length),
        listed[i].1 = fields[i].1 ∧
          set.shownAt (place.inField fields[i].1) fields[i].2 = .ok listed[i].2) ∧
    ∀ failure, fields.masked set = .error failure ↔ Consulted set fields (.error failure) := by
  refine ⟨fun mask hdecision => ?_, fun hdecision listed => ?_, fun failure =>
    masked_eq_error_iff_consulted⟩
  · exact masked_of_shownAs (.replaced ((set.fieldMask_eq place).trans hdecision))
  · rw [masked_eq_ok_iff_forall hdecision, List.forall₂_iff_get]
    simp only [List.get_eq_getElem, eq_comm (a := fields.length)]

/-- Names that repeat, that are empty and that are `fields`; a value masker that fails once it is asked;
and a field masker that answers for all fields together. -/
theorem masked_lists_each_pins :
    (let set : MaskerSet :=
      { fieldMaskers := [.names ⟨["pin"], .string "***"⟩],
        valueMaskers := [.custom fun _ _ => .error (.masker "down")] }
     let fields : Fields := [("pin", .integer 1), ("fields", .bool true), ("pin", .null), ("", .raw "2")]
     fields.masked set =
        .ok [("pin", .string "***"), ("fields", .bool true), ("pin", .string "***"), ("", .raw "2")] ∧
      Fields.masked set (fields ++ [("a", .integer 3)]) = .error (.masker "down")) ∧
    let set : MaskerSet := { fieldMaskers := [.names ⟨["fields"], .null⟩] }
    let fields : Fields := [("a", .integer 1), ("b", .integer 2)]
    fields.masked set = .ok [("fields", .null)] := by
  refine ⟨?_, ?_⟩
  · intro set fields
    obtain ⟨-, hlisted, -⟩ := masked_lists_each set fields
    obtain ⟨-, -, hfails⟩ := masked_lists_each set (fields ++ [("a", .integer 3)])
    have hreaches : Reaches set place "a" (.integer 3) (fields ++ [("a", .integer 3)]) :=
      .later rfl (.later rfl (.later rfl (.later rfl .next)))
    let masker : ValueMasker := .custom fun _ _ => .error (.masker "down")
    let q := place.inField "a"
    have hasks : set.Asks q (.integer 3) (masker.mask q (.integer 3)) := .value rfl rfl .next
    refine ⟨(hlisted rfl _).mpr ⟨rfl, fun i h h' => ?_⟩, (hfails _).mpr (.apart rfl hreaches hasks)⟩
    have hi : i < 4 := h
    obtain rfl | rfl | rfl | rfl : i = 0 ∨ i = 1 ∨ i = 2 ∨ i = 3 := by omega
    all_goals exact ⟨rfl, rfl⟩
  · exact (masked_lists_each _ _).1 .null rfl

/-- A zero that the value maskers turn into the other zero is listed as it was, since the two are equal
as numbers. -/
theorem folded_zero_not_listed :
    let set : MaskerSet := { valueMaskers := [.custom fun _ value =>
      .ok (if value.kind = "float" then some (.float Binary64.zero.neg) else none)] }
    (set.decision place).toOption = some none ∧ (set.decision (place.inField "x")).toOption = some none ∧
      (Fields.masked set [("x", .float .zero)]).toOption ≠
        ((set.folded (place.inField "x") (.float .zero)).map fun value => [("x", value)]).toOption := by
  decide

end Log.Fields
end StreamMask
