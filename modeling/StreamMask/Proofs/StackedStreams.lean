/-
Masking streams one over the other, and the single stream that does the same.

The two hold back at different depths. The upper one may mask a field inside a
value that the lower one holds back; and while the upper one holds a value back,
the lower one stands at the object of its field. So the object is counted once
(`Masking.stackedDepth`), and every event leads to a single stream that is at the
place of the upper one and holds back as much (`Masking.Stacked`).

What they write is the same if the lower maskers leave alone what the upper ones
have written for fields, and if it does not matter that a result which equals the
scalar is dropped after each chain and not only at the end
(`MaskerSet.Stackable`).
-/
import StreamMask.Proofs.EventGrammar
import StreamMask.Proofs.InStep
import StreamMask.Proofs.TreeMasking

namespace StreamMask

/-! ## Chains of maskers -/

theorem Scalar.agrees_cases {a b : Scalar} (h : a.agrees b = true) :
    a = b ∨ ∃ x y, a = .float x ∧ b = .float y ∧ x.isZero = true ∧ y.isZero = true := by
  cases a with
  | float x =>
    cases b with
    | float y =>
      simp only [Scalar.agrees, Binary64.agrees, Bool.and_eq_true, Bool.or_eq_true, beq_iff_eq] at h
      rcases h.2 with hbits | ⟨hx, hy⟩
      · obtain ⟨bits⟩ := x
        exact .inl (by rw [Scalar.float.injEq]; exact congrArg Binary64.mk hbits)
      · exact .inr ⟨x, y, rfl, rfl, hx, hy⟩
    | _ => simp [Scalar.agrees] at h
  | _ => exact .inl (by simpa [Scalar.agrees] using h)

theorem FieldMasker.firstMask_append {place : Position} {xs ys : List FieldMasker}
    {first second : Option Mask} (hxs : firstMask xs place = .ok first)
    (hys : firstMask ys place = .ok second) : firstMask (xs ++ ys) place = .ok (first.or second) := by
  induction xs with
  | nil =>
    cases hxs
    exact hys
  | cons masker xs ih =>
    rw [firstMask] at hxs
    rw [List.cons_append, firstMask]
    split at hxs
    · cases hxs
    · cases hxs
      rfl
    · exact ih hxs

namespace ValueMasker

theorem chain_append (place : Position) (xs ys : List ValueMasker) (value : Scalar) :
    chain (xs ++ ys) place value = (do
      let first ← chain xs place value
      chain ys place first) := by
  simp only [chain_eq, List.foldlM_append]

/-- Whether a masker never puts a zero float in the place of a scalar. -/
def WritesNoZero (masker : ValueMasker) : Prop :=
  ∀ (place : Position) (value : Scalar) (x : Binary64),
    masker.mask place value = .ok (some (.float x)) → x.isZero = false

theorem writesNoZero_regex {masker : RegexMasker}
    (h : ∀ x, masker.mask = .float x → x.isZero = false) : (regex masker).WritesNoZero := by
  intro place value x hmask
  rw [mask, Except.ok.injEq, RegexMasker.mask?] at hmask
  split at hmask
  · cases hmask
  · split at hmask
    · split at hmask
      · dsimp only at hmask
        split at hmask
        · cases hmask
        · cases hmask
      · exact h x (Option.some.inj hmask)
    · cases hmask

theorem chain_zero {maskers : List ValueMasker} (h : ∀ masker ∈ maskers, masker.WritesNoZero)
    {place : Position} {value : Scalar} {x : Binary64} (hx : x.isZero = true)
    (hchain : chain maskers place value = .ok (.float x)) : value = .float x := by
  induction maskers generalizing value with
  | nil =>
    cases hchain
    rfl
  | cons masker maskers ih =>
    obtain ⟨hmasker, hmaskers⟩ := List.forall_mem_cons.1 h
    rw [chain] at hchain
    split at hchain
    · cases hchain
    · exact ih hmaskers hchain
    next mask hmask =>
      have hzero := ih hmaskers hchain
      cases mask with
      | float y =>
        cases hzero
        rw [hmasker place value x hmask] at hx
        cases hx
      | _ => cases hzero

/-- Regular expressions leave alone what is shown to no value masker. -/
theorem chain_regex {maskers : List ValueMasker}
    (h : ∀ masker ∈ maskers, ∃ other, masker = .regex other) (place : Position) {value : Scalar}
    (hvalue : value.isMaskable = false) :
    chain maskers place value = .ok value := by
  rw [Scalar.isMaskable_iff_text?, Option.isSome_eq_false_iff, Option.isNone_iff_eq_none] at hvalue
  induction maskers with
  | nil => rfl
  | cons masker maskers ih =>
    obtain ⟨⟨other, rfl⟩, hmaskers⟩ := List.forall_mem_cons.1 h
    rw [chain, mask, RegexMasker.mask?, hvalue]
    exact ih hmaskers

end ValueMasker

namespace MaskerSet

/-- Where no zero is written, what is written for a scalar is what the chain makes of it. -/
theorem maskScalar_eq_chain {set : MaskerSet} (h : ∀ masker ∈ set.valueMaskers, masker.WritesNoZero)
    (place : Position) {value : Scalar} (hvalue : value.isMaskable = true) :
    set.maskScalar place value = ValueMasker.chain set.valueMaskers place value := by
  rw [maskScalar, if_pos hvalue]
  cases hchain : ValueMasker.chain set.valueMaskers place value with
  | error failure => rfl
  | ok masked =>
    rw [Except.map, Except.ok.injEq]
    split
    next hagrees =>
      rcases Scalar.agrees_cases hagrees with heq | ⟨x, y, rfl, rfl, hx, -⟩
      · exact heq.symm
      · exact ValueMasker.chain_zero h hx hchain
    · rfl

/-! ## One set for two -/

/-- The set for what comes to one set, the upper one, and is passed on to another one below. -/
def atop (upper lower : MaskerSet) : MaskerSet where
  fieldMaskers := lower.fieldMaskers ++ upper.fieldMaskers
  valueMaskers := upper.valueMaskers ++ lower.valueMaskers

/-- Whether a single set decides all that an upper and a lower one decide one after the other: the
mask of a field is that of the lower set or else that of the upper one, which the lower set leaves as
it is; and a scalar is what the lower set makes of what the upper one makes of it. -/
structure Composes (upper lower single : MaskerSet) : Prop where
  field (place : Position) (name : String) : ∃ first second,
    lower.fieldMask (place.inField name) = .ok first ∧
      upper.fieldMask (place.inField name) = .ok second ∧
      single.fieldMask (place.inField name) = .ok (first.or second)
  mask (place : Position) (name : String) (mask : Mask) :
    upper.fieldMask (place.inField name) = .ok (some mask) →
      lower.maskScalar (place.inField name) mask.toScalar = .ok mask.toScalar
  scalar (place : Position) (value : Scalar) : ∃ first second,
    upper.maskScalar place value = .ok first ∧ lower.maskScalar place first = .ok second ∧
      single.maskScalar place value = .ok second

/-- Whether one set can stand for two: the lower one has no value maskers; or it has only regular
expressions, the upper one has no field maskers, and neither writes a zero float, which could equal
the scalar before it without being the same. -/
def Stackable (upper lower : MaskerSet) : Prop :=
  lower.valueMaskers = [] ∨
    upper.fieldMaskers = [] ∧ (∀ masker ∈ lower.valueMaskers, ∃ other, masker = .regex other) ∧
      ∀ masker ∈ upper.valueMaskers ++ lower.valueMaskers, masker.WritesNoZero

variable {upper lower : MaskerSet}

theorem Stackable.leaves_mask (h : upper.Stackable lower) {place : Position} {mask : Mask}
    (hmask : upper.fieldMask place = .ok (some mask)) :
    lower.maskScalar place mask.toScalar = .ok mask.toScalar := by
  rcases h with hvalues | ⟨hfields, -, -⟩
  · exact maskScalar_of_nil hvalues place _
  · rw [fieldMask, hfields] at hmask
    cases hmask

theorem Stackable.scalar (h : upper.Stackable lower) (hupper : upper.NeverFails)
    (hlower : lower.NeverFails) (place : Position) (value : Scalar) : ∃ first second,
      upper.maskScalar place value = .ok first ∧ lower.maskScalar place first = .ok second ∧
        (upper.atop lower).maskScalar place value = .ok second := by
  obtain ⟨first, hfirst⟩ := hupper.maskScalar_isOk place value
  obtain ⟨second, hsecond⟩ := hlower.maskScalar_isOk place first
  refine ⟨first, second, hfirst, hsecond, ?_⟩
  rcases h with hvalues | ⟨-, hregex, hzero⟩
  · rw [maskScalar_of_nil hvalues] at hsecond
    cases hsecond
    rw [← hfirst, maskScalar, atop, hvalues, List.append_nil]
    rfl
  · obtain ⟨hupperZero, hlowerZero⟩ := List.forall_mem_append.1 hzero
    -- The upper chain may end in what is shown to no value masker; the lower one then has no answer.
    have hlowerChain : lower.maskScalar place first =
        ValueMasker.chain lower.valueMaskers place first := by
      cases hmaskable : first.isMaskable with
      | true => exact maskScalar_eq_chain hlowerZero place hmaskable
      | false =>
        rw [ValueMasker.chain_regex hregex place hmaskable, maskScalar, hmaskable]
        rfl
    cases hvalue : value.isMaskable with
    | true =>
      rw [maskScalar_eq_chain hupperZero place hvalue] at hfirst
      rw [hlowerChain] at hsecond
      rw [maskScalar_eq_chain hzero place hvalue]
      show ValueMasker.chain (upper.valueMaskers ++ lower.valueMaskers) place value = _
      rw [ValueMasker.chain_append, hfirst]
      exact hsecond
    | false =>
      rw [maskScalar, hvalue] at hfirst
      cases hfirst
      rw [maskScalar, hvalue] at hsecond ⊢
      exact hsecond

/-- The set for what comes to both decides all that they decide one after the other. -/
theorem Stackable.composes (h : upper.Stackable lower) (hupper : upper.NeverFails)
    (hlower : lower.NeverFails) : upper.Composes lower (upper.atop lower) where
  field place name := by
    obtain ⟨first, hfirst⟩ := hlower.fieldMask_ok (place.inField name)
    obtain ⟨second, hsecond⟩ := hupper.fieldMask_ok (place.inField name)
    exact ⟨first, second, hfirst, hsecond, FieldMasker.firstMask_append hfirst hsecond⟩
  mask place name mask hmask := h.leaves_mask hmask
  scalar := h.scalar hupper hlower

end MaskerSet

/-! ## One event -/

namespace Masking

/-- How much is held back by two streams, one over the other. What the upper one holds back is a
value in the object that the lower one has come to; so its object is counted once, whether or not the
lower one holds back something of the object as well. -/
def stackedDepth : (above below : Nat) → Nat
  | 0, below => below
  | above + 1, below => above + max below 1

@[simp] theorem stackedDepth_succ (above below : Nat) :
    stackedDepth (above + 1) below = above + max below 1 := rfl

theorem stackedDepth_pos (above below : Nat) : 0 < stackedDepth (above + 1) below := by
  rw [stackedDepth_succ]
  omega

theorem stackedDepth_add_one (above below : Nat) :
    stackedDepth (above + 1) below + 1 = stackedDepth (above + 2) below := by
  rw [stackedDepth_succ, stackedDepth_succ]
  omega

theorem stackedDepth_sub_one {above : Nat} (h : above ≤ 1) (below : Nat) :
    stackedDepth above below - 1 = below - 1 := by
  unfold stackedDepth
  split
  · rfl
  · omega

/-- A stream over another one, and a single one that is at the place of the upper one and holds back
as much as both. -/
inductive Stacked (upper lower single : MaskerSet) :
    Masking (Masking Recorder) → Masking Recorder → Prop where
  | intro {recorder : Recorder} {p q : Position} {above below depth : Nat}
      (hdepth : depth = stackedDepth above below) :
      Stacked upper lower single ⟨upper, ⟨lower, recorder, q, below⟩, p, above⟩
        ⟨single, recorder, p, depth⟩

theorem step_opening {σ : Type} [Sink σ] (stream : Masking σ) (kind : Container) (hint : Option Nat) :
    stream.step (kind.opening hint) = stream.enter kind hint := by
  cases kind <;> rfl

theorem step_closing {σ : Type} [Sink σ] (stream : Masking σ) (kind : Container) :
    stream.step kind.closing = stream.leave kind := by
  cases kind <;> rfl

variable {upper lower single : MaskerSet}

theorem enter_stacked (recorder : Recorder) (p : Position) (above below : Nat) (kind : Container)
    (hint : Option Nat) :
    Outcome.Beside (Stacked upper lower single)
      (enter ⟨upper, ⟨lower, recorder, p.shown above, below⟩, p, above⟩ kind hint)
      (enter ⟨single, recorder, p, stackedDepth above below⟩ kind hint) := by
  simp only [enter]
  cases hq : p.enter kind with
  | error fault => exact ⟨.intro rfl, rfl⟩
  | ok q =>
    cases above with
    | zero =>
      simp only [stackedDepth, Nat.lt_irrefl, if_false, forward, write_eq_step, step_opening,
        enter, Position.shown, hq]
      by_cases hbelow : 0 < below
      · simp only [hbelow, if_true]
        exact ⟨.intro rfl, rfl⟩
      · simp only [hbelow, if_false]
        exact ⟨.intro rfl, rfl⟩
    | succ k =>
      simp only [Nat.succ_pos, stackedDepth_pos, if_true]
      exact ⟨.intro (stackedDepth_add_one k below), rfl⟩

/-- What ends while nothing is held back but for the innermost object ends for both streams. -/
theorem shown_of_leave {p q : Position} {kind : Container} (hq : p.leave kind = .ok q) {above : Nat}
    (howned : p.Owned above) (habove : above ≤ 1) : p.shown above = p := by
  match above with
  | 0 => rfl
  | 1 =>
    obtain ⟨pending, outer, hframes⟩ := howned
    have hm := Position.moves_of_leave hq
    cases kind with
    | array =>
      cases hm
      cases hframes
    | object =>
      cases hm
      rfl

theorem leave_stacked (recorder : Recorder) {p : Position} {above : Nat} (howned : p.Owned above)
    (below : Nat) (kind : Container) :
    Outcome.Beside (Stacked upper lower single)
      (leave ⟨upper, ⟨lower, recorder, p.shown above, below⟩, p, above⟩ kind)
      (leave ⟨single, recorder, p, stackedDepth above below⟩ kind) := by
  simp only [leave]
  cases hq : p.leave kind with
  | error fault => exact ⟨.intro rfl, rfl⟩
  | ok q =>
    dsimp only
    by_cases habove : above ≤ 1
    · -- The upper stream passes the end on, to the lower one at the same place.
      rw [stackedDepth_sub_one habove, shown_of_leave hq howned habove, Nat.sub_eq_zero_of_le habove,
        if_neg (Nat.lt_irrefl 0)]
      simp only [forward, write_eq_step, step_closing, leave, hq]
      by_cases hbelow : 0 < below - 1
      · simp only [hbelow, if_true]
        exact ⟨.intro rfl, rfl⟩
      · simp only [hbelow, if_false]
        exact ⟨.intro rfl, rfl⟩
    · obtain ⟨k, rfl⟩ : ∃ k, above = k + 2 := ⟨above - 2, by omega⟩
      rw [← stackedDepth_add_one, Nat.add_sub_cancel, if_pos (stackedDepth_pos k below),
        if_pos (by omega)]
      exact ⟨.intro rfl, rfl⟩

theorem scalar_stacked (h : upper.Composes lower single) (recorder : Recorder) (p : Position)
    (above below : Nat) (value : Scalar) :
    Outcome.Beside (Stacked upper lower single)
      (scalar ⟨upper, ⟨lower, recorder, p.shown above, below⟩, p, above⟩ value)
      (scalar ⟨single, recorder, p, stackedDepth above below⟩ value) := by
  simp only [scalar]
  cases hp : p.checkValue none with
  | error fault => exact ⟨.intro rfl, rfl⟩
  | ok _ =>
    cases above with
    | zero =>
      obtain ⟨first, second, hupper, hlower, hsingle⟩ := h.scalar p value
      simp only [stackedDepth, Nat.lt_irrefl, if_false, hupper, forward, write_eq_step, step,
        scalar, Position.shown, hp, hlower, hsingle]
      by_cases hbelow : 0 < below
      · simp only [hbelow, if_true]
        exact ⟨.intro rfl, rfl⟩
      · simp only [hbelow, if_false]
        exact ⟨.intro rfl, rfl⟩
    | succ k =>
      simp only [Nat.succ_pos, stackedDepth_pos, if_true]
      exact ⟨.intro rfl, rfl⟩

/-- The mask that the upper stream writes for a field is left as it is by the lower one, or held back
with what surrounds it. -/
theorem maskField_stacked (h : upper.Composes lower single) (recorder : Recorder) (p : Position)
    (name : String) (below : Nat) :
    maskField ⟨upper, Masking.mk lower recorder (p.inField name) below, p.inField name, 0⟩ =
      match upper.fieldMask (p.inField name) with
      | .error failure =>
        (⟨upper, ⟨lower, recorder, p.inField name, below⟩, p.inField name, 0⟩, .error failure)
      | .ok none => (⟨upper, ⟨lower, recorder, p.inField name, below⟩, p.inField name, 0⟩, .ok ())
      | .ok (some mask) =>
        (⟨upper, ⟨lower, if 0 < below then recorder else recorder.record [.scalar mask.toScalar],
          p.inObject, below⟩, p.inField name, 1⟩, .ok ()) := by
  rw [maskField]
  cases hanswer : upper.fieldMask (p.inField name) with
  | error failure => rfl
  | ok answer =>
    cases answer with
    | none => rfl
    | some mask =>
      have hready := p.ready_inField name
      dsimp only
      rw [forward, write_eq_step]
      cases below with
      | zero =>
        rw [step_scalar lower recorder hready, h.mask p name mask hanswer]
        dsimp only
        rw [forward_recorder]
        rfl
      | succ k =>
        rw [step_scalar_hidden lower recorder k hready]
        rfl

/-- A field name that both streams decide afresh: the mask of the lower one comes first. -/
theorem field_stacked_afresh (h : upper.Composes lower single) (recorder : Recorder) (p : Position)
    {above below : Nat} (habove : above ≤ 1) (hbelow : below ≤ 1) (name : String) :
    Outcome.Beside (Stacked upper lower single)
      (step ⟨upper, Masking.mk lower recorder p.inObject below, p.inObject, above⟩ (.field name))
      (step ⟨single, recorder, p.inObject, stackedDepth above below⟩ (.field name)) := by
  obtain ⟨first, second, hlower, hupper, hsingle⟩ := h.field p name
  have hdepth : stackedDepth above below ≤ 1 := by
    have hsub := stackedDepth_sub_one habove below
    omega
  rw [MaskerSet.fieldMask_eq] at hlower hsingle
  rw [step_field upper _ p name habove, forward, write_eq_step,
    step_field_recorder lower recorder p name hbelow, hlower,
    step_field_recorder single recorder p name hdepth, hsingle]
  cases first with
  | none =>
    dsimp only
    rw [Outcome.andThen_ok, maskField_stacked h _ p name, hupper]
    cases second with
    | none => exact ⟨.intro rfl, rfl⟩
    | some mask =>
      dsimp only
      rw [if_neg (Nat.lt_irrefl 0), Recorder.record_record]
      exact ⟨.intro rfl, rfl⟩
  | some mask =>
    dsimp only
    rw [Outcome.andThen_ok, maskField_stacked h _ p name, hupper]
    cases second with
    | none => exact ⟨.intro rfl, rfl⟩
    | some other => exact ⟨.intro rfl, rfl⟩

/-- A field name inside what the lower stream holds back: neither name nor mask is seen. -/
theorem field_stacked_hidden (h : upper.Composes lower single) (recorder : Recorder) (p : Position)
    {above : Nat} (habove : above ≤ 1) (k : Nat) (name : String) :
    Outcome.Beside (Stacked upper lower single)
      (step ⟨upper, Masking.mk lower recorder p.inObject (k + 2), p.inObject, above⟩ (.field name))
      (step ⟨single, recorder, p.inObject, stackedDepth above (k + 2)⟩ (.field name)) := by
  obtain ⟨-, second, -, hupper, -⟩ := h.field p name
  have hdepth : stackedDepth above (k + 2) = k + 2 := by
    have hsub := stackedDepth_sub_one habove (k + 2)
    omega
  rw [hdepth, step_field upper _ p name habove, forward, write_eq_step,
    step_field_hidden lower recorder p k name, step_field_hidden single recorder p k name]
  dsimp only
  rw [Outcome.andThen_ok, maskField_stacked h _ p name, hupper]
  cases second with
  | none => exact ⟨.intro rfl, rfl⟩
  | some mask =>
    dsimp only
    rw [if_pos (Nat.succ_pos _)]
    exact ⟨.intro (by rw [stackedDepth_succ]; omega), rfl⟩

theorem field_stacked (h : upper.Composes lower single) (recorder : Recorder) (p : Position)
    (above below : Nat) (name : String) :
    Outcome.Beside (Stacked upper lower single)
      (step ⟨upper, Masking.mk lower recorder (p.shown above) below, p, above⟩ (.field name))
      (step ⟨single, recorder, p, stackedDepth above below⟩ (.field name)) := by
  cases hadv : p.advance (.field name) with
  | error fault =>
    rw [step_refused hadv, step_refused hadv]
    exact ⟨.intro rfl, rfl⟩
  | ok q =>
    cases Position.advance_eq_ok.1 hadv with
    | @field p name =>
      match above, below with
      | 0, 0 | 0, 1 | 1, 0 | 1, 1 =>
        exact field_stacked_afresh h recorder p (by omega) (by omega) name
      | 0, k + 2 | 1, k + 2 => exact field_stacked_hidden h recorder p (by omega) k name
      | k + 2, below =>
        obtain ⟨d, hd⟩ : ∃ d, stackedDepth (k + 2) below = d + 2 :=
          ⟨k + max below 1 - 1, by rw [stackedDepth_succ]; omega⟩
        rw [hd, step_field_hidden upper _ p k name, step_field_hidden single recorder p d name]
        exact ⟨.intro hd.symm, rfl⟩

/-! ## Whole runs -/

/-- A stream over another one and a single one in its place, the other one standing where the first
one shows. -/
structure StackedAt (upper lower single : MaskerSet) (stack : Masking (Masking Recorder))
    (stream : Masking Recorder) : Prop where
  stacked : Stacked upper lower single stack stream
  steady : stack.Steady (StandsAt (fun _ _ => True) lower)

theorem stacked_inStep (h : upper.Composes lower single) :
    Sink.InStep (StackedAt upper lower single) := by
  rintro stack stream ⟨hstacked, hsteady⟩ event
  have hafter := (step_keeps (follows Recorder.accepts.follows lower) hsteady event).steady
  suffices hstep :
      Outcome.Beside (Stacked upper lower single) (stack.step event) (stream.step event) from
    ⟨⟨hstep.1, hafter⟩, hstep.2⟩
  cases hstacked with
  | @intro recorder p q above below depth hdepth =>
    subst hdepth
    obtain rfl : q = p.shown above := hsteady.sink.position_eq
    cases event with
    | beginObject hint => exact enter_stacked recorder p above below .object hint
    | beginArray hint => exact enter_stacked recorder p above below .array hint
    | endObject => exact leave_stacked recorder hsteady.owned below .object
    | endArray => exact leave_stacked recorder hsteady.owned below .array
    | field name => exact field_stacked h recorder p above below name
    | scalar value => exact scalar_stacked h recorder p above below value
    | flush => exact ⟨.intro rfl, rfl⟩

theorem start_stackedAt (upper lower single : MaskerSet) :
    StackedAt upper lower single (start upper (start lower Recorder.empty))
      (start single Recorder.empty) where
  stacked := .intro rfl
  steady := start_steady ⟨rfl, rfl, start_steady trivial⟩

theorem StackedAt.position_eq {stack : Masking (Masking Recorder)} {stream : Masking Recorder}
    (h : StackedAt upper lower single stack stream) : stack.position = stream.position := by
  cases h.stacked with
  | intro hdepth => rfl

theorem StackedAt.recorder_eq {stack : Masking (Masking Recorder)} {stream : Masking Recorder}
    (h : StackedAt upper lower single stack stream) : stack.sink.sink = stream.sink := by
  cases h.stacked with
  | intro hdepth => rfl

/-- Where nothing is open the two ends come to a flush, and elsewhere to the same failure. -/
theorem finish_stacked (h : upper.Composes lower single) {stack : Masking (Masking Recorder)}
    {stream : Masking Recorder} (hat : StackedAt upper lower single stack stream)
    (hstack : stack.Balanced) (hstream : stream.Balanced) :
    Outcome.Beside (StackedAt upper lower single) stack.finish stream.finish := by
  rw [finish_eq hstack, finish_eq hstream, hat.position_eq]
  split
  · exact stacked_inStep h stack stream hat .flush
  · exact ⟨hat, rfl⟩

/-- **Two streams one over the other are a single stream.** Let the maskers of two streams not fail,
and let the lower stream have no value maskers; or else let the upper one have no field maskers, the
lower one only regular expressions for values, and neither write a zero float for a value. Then, over
a recorder, they do the same as one stream that asks the field maskers of the lower stream before
those of the upper one and the value maskers of the upper one before those of the lower: whatever the
events and whatever failed of them, the same has been recorded, the place is the same, any next event
has the same result, and so does the end, after which the same has been recorded. -/
theorem stacked_eq_single (upper lower : MaskerSet) (hupper : upper.NeverFails)
    (hlower : lower.NeverFails) (h : upper.Stackable lower) (events : List Event) :
    let stack := Sink.feed (start upper (start lower Recorder.empty)) events
    let single := Sink.feed (start (upper.atop lower) Recorder.empty) events
    stack.sink.sink = single.sink ∧ stack.position = single.position ∧
      (∀ event, (stack.step event).2 = (single.step event).2) ∧
      stack.finish.2 = single.finish.2 ∧ stack.finish.1.sink.sink = single.finish.1.sink := by
  intro stack single
  have hcomposes := h.composes hupper hlower
  have hat : StackedAt upper lower (upper.atop lower) stack single :=
    (stacked_inStep hcomposes).feed (start_stackedAt upper lower (upper.atop lower)) events
  obtain ⟨hend, hresult⟩ := finish_stacked hcomposes hat
    (feed_balanced (start_balanced upper _) events) (feed_balanced (start_balanced _ _) events)
  exact ⟨hat.recorder_eq, hat.position_eq,
    fun event => (stacked_inStep hcomposes stack single hat event).2, hresult, hend.recorder_eq⟩

/-- The upper stream masks a field inside a value that the lower one holds back, a field that the
lower one masks as well, and one alone; and the upper one only masks text, before the lower one does. -/
theorem stacked_eq_single_pin :
    let upper : MaskerSet := { fieldMaskers := [.names ⟨["pin", "user"], .null⟩] }
    let lower : MaskerSet := { fieldMaskers := [.names ⟨["login", "user"], .bool true⟩] }
    let events : List Event :=
      [.beginObject none, .field "login", .beginObject none, .field "pin", .beginArray none, .endObject,
        .scalar (.integer 7), .endArray, .endObject, .field "pin", .scalar (.integer 4111),
        .field "user", .scalar (.string "keep 4111"), .endObject]
    let recorded : List Event :=
      [.beginObject none, .field "login", .scalar (.bool true), .field "pin", .scalar .null,
        .field "user", .scalar (.bool true), .endObject]
    upper.NeverFails ∧ lower.NeverFails ∧ upper.Stackable lower ∧
      (Sink.feed (start upper (start lower Recorder.empty)) events).sink.sink.events.toList = recorded ∧
      ∃ keep card, Regex.compile "keep" = .ok keep ∧ Regex.compile "4111" = .ok card ∧
        let text : MaskerSet := { valueMaskers := [.regex ⟨keep, .standard⟩] }
        let values : MaskerSet := { lower with valueMaskers := [.regex ⟨card, .integer 0⟩] }
        text.Stackable values ∧
          (Sink.feed (start text (start values Recorder.empty)) events).sink.sink =
            (Sink.feed (start (text.atop values) Recorder.empty) events).sink := by
  intro upper lower events recorded
  have hupper : upper.NeverFails := .of_no_custom (by simp [upper]) (by simp [upper])
  have hlower : lower.NeverFails := .of_no_custom (by simp [lower]) (by simp [lower])
  have hstack : upper.Stackable lower := .inl rfl
  have hsame := (stacked_eq_single upper lower hupper hlower hstack events).1
  have hrecorded : (Sink.feed (start (upper.atop lower) Recorder.empty) events).sink.events.toList =
      recorded := by decide
  refine ⟨hupper, hlower, hstack, by rw [hsame, hrecorded], ?_⟩
  obtain ⟨keep, hkeep⟩ : ∃ keep, Regex.compile "keep" = .ok keep := ⟨_, rfl⟩
  obtain ⟨card, hcard⟩ : ∃ card, Regex.compile "4111" = .ok card := ⟨_, rfl⟩
  refine ⟨keep, card, hkeep, hcard, ?_⟩
  intro text values
  have htext : text.NeverFails := .of_no_custom (by simp [text]) (by simp [text])
  have hvalues : values.NeverFails := .of_no_custom (by simp [values, lower]) (by simp [values])
  have hstackable : text.Stackable values := by
    refine .inr ⟨rfl, fun masker hmem => ⟨_, List.mem_singleton.1 hmem⟩, fun masker hmem => ?_⟩
    have hmasker : masker = .regex ⟨keep, .standard⟩ ∨ masker = .regex ⟨card, .integer 0⟩ := by
      simpa [text, values] using hmem
    rcases hmasker with rfl | rfl <;> exact ValueMasker.writesNoZero_regex nofun
  exact ⟨hstackable, (stacked_eq_single text values htext hvalues hstackable events).1⟩

end Masking
end StreamMask
