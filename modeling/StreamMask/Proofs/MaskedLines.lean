/-
Masking of lines, up to the first that cannot be masked.

`Lines.Masks` tells what comes out of the lines before the first that fails. That much is
written, each text with a line end behind it, and the failure is reported with the number
of its line (`Masks.maskLines_fits`). A channel that takes fewer bytes gets the first of them,
and the line whose text goes beyond its limit is reported (`Masks.maskLines_closes`).
-/
import StreamMask.Proofs.LineSplitting
import StreamMask.Proofs.MaskedText
import StreamMask.Proofs.Utf8Facts

namespace StreamMask

open Text (encode)

/-! ## Channels -/

namespace Channel

/-- A channel that has taken these bytes. -/
def holding (bytes : List UInt8) (limit : Option Nat) (refusesFlush : Bool) : Channel :=
  ⟨⟨bytes.toArray⟩, limit, refusesFlush⟩

/-- The bytes that a channel has taken. -/
def written (channel : Channel) : List UInt8 := channel.bytes.data.toList

/-- Whether a limit lets so many bytes through. -/
def Allows (limit : Option Nat) (size : Nat) : Prop := ∀ n, limit = some n → size ≤ n

theorem allows_none (size : Nat) : Allows none size := fun _ h => nomatch h

theorem allows_some {n size : Nat} (h : size ≤ n) : Allows (some n) size := by
  intro limit hlimit
  cases hlimit
  exact h

variable {bytes : List UInt8} {limit : Option Nat} {refusesFlush : Bool} {piece : String}

theorem put_holding : Output.put (holding bytes limit refusesFlush) piece =
    let new := encode piece.toList
    let taken := (holding bytes limit refusesFlush).room new.length
    (holding (bytes ++ new.take taken) limit refusesFlush,
      if taken = new.length then none else some .closed) := by
  have hsize : piece.toUTF8.size = (encode piece.toList).length := by
    rw [← Text.toUTF8_toList]
    rfl
  have htaken : ∀ taken, (holding bytes limit refusesFlush).bytes ++ piece.toUTF8.extract 0 taken =
      ⟨(bytes ++ (encode piece.toList).take taken).toArray⟩ := by
    intro taken
    ext1
    rw [ByteArray.data_append, ByteArray.data_extract]
    apply Array.toList_inj.mp
    rw [Array.toList_append, Array.toList_extract, Text.toUTF8_toList]
    rfl
  show (Channel.mk (_ ++ _) _ _, _) = _
  rw [htaken, hsize]
  rfl

/-- A piece is taken whole if there is room for it. -/
theorem put_fits (h : Allows limit (bytes.length + (encode piece.toList).length)) :
    Output.put (holding bytes limit refusesFlush) piece =
      (holding (bytes ++ encode piece.toList) limit refusesFlush, none) := by
  have hroom : (holding bytes limit refusesFlush).room (encode piece.toList).length =
      (encode piece.toList).length := by
    cases limit with
    | none => rfl
    | some n =>
      have hn := h n rfl
      show min _ (n - bytes.length) = _
      omega
  rw [put_holding]
  simp only [hroom, List.take_length, if_true]

/-- What there is room for is taken of a piece that goes beyond the limit. -/
theorem put_closes {n : Nat} (hroom : bytes.length ≤ n)
    (hover : n < bytes.length + (encode piece.toList).length) :
    Output.put (holding bytes (some n) refusesFlush) piece =
      (holding ((bytes ++ encode piece.toList).take n) (some n) refusesFlush, some .closed) := by
  have htaken : (holding bytes (some n) refusesFlush).room (encode piece.toList).length =
      n - bytes.length := by
    show min _ (n - bytes.length) = _
    omega
  have hless : n - bytes.length ≠ (encode piece.toList).length := by omega
  rw [put_holding]
  simp only [htaken, if_neg hless, List.take_append, List.take_of_length_le hroom]

end Channel

namespace Lines

variable {set : MaskerSet}

/-! ## Single lines -/

/-- What comes out of a line: nothing if it is blank. -/
inductive Shows (set : MaskerSet) : List UInt8 → Option String → Prop where
  | blank {text : String} (blank : ∀ c ∈ text.toList, Text.isBlank c = true) :
    Shows set (encode text.toList) none
  | masked {text out : String} (filled : ¬∀ c ∈ text.toList, Text.isBlank c = true)
      (answer : maskText set text = .ok out) : Shows set (encode text.toList) (some out)

/-- Why nothing comes out of a line. -/
inductive Fails (set : MaskerSet) : List UInt8 → Failure → Prop where
  | notText {line : List UInt8} (differs : ∀ text : String, encode text.toList ≠ line) :
    Fails set line (.io .notUtf8)
  | notMasked {text : String} {failure : Failure} (filled : ¬∀ c ∈ text.toList, Text.isBlank c = true)
      (answer : maskText set text = .error failure) : Fails set (encode text.toList) failure

theorem maskLine_encode (text : String) : maskLine set (encode text.toList) =
    if Text.isAllBlank text then .ok none else (maskText set text).map some := by
  rw [maskLine, Text.ofBytes?_eq_some.mpr rfl]

theorem isAllBlank_iff {text : String} :
    Text.isAllBlank text = true ↔ ∀ c ∈ text.toList, Text.isBlank c = true := List.all_eq_true

theorem Shows.maskLine_eq {line : List UInt8} {shown : Option String} (h : Shows set line shown) :
    maskLine set line = .ok shown := by
  cases h with
  | blank blank => rw [maskLine_encode, if_pos (isAllBlank_iff.mpr blank)]
  | masked filled answer =>
    rw [maskLine_encode, if_neg (mt isAllBlank_iff.mp filled), answer]
    rfl

theorem Fails.maskLine_eq {line : List UInt8} {failure : Failure} (h : Fails set line failure) :
    maskLine set line = .error failure := by
  cases h with
  | notText differs =>
    cases htext : Text.ofBytes? line with
    | none => rw [maskLine, htext]
    | some text => exact absurd (Text.ofBytes?_eq_some.mp htext).symm (differs text)
  | notMasked filled answer =>
    rw [maskLine_encode, if_neg (mt isAllBlank_iff.mp filled), answer]
    rfl

theorem shows_or_fails (set : MaskerSet) (line : List UInt8) :
    (∃ shown, Shows set line shown) ∨ ∃ failure, Fails set line failure := by
  by_cases htext : ∃ text : String, encode text.toList = line
  · obtain ⟨text, rfl⟩ := htext
    by_cases hblank : ∀ c ∈ text.toList, Text.isBlank c = true
    · exact .inl ⟨none, .blank hblank⟩
    · cases hanswer : maskText set text with
      | ok out => exact .inl ⟨some out, .masked hblank hanswer⟩
      | error failure => exact .inr ⟨failure, .notMasked hblank hanswer⟩
  · exact .inr ⟨_, .notText fun text heq => htext ⟨text, heq⟩⟩

/-! ## Runs -/

/-- How far lines are masked: what comes out of each line before the first that fails, and why that
one does. -/
inductive Masks (set : MaskerSet) :
    List (List UInt8) → List (Option String) → Option Failure → Prop where
  | done : Masks set [] [] none
  | failed {line : List UInt8} {rest : List (List UInt8)} {failure : Failure}
      (fails : Fails set line failure) : Masks set (line :: rest) [] (some failure)
  | shows {line : List UInt8} {rest : List (List UInt8)} {first : Option String}
      {shown : List (Option String)} {stop : Option Failure} (head : Shows set line first)
      (tail : Masks set rest shown stop) : Masks set (line :: rest) (first :: shown) stop

theorem exists_masks (set : MaskerSet) (lines : List (List UInt8)) :
    ∃ shown stop, Masks set lines shown stop := by
  induction lines with
  | nil => exact ⟨[], none, .done⟩
  | cons line rest ih =>
    rcases shows_or_fails set line with ⟨first, hfirst⟩ | ⟨failure, hfailure⟩
    · obtain ⟨shown, stop, htail⟩ := ih
      exact ⟨_, stop, .shows hfirst htail⟩
    · exact ⟨[], some failure, .failed hfailure⟩

theorem Masks.append {lines others : List (List UInt8)} {shown shown' : List (Option String)}
    {stop : Option Failure} (h : Masks set lines shown none) (hothers : Masks set others shown' stop) :
    Masks set (lines ++ others) (shown ++ shown') stop := by
  induction lines generalizing shown with
  | nil =>
    cases h
    exact hothers
  | cons line rest ih =>
    cases h with
    | shows head tail => exact .shows head (ih tail)

/-- Where no line fails, there is an answer for each. -/
theorem Masks.length_eq {lines : List (List UInt8)} {shown : List (Option String)}
    (h : Masks set lines shown none) : lines.length = shown.length := by
  induction lines generalizing shown with
  | nil =>
    cases h
    rfl
  | cons line rest ih =>
    cases h with
    | shows head tail => rw [List.length_cons, List.length_cons, ih tail]

/-- The texts that come out of lines. -/
def outs (shown : List (Option String)) : List String := shown.filterMap id

/-- What comes out of lines, as bytes: each text with a line end behind it. -/
def printed (shown : List (Option String)) : List UInt8 :=
  (outs shown).flatMap fun out => encode (out ++ "\n").toList

@[simp] theorem printed_nil : printed [] = [] := rfl

@[simp] theorem printed_none (shown : List (Option String)) :
    printed (none :: shown) = printed shown := rfl

@[simp] theorem printed_some (out : String) (shown : List (Option String)) :
    printed (some out :: shown) = encode (out ++ "\n").toList ++ printed shown := rfl

theorem printed_append (shown shown' : List (Option String)) :
    printed (shown ++ shown') = printed shown ++ printed shown' := by
  simp only [printed, outs, List.filterMap_append, List.flatMap_append]

/-- What is reported once so many lines have been read and so many texts written. -/
def report (number count : Nat) : Option Failure → Except LineFailure Nat
  | none => .ok count
  | some failure => .error ⟨number + 1, failure⟩

open Channel (holding Allows put_fits put_closes)

variable {lines : List (List UInt8)} {before shown : List (Option String)} {stop : Option Failure}
  {limit : Option Nat} {bytes : List UInt8}

/-- **Lines are passed while there is room for what comes out of them.** -/
theorem Masks.passes (h : Masks set lines (before ++ shown) stop) (refusesFlush : Bool)
    (hfits : Allows limit (bytes.length + (printed before).length)) (number count : Nat) :
    ∃ rest, Masks set rest shown stop ∧
      maskFrom set (holding bytes limit refusesFlush) number count lines =
        maskFrom set (holding (bytes ++ printed before) limit refusesFlush) (number + before.length)
          (count + (outs before).length) rest := by
  induction before generalizing lines bytes number count with
  | nil => exact ⟨lines, h, by rw [printed_nil, List.append_nil]; rfl⟩
  | cons first before ih =>
    cases h with
    | shows head tail =>
      rw [maskFrom, head.maskLine_eq, List.length_cons, Nat.add_comm before.length,
        ← Nat.add_assoc]
      cases first with
      | none => exact ih tail hfits (number + 1) count
      | some out =>
        -- There is room for this text, and for the others behind it.
        have houts : (outs (some out :: before)).length = 1 + (outs before).length := Nat.add_comm _ 1
        rw [printed_some, List.length_append, ← Nat.add_assoc] at hfits
        have hput : Allows limit (bytes.length + (encode (out ++ "\n").toList).length) :=
          fun n hn => Nat.le_trans (Nat.le_add_right _ _) (hfits n hn)
        rw [← List.length_append] at hfits
        simp only [put_fits hput]
        rw [printed_some, ← List.append_assoc, houts, ← Nat.add_assoc]
        exact ih tail hfits (number + 1) (count + 1)

/-- At the line that fails, or behind the last one, nothing more is written. -/
theorem Masks.stops (h : Masks set lines [] stop) (number count : Nat) :
    maskFrom set (holding bytes limit false) number count lines =
      (holding bytes limit false, report number count stop) := by
  cases h with
  | done => rfl
  | failed fails => rw [maskFrom, fails.maskLine_eq]; rfl

/-- From the beginning, lines are passed for which a channel has room. -/
theorem Masks.begins {input : List UInt8} (h : Masks set (ofBytes input) (before ++ shown) stop)
    (refusesFlush : Bool) (hfits : Allows limit (printed before).length) :
    ∃ rest, Masks set rest shown stop ∧
      maskLines set input (holding [] limit refusesFlush) =
        maskFrom set (holding (printed before) limit refusesFlush) before.length (outs before).length
          rest := by
  have hroom : Allows limit (([] : List UInt8).length + (printed before).length) := by
    rwa [List.length_nil, Nat.zero_add]
  obtain ⟨rest, hrest, hrun⟩ := h.passes refusesFlush hroom 0 0
  rw [List.nil_append, Nat.zero_add, Nat.zero_add] at hrun
  exact ⟨rest, hrest, by rw [maskLines, split_eq, hrun]⟩

/-- **What is written where there is room for it**, and what is reported. -/
theorem Masks.maskLines_fits {input : List UInt8} (h : Masks set (ofBytes input) shown stop)
    (hfits : Allows limit (printed shown).length) :
    maskLines set input (holding [] limit false) =
      (holding (printed shown) limit false, report shown.length (outs shown).length stop) := by
  rw [← List.append_nil shown] at h
  obtain ⟨rest, hrest, hrun⟩ := h.begins false hfits
  rw [hrun, hrest.stops]

/-- Where there is no room for all, there is a first text that goes beyond the limit. -/
theorem exists_beyond {start n : Nat} (hroom : start ≤ n) (hover : n < start + (printed shown).length) :
    ∃ before out after, shown = before ++ some out :: after ∧
      start + (printed before).length ≤ n ∧
      n < start + (printed before).length + (encode (out ++ "\n").toList).length := by
  induction shown generalizing start with
  | nil =>
    rw [printed_nil, List.length_nil] at hover
    omega
  | cons first shown ih =>
    cases first with
    | none =>
      obtain ⟨before, out, after, rfl, hbefore, hbeyond⟩ := ih hroom hover
      exact ⟨none :: before, out, after, rfl, hbefore, hbeyond⟩
    | some out =>
      rw [printed_some, List.length_append] at hover
      by_cases hfits : start + (encode (out ++ "\n").toList).length ≤ n
      · obtain ⟨before, out', after, rfl, hbefore, hbeyond⟩ := ih hfits (by omega)
        refine ⟨some out :: before, out', after, rfl, ?_, ?_⟩ <;>
          rw [printed_some, List.length_append] <;> omega
      · exact ⟨[], out, shown, rfl, hroom, Nat.lt_of_not_le hfits⟩

/-- **What is written where there is no room for it**: as much as there is room for. The line whose
text goes beyond the limit is reported. -/
theorem Masks.maskLines_closes {input : List UInt8} (h : Masks set (ofBytes input) shown stop)
    (refusesFlush : Bool) {n : Nat} (hover : n < (printed shown).length) :
    ∃ before out after, shown = before ++ some out :: after ∧
      (printed before).length ≤ n ∧ n < (printed (before ++ [some out])).length ∧
      maskLines set input (holding [] (some n) refusesFlush) =
        (holding ((printed shown).take n) (some n) refusesFlush,
          .error ⟨before.length + 1, .io .closed⟩) := by
  obtain ⟨before, out, after, rfl, hbefore, hbeyond⟩ :=
    exists_beyond (Nat.zero_le n) (by rwa [Nat.zero_add])
  rw [Nat.zero_add] at hbefore hbeyond
  obtain ⟨rest, hrest, hrun⟩ := h.begins refusesFlush (Channel.allows_some hbefore)
  have hbytes : (printed (before ++ some out :: after)).take n =
      (printed before ++ encode (out ++ "\n").toList).take n := by
    rw [printed_append, printed_some, ← List.append_assoc, List.take_append_of_le_length]
    rw [List.length_append]
    omega
  refine ⟨before, out, after, rfl, hbefore, ?_, ?_⟩
  · rw [printed_append, printed_some, printed_nil, List.append_nil, List.length_append]
    exact hbeyond
  · -- The channel is at the line of the first text that goes beyond its limit.
    rw [hrun, hbytes]
    cases hrest with
    | shows head tail =>
      rw [maskFrom, head.maskLine_eq]
      simp only [put_closes hbefore hbeyond]

/-! ## Line ends -/

/-- There are as many line ends as texts, since no text has one in it. -/
theorem Masks.count_printed (h : Masks set lines shown stop) :
    (printed shown).count 10 = (outs shown).length := by
  induction h with
  | done => rfl
  | failed fails => rfl
  | @shows line rest first shown stop head tail ih =>
    cases head with
    | blank blank => exact ih
    | @masked text out filled answer =>
      have hvisible := (maskText_visible answer).bytes
      have hnone : (encode out.toList).count 10 = 0 := by
        rw [List.count_eq_zero, ← Text.toUTF8_toList]
        intro hmem
        exact absurd (hvisible 10 (Array.mem_toList_iff.mp hmem)) (by decide)
      have hend : encode "\n".toList = [10] := by decide
      rw [printed_some, String.toList_append, Text.encode_append, hend, List.count_append,
        List.count_append, hnone, ih]
      show 0 + 1 + (outs shown).length = (outs shown).length + 1
      omega

/-! ## All lines of some bytes -/

/-- Mask the lines of bytes into a channel that takes everything. -/
def run (set : MaskerSet) (input : List UInt8) : Channel × Except LineFailure Nat :=
  maskLines set input (holding [] none false)

/-- What is reported of lines behind others. -/
def behind (number count : Nat) : Except LineFailure Nat → Except LineFailure Nat
  | .ok count' => .ok (count + count')
  | .error fault => .error ⟨number + fault.line, fault.failure⟩

theorem behind_report (number count number' count' : Nat) (stop : Option Failure) :
    behind number count (report number' count' stop) =
      report (number + number') (count + count') stop := by
  cases stop <;> rfl

theorem Masks.run_eq {input : List UInt8} (h : Masks set (ofBytes input) shown stop) :
    run set input =
      (holding (printed shown) none false, report shown.length (outs shown).length stop) :=
  h.maskLines_fits (Channel.allows_none _)

/-- **Lines come out one after the other.** What follows lines that are ended and do not fail is
masked as if it stood alone, and its lines are counted on. -/
theorem run_append {ended : List UInt8} (hended : ended.getLast? = some 10) {count : Nat}
    (hcount : (run set ended).2 = .ok count) (rest : List UInt8) :
    run set (ended ++ rest) =
      (holding ((run set ended).1.written ++ (run set rest).1.written) none false,
        behind (ofBytes ended).length count (run set rest).2) := by
  obtain ⟨first, stop, hfirst⟩ := exists_masks set (ofBytes ended)
  obtain ⟨second, stop', hsecond⟩ := exists_masks set (ofBytes rest)
  rw [hfirst.run_eq] at hcount ⊢
  cases stop with
  | some failure => contradiction
  | none =>
    cases hcount
    have hboth := hfirst.append hsecond
    rw [← ofBytes_append hended] at hboth
    have hlines : (ofBytes ended).length = first.length := hfirst.length_eq
    have houts : (outs (first ++ second)).length = (outs first).length + (outs second).length := by
      rw [outs, List.filterMap_append, List.length_append]
      rfl
    rw [hsecond.run_eq, behind_report, hboth.run_eq, printed_append, houts, hlines,
      List.length_append]
    rfl

end Lines

open Lines Channel

/-- **Lines are masked up to the first that fails, and no further.** What comes out of the lines before
it is what is written, a line end behind each text, and there are no others. Then the failure is
reported with the number of its line, or else the number of texts. A channel that takes fewer bytes
gets the first of them, and the line whose text it does not take whole is reported. Lines that are
ended and do not fail do not change what comes out of those that follow. -/
theorem maskLines_until_failure (set : MaskerSet) :
    (∀ input : List UInt8, ∃ (shown : List (Option String)) (stop : Option Failure),
      Masks set (ofBytes input) shown stop ∧
      (∀ limit, Allows limit (printed shown).length →
        maskLines set input (holding [] limit false) =
          (holding (printed shown) limit false, report shown.length (outs shown).length stop)) ∧
      (printed shown).count 10 = (outs shown).length ∧
      ∀ (n : Nat) (refusesFlush : Bool), n < (printed shown).length →
        ∃ before out after, shown = before ++ some out :: after ∧
          (printed before).length ≤ n ∧ n < (printed (before ++ [some out])).length ∧
          maskLines set input (holding [] (some n) refusesFlush) =
            (holding ((printed shown).take n) (some n) refusesFlush,
              .error ⟨before.length + 1, .io .closed⟩)) ∧
    ∀ (ended rest : List UInt8) (count : Nat), ended.getLast? = some 10 →
      (run set ended).2 = .ok count →
      run set (ended ++ rest) =
        (holding ((run set ended).1.written ++ (run set rest).1.written) none false,
          behind (ofBytes ended).length count (run set rest).2) := by
  refine ⟨fun input => ?_, fun ended rest count hended hcount => run_append hended hcount rest⟩
  obtain ⟨shown, stop, h⟩ := exists_masks set (ofBytes input)
  exact ⟨shown, stop, h, fun limit hfits => h.maskLines_fits hfits, h.count_printed,
    fun n refusesFlush hover => h.maskLines_closes refusesFlush hover⟩

/-- Ended lines, the second of them blank, before one that is masked and one that fails. -/
theorem maskLines_until_failure_pins :
    let set : MaskerSet := { fieldMaskers := [.names ⟨["pin"], .string "***"⟩] }
    let ended := encode "\x7b\"pin\": 1\x7d\r\n \n".toList
    let rest := encode "2\n]\n".toList
    ended.getLast? = some 10 ∧ (run set ended).2 = .ok 1 ∧
      run set (ended ++ rest) =
        (holding ((run set ended).1.written ++ (run set rest).1.written) none false,
          behind (ofBytes ended).length 1 (run set rest).2) := by
  intro set ended rest
  have hended : ended.getLast? = some 10 := by decide +kernel
  have hcount : (run set ended).2 = .ok 1 := ok_of_toOption (by decide +kernel)
  obtain ⟨-, hbehind⟩ := maskLines_until_failure set
  exact ⟨hended, hcount, hbehind ended rest 1 hended hcount⟩

end StreamMask
