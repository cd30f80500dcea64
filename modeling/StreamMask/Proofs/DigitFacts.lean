/-
What digits say, and the digits that numbers have.
-/
import Mathlib.Algebra.Group.Nat.Defs
import StreamMask.Binary64.Basic
import StreamMask.Text.Digits

namespace StreamMask

theorem twoTo_eq (n : Nat) : twoTo n = 2 ^ n := rfl

theorem tenTo_eq (n : Nat) : tenTo n = 10 ^ n := rfl

namespace Text

theorem digitsValue_eq (start : Nat) (digits : List Char) :
    digitsValue start digits = Nat.ofDigitChars 10 digits start := by
  have h : (fun n c => n * 10 + digitValue c) = fun n (c : Char) => 10 * n + (c.toNat - '0'.toNat) := by
    funext n c
    rw [Nat.mul_comm n]
    rfl
  rw [digitsValue, h, Nat.ofDigitChars_eq_foldl]

theorem digitsValue_append (start : Nat) (xs ys : List Char) :
    digitsValue start (xs ++ ys) = digitsValue (digitsValue start xs) ys := by
  simp only [digitsValue, List.foldl_append]

theorem digitsValue_zeros (start count : Nat) :
    digitsValue start (List.replicate count '0') = start * 10 ^ count := by
  rw [digitsValue_eq, Nat.ofDigitChars_replicate_zero, Nat.mul_comm]

theorem digitsValue_toDigits (n : Nat) : digitsValue 0 (Nat.toDigits 10 n) = n := by
  rw [digitsValue_eq, Nat.ofDigitChars_ten_toDigits]

theorem toDigits_isDigit (n : Nat) : (Nat.toDigits 10 n).all Char.isDigit = true :=
  List.all_eq_true.mpr fun _ h => Nat.isDigit_of_mem_toDigits (by decide) (by decide) h

/-- The digits of a number that is not zero do not begin with a zero. -/
theorem toDigits_head {n : Nat} (h : 0 < n) :
    ∃ first rest, Nat.toDigits 10 n = first :: rest ∧ first ≠ '0' := by
  induction n using Nat.strongRecOn with
  | ind n ih =>
    by_cases hn : n < 10
    · refine ⟨n.digitChar, [], Nat.toDigits_of_lt_base hn, ?_⟩
      rw [ne_eq, Nat.digitChar_eq_zero]
      omega
    · obtain ⟨first, rest, heq, hne⟩ := ih (n / 10) (by omega) (by omega)
      exact ⟨first, rest ++ [(n % 10).digitChar],
        by rw [Nat.toDigits_of_base_le (by decide) (by omega), heq, List.cons_append], hne⟩

/-- The digits of a number that tens do not divide do not end in a zero. -/
theorem toDigits_last {n : Nat} (h : n % 10 ≠ 0) (before : List Char) :
    Nat.toDigits 10 n ≠ before ++ ['0'] := by
  intro heq
  have hvalue := digitsValue_toDigits n
  rw [heq, digitsValue_append] at hvalue
  have hten : digitsValue (digitsValue 0 before) ['0'] = digitsValue 0 before * 10 := by
    simp [digitsValue, digitValue]
  omega

/-- A number is in one way at most a power of ten times one that tens do not divide. -/
theorem tens_unique {a b i j : Nat} (h : a * 10 ^ i = b * 10 ^ j) (ha : a % 10 ≠ 0) (hb : b % 10 ≠ 0) :
    a = b ∧ i = j := by
  induction i generalizing j with
  | zero =>
    cases j with
    | zero => simpa using h
    | succ j =>
      rw [Nat.pow_zero, Nat.mul_one, Nat.pow_succ, ← Nat.mul_assoc] at h
      generalize b * 10 ^ j = c at h
      omega
  | succ i ih =>
    rw [Nat.pow_succ, ← Nat.mul_assoc] at h
    cases j with
    | zero =>
      rw [Nat.pow_zero, Nat.mul_one] at h
      generalize a * 10 ^ i = c at h
      omega
    | succ j =>
      rw [Nat.pow_succ, ← Nat.mul_assoc] at h
      obtain ⟨hab, hij⟩ := ih (Nat.eq_of_mul_eq_mul_right (by decide) h)
      exact ⟨hab, congrArg (· + 1) hij⟩

theorem natural?_toDigits (n : Nat) : natural? (Nat.toDigits 10 n) = some n := by
  by_cases hn : n = 0
  · subst hn
    rfl
  · obtain ⟨first, rest, heq, hne⟩ := toDigits_head (n := n) (by omega)
    have hall := toDigits_isDigit n
    have hvalue := digitsValue_toDigits n
    rw [heq] at hall hvalue ⊢
    unfold natural?
    split
    · contradiction
    · next h => exact absurd (List.cons.inj h).1 hne
    · rw [if_pos hall, hvalue]

theorem digitChar_digitValue {c : Char} (h : c.isDigit = true) : (digitValue c).digitChar = c := by
  simp only [Char.isDigit, Bool.and_eq_true, decide_eq_true_eq] at h
  have hlow : 48 ≤ c.toNat := h.1
  have hhigh : c.toNat ≤ 57 := h.2
  apply Char.toNat_inj.mp
  rw [digitValue, Nat.toNat_digitChar_of_lt_ten (by omega)]
  omega

theorem digitValue_lt {c : Char} (h : c.isDigit = true) : digitValue c < 10 := by
  simp only [Char.isDigit, Bool.and_eq_true, decide_eq_true_eq] at h
  have hhigh : c.toNat ≤ 57 := h.2
  rw [digitValue]
  omega

/-- Digits that go on after those of a number that is not zero are the last digits of what they all
write. -/
theorem toDigits_digitsValue {digits : List Char} (hall : digits.all Char.isDigit = true)
    {start : Nat} (hstart : 0 < start) :
    Nat.toDigits 10 (digitsValue start digits) = Nat.toDigits 10 start ++ digits := by
  induction digits generalizing start with
  | nil => exact (List.append_nil _).symm
  | cons c digits ih =>
    rw [List.all_cons, Bool.and_eq_true] at hall
    have hlast := Nat.toDigits_append_toDigits (b := 10) (by decide) hstart (digitValue_lt hall.1)
    rw [Nat.toDigits_of_lt_base (digitValue_lt hall.1), digitChar_digitValue hall.1] at hlast
    calc Nat.toDigits 10 (digitsValue start (c :: digits))
        = Nat.toDigits 10 (digitsValue (10 * start + digitValue c) digits) := by
          rw [Nat.mul_comm]; rfl
      _ = Nat.toDigits 10 (10 * start + digitValue c) ++ digits := ih hall.2 (by omega)
      _ = Nat.toDigits 10 start ++ c :: digits := by rw [← hlast, List.append_assoc]; rfl

/-- **A text is read as a number just if it is the decimal text of that number.** -/
theorem natural?_eq_some {text : List Char} {n : Nat} :
    natural? text = some n ↔ text = Nat.toDigits 10 n := by
  refine ⟨fun h => ?_, fun h => h ▸ natural?_toDigits n⟩
  unfold natural? at h
  split at h
  · contradiction
  · next rest =>
    obtain ⟨rfl, hn⟩ := Option.ite_none_right_eq_some.mp h
    cases hn
    rfl
  · next hne hlead =>
    obtain ⟨hall, hn⟩ := Option.ite_none_right_eq_some.mp h
    cases hn
    cases text with
    | nil => exact absurd rfl hne
    | cons c digits =>
      rw [List.all_cons, Bool.and_eq_true] at hall
      have hc : c ≠ '0' := fun heq => hlead digits (by rw [heq])
      have hpos : 0 < digitValue c := by
        refine Nat.pos_of_ne_zero fun hzero => hc ?_
        rw [← digitChar_digitValue hall.1, hzero]
        rfl
      have hvalue : digitsValue 0 (c :: digits) = digitsValue (digitValue c) digits := by
        simp [digitsValue]
      rw [hvalue, toDigits_digitsValue hall.2 hpos, Nat.toDigits_of_lt_base (digitValue_lt hall.1),
        digitChar_digitValue hall.1]
      rfl

/-- Only digits are the text of a number. -/
theorem natural?_isDigit {text : List Char} {n : Nat} (h : natural? text = some n) :
    text.all Char.isDigit = true := by
  rw [natural?_eq_some.mp h]
  exact toDigits_isDigit n

end Text

namespace Binary64

theorem lt_ten_pow_digitCount (n : Nat) : n < 10 ^ digitCount n :=
  (Nat.length_toDigits_le_iff (by decide) Nat.length_toDigits_pos).mp (Nat.le_refl _)

theorem digitCount_pos (n : Nat) : 0 < digitCount n := Nat.length_toDigits_pos

theorem ten_pow_digitCount_le {n : Nat} (h : 0 < n) : 10 ^ (digitCount n - 1) ≤ n := by
  by_cases hc : digitCount n = 1
  · rw [hc]
    omega
  · have := digitCount_pos n
    have hle := Nat.length_toDigits_le_iff (n := n) (show 1 < 10 by decide)
      (show 0 < digitCount n - 1 by omega)
    have hnot : ¬(Nat.toDigits 10 n).length ≤ digitCount n - 1 := by
      simp only [digitCount] at *
      omega
    exact Nat.le_of_not_lt fun hlt => hnot (hle.mpr hlt)

end Binary64
end StreamMask
