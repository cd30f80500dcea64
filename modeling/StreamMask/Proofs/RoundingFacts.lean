/-
Rounding, proved to find the number in whose interval a quotient lies.

A quotient `a / d` counts units of `2 ^ -1074`, as magnitudes do, so that `4 * a`
is compared with the ends of an interval times `d` (`Covers`), and no fractions
are needed.
-/
import StreamMask.Binary64.Shortest
import StreamMask.Proofs.DigitFacts

namespace StreamMask.Binary64

/-! ## Fields -/

theorem word_lt (x : Binary64) : x.word < 2 ^ 64 := x.bits.toNat_lt

theorem fraction_lt (x : Binary64) : x.fraction < 2 ^ 52 := Nat.mod_lt _ (by decide)

theorem significand_lt (x : Binary64) : x.significand < 2 ^ 53 := by
  have := x.fraction_lt
  simp only [significand, twoTo_eq]
  split <;> omega

/-- Only the least unit has significands with fewer than fifty-three digits. -/
theorem significand_normal (x : Binary64) : x.unit = 0 ∨ 2 ^ 52 ≤ x.significand := by
  simp only [significand, unit, twoTo_eq]
  split <;> omega

theorem unit_le {x : Binary64} (h : x.isFinite = true) : x.unit ≤ 2045 := by
  have hlt : x.exponentField < 2048 := Nat.mod_lt _ (by decide)
  have hne : x.exponentField ≠ 2047 := by simpa [isFinite] using h
  simp only [unit]
  omega

/-- A number is put together again from its fields. -/
theorem assemble_fields (x : Binary64) : assemble x.negative x.significand x.unit = x := by
  have hword : (if x.negative = true then twoTo 63 else 0) +
      (if x.significand < twoTo 52 then x.significand
        else (x.unit + 1) * twoTo 52 + (x.significand - twoTo 52)) = x.word := by
    have := x.word_lt
    simp only [negative, significand, unit, exponentField, fraction, twoTo_eq, decide_eq_true_eq]
    by_cases h : x.word / 2 ^ 52 % 2048 = 0
    · simp only [h, ↓reduceIte]
      split <;> split <;> omega
    · simp only [h, ↓reduceIte]
      split <;> split <;> omega
  rw [assemble, hword, word, UInt64.ofNat_toNat]

/-! ## Whole numbers -/

/-- The nearest whole number is the one that is no further away than a half, and less far than
that if it is odd. -/
theorem nearest_eq {a d m : Nat} (hd : 0 < d) (low : 2 * m * d ≤ 2 * a + d)
    (high : 2 * a ≤ 2 * m * d + d)
    (odd : m % 2 = 1 → 2 * m * d < 2 * a + d ∧ 2 * a < 2 * m * d + d) : nearest a d = m := by
  have hsplit : d * (a / d) + a % d = a := Nat.div_add_mod a d
  have hrest : a % d < d := Nat.mod_lt a hd
  have hq : m + 1 ≤ a / d ∨ m = a / d ∨ m = a / d + 1 ∨ a / d + 2 ≤ m := by omega
  simp only [nearest]
  generalize a / d = q at *
  generalize a % d = r at *
  rw [Nat.mul_comm] at hsplit
  rw [Nat.mul_assoc] at low high
  rw [Nat.mul_assoc] at odd
  rcases hq with h | rfl | rfl | h
  · have := Nat.mul_le_mul_right d h
    rw [Nat.add_mul m 1 d] at this
    omega
  · split
    · rfl
    · split
      · omega
      · split
        · rfl
        · have := odd (by omega)
          omega
  · rw [Nat.add_mul q 1 d] at low high odd
    split
    · omega
    · split
      · rfl
      · split
        · have := odd (by omega)
          omega
        · rfl
  · have := Nat.mul_le_mul_right d h
    rw [Nat.add_mul q 2 d] at this
    omega

/-! ## Binades -/

theorem binade_eq {a d u : Nat} (hd : 0 < d) (low : u = 0 ∨ d * 2 ^ (u + 52) ≤ a)
    (high : a < d * 2 ^ (u + 53)) : binade a d = u := by
  have hd0 : d ≠ 0 := by omega
  have hlow : 2 ^ d.log2 ≤ d := Nat.log2_self_le hd0
  have hhigh : d < 2 ^ (d.log2 + 1) := Nat.lt_log2_self
  have ha : a.log2 < d.log2 + u + 54 := by
    by_cases h0 : a = 0
    · subst h0
      rw [Nat.log2_zero]
      omega
    · rw [Nat.log2_lt h0]
      calc a < d * 2 ^ (u + 53) := high
        _ ≤ 2 ^ (d.log2 + 1) * 2 ^ (u + 53) := Nat.mul_le_mul_right _ (Nat.le_of_lt hhigh)
        _ = 2 ^ (d.log2 + u + 54) := by rw [← Nat.pow_add]; congr 1; omega
  simp only [binade, twoTo_eq]
  rcases low with rfl | low
  · have hp : a.log2 - d.log2 - 52 = 0 ∨ a.log2 - d.log2 - 52 = 1 := by omega
    rcases hp with hp | hp <;> rw [hp]
    · split <;> rfl
    · rw [if_pos high]
  · have hle : d.log2 + u + 52 ≤ a.log2 := by
      have hpos := Nat.mul_pos hd (Nat.two_pow_pos (u + 52))
      rw [Nat.le_log2 (by omega)]
      calc 2 ^ (d.log2 + u + 52) = 2 ^ d.log2 * 2 ^ (u + 52) := by rw [← Nat.pow_add]; congr 1
        _ ≤ d * 2 ^ (u + 52) := Nat.mul_le_mul_right _ hlow
        _ ≤ a := low
    have hp : a.log2 - d.log2 - 52 = u ∨ a.log2 - d.log2 - 52 = u + 1 := by omega
    rcases hp with hp | hp <;> rw [hp]
    · rw [if_neg (by omega)]
    · rw [if_pos high]
      rfl

/-! ## Quotients -/

/-- Whether a quotient lies in the interval of a number. -/
def Covers (x : Binary64) (a d : Nat) : Prop :=
  if x.significand % 2 = 0 then
    x.interval.low * d ≤ 4 * a ∧ 4 * a ≤ x.interval.high * d
  else x.interval.low * d < 4 * a ∧ 4 * a < x.interval.high * d

/-- How far down the interval goes, in quarters of the unit. -/
def reach (x : Binary64) : Nat := if x.fraction = 0 ∧ 1 < x.exponentField then 1 else 2

theorem reach_cases (x : Binary64) : x.reach = 2 ∨ x.reach = 1 ∧ x.significand = 2 ^ 52 := by
  simp only [reach, significand, twoTo_eq]
  split
  · next h => rw [if_neg (by omega), h.1]; exact .inr ⟨rfl, rfl⟩
  · exact .inl rfl

/-- The interval reaches down less far only from powers of two, which are not the least. -/
theorem reach_normal (x : Binary64) (hm : x.significand = 2 ^ 52) (hu : 0 < x.unit) :
    x.reach = 1 := by
  simp only [reach, significand, unit, twoTo_eq] at *
  split at hm
  · omega
  · rw [if_pos (by omega)]

theorem low_mul (x : Binary64) (d : Nat) :
    x.interval.low * d = (4 * x.significand - x.reach) * (d * 2 ^ x.unit) := by
  simp only [interval, reach, twoTo_eq]
  rw [Nat.mul_assoc, Nat.mul_comm d]

theorem high_mul (x : Binary64) (d : Nat) :
    x.interval.high * d = (4 * x.significand + 2) * (d * 2 ^ x.unit) := by
  simp only [interval, twoTo_eq]
  rw [Nat.mul_assoc, Nat.mul_comm d]

theorem Covers.bounds {x : Binary64} {a d : Nat} (h : x.Covers a d) :
    (4 * x.significand - x.reach) * (d * 2 ^ x.unit) ≤ 4 * a ∧
      4 * a ≤ (4 * x.significand + 2) * (d * 2 ^ x.unit) := by
  simp only [Covers, low_mul, high_mul] at h
  split at h
  · exact h
  · omega

theorem Covers.bounds_odd {x : Binary64} {a d : Nat} (h : x.Covers a d)
    (odd : x.significand % 2 = 1) :
    (4 * x.significand - x.reach) * (d * 2 ^ x.unit) < 4 * a ∧
      4 * a < (4 * x.significand + 2) * (d * 2 ^ x.unit) := by
  rw [Covers, if_neg (by omega), low_mul, high_mul] at h
  exact h

theorem Covers.lt {x : Binary64} {a d : Nat} (hd : 0 < d) (h : x.Covers a d) :
    a < d * 2 ^ (x.unit + 53) := by
  have hunit : 0 < d * 2 ^ x.unit := Nat.mul_pos hd (Nat.two_pow_pos _)
  have hm := x.significand_lt
  have hle : (4 * x.significand + 2) * (d * 2 ^ x.unit) ≤ (2 ^ 55 - 2) * (d * 2 ^ x.unit) :=
    Nat.mul_le_mul_right _ (by omega)
  have := h.bounds.2
  rw [Nat.pow_add, ← Nat.mul_assoc]
  omega

/-- In its own binade a quotient that a number covers is nearest to its significand. -/
theorem Covers.nearest_same {x : Binary64} {a d : Nat} (hd : 0 < d) (h : x.Covers a d) :
    nearest a (d * 2 ^ x.unit) = x.significand := by
  have hunit : 0 < d * 2 ^ x.unit := Nat.mul_pos hd (Nat.two_pow_pos _)
  obtain ⟨low, high⟩ := h.bounds
  have odd := h.bounds_odd
  have hreach : x.reach ≤ 2 := by have := x.reach_cases; omega
  have hfar : x.reach * (d * 2 ^ x.unit) ≤ 2 * (d * 2 ^ x.unit) := Nat.mul_le_mul_right _ hreach
  rw [Nat.sub_mul, Nat.mul_assoc] at low odd
  rw [Nat.add_mul, Nat.mul_assoc] at high odd
  apply nearest_eq hunit <;> rw [Nat.mul_assoc] <;> omega

/-- A quotient below the binade of the number that covers it is nearest to the end of its own
binade, where the number's begins. -/
theorem Covers.nearest_below {x : Binary64} {a d v : Nat} (hd : 0 < d) (h : x.Covers a d)
    (hu : x.unit = v + 1) (hlt : a < d * 2 ^ (x.unit + 52)) :
    x.significand = 2 ^ 52 ∧ d * 2 ^ (v + 52) ≤ a ∧ a < d * 2 ^ (v + 53) ∧
      nearest a (d * 2 ^ v) = 2 ^ 53 := by
  have hunit : 0 < d * 2 ^ v := Nat.mul_pos hd (Nat.two_pow_pos _)
  obtain ⟨low, high⟩ := h.bounds
  have hm : x.significand = 2 ^ 52 := by
    have hnormal := x.significand_normal
    have hreach : x.reach ≤ 2 := by have := x.reach_cases; omega
    by_cases heq : x.significand = 2 ^ 52
    · exact heq
    have hle : (2 ^ 54 + 2) * (d * 2 ^ x.unit) ≤ (4 * x.significand - x.reach) * (d * 2 ^ x.unit) :=
      Nat.mul_le_mul_right _ (by omega)
    rw [Nat.pow_add, ← Nat.mul_assoc] at hlt
    omega
  have htwice : d * 2 ^ (v + 1) = d * 2 ^ v * 2 := by rw [Nat.pow_succ, Nat.mul_assoc]
  rw [x.reach_normal hm (by omega), hm, hu, htwice] at low
  rw [hu, show v + 1 + 52 = v + 53 by omega] at hlt
  refine ⟨hm, ?_, hlt, nearest_eq hunit ?_ ?_ (by omega)⟩
  · rw [Nat.pow_add, ← Nat.mul_assoc]
    omega
  · omega
  · rw [Nat.pow_add, ← Nat.mul_assoc] at hlt
    omega

/-- **Rounding finds the number in whose interval a quotient lies.** -/
theorem round_eq {x : Binary64} {a d : Nat} (hx : x.isFinite = true) (hd : 0 < d)
    (h : x.Covers a d) : round x.negative a d = x := by
  have hunit := unit_le hx
  by_cases hlow : x.unit = 0 ∨ d * 2 ^ (x.unit + 52) ≤ a
  · have hm := x.significand_lt
    simp only [round, twoTo_eq]
    rw [binade_eq hd hlow (h.lt hd), h.nearest_same hd,
      if_neg (show ¬x.significand = 2 ^ 53 by omega), if_neg (by omega), assemble_fields]
  · obtain ⟨v, hv⟩ : ∃ v, x.unit = v + 1 := ⟨x.unit - 1, by omega⟩
    obtain ⟨hm, hge, hlt, hnearest⟩ := h.nearest_below hd hv (by omega)
    simp only [round, twoTo_eq]
    rw [binade_eq hd (.inr hge) hlt, hnearest, if_pos rfl, if_neg (by omega), ← hm, ← hv,
      assemble_fields]

end StreamMask.Binary64
