/-
The shortest decimal of a number, proved to round back to it.

Some decimal is always found, since the grid of seventeen digits is finer than
the interval of any number, and what is found lies in the interval. Whether a
zero at the end is taken for a digit or counted by the scale makes no difference
to that.
-/
import StreamMask.Proofs.RoundingFacts

namespace StreamMask

namespace Binary64

/-! ## Decimals in the interval of a number -/

theorem covers_scale {x : Binary64} {a d k : Nat} (hk : 0 < k) :
    x.Covers (a * k) (d * k) ↔ x.Covers a d := by
  simp only [Covers, ← Nat.mul_assoc, Nat.mul_le_mul_right_iff hk, Nat.mul_lt_mul_right hk]

/-- Whether the decimal `c * 10 ^ s` lies in the interval of a number. -/
def CoversDecimal (x : Binary64) (c : Nat) (s : Int) : Prop :=
  x.Covers (c * 10 ^ s.toNat * 2 ^ 1074) (10 ^ (-s).toNat)

/-- A zero at the end is a digit or a step of the scale. -/
theorem coversDecimal_ten (x : Binary64) (c : Nat) (s : Int) :
    x.CoversDecimal (c * 10) s ↔ x.CoversDecimal c (s + 1) := by
  simp only [CoversDecimal]
  generalize 2 ^ 1074 = k
  by_cases hs : 0 ≤ s
  · rw [show (s + 1).toNat = s.toNat + 1 by omega, show (-(s + 1)).toNat = 0 by omega,
      show (-s).toNat = 0 by omega, Nat.pow_succ, Nat.mul_assoc c 10, Nat.mul_comm 10]
  · rw [show (s + 1).toNat = 0 by omega, show s.toNat = 0 by omega,
      show (-s).toNat = (-(s + 1)).toNat + 1 by omega, Nat.pow_succ, Nat.pow_zero, Nat.mul_one,
      Nat.mul_one, Nat.mul_right_comm c 10, covers_scale (by decide)]

theorem coversDecimal_tens (x : Binary64) (c : Nat) (s : Int) (count : Nat) :
    x.CoversDecimal (c * 10 ^ count) s ↔ x.CoversDecimal c (s + count) := by
  induction count generalizing s with
  | zero => simp
  | succ count ih =>
    rw [Nat.pow_succ, ← Nat.mul_assoc, coversDecimal_ten, ih]
    rw [show s + 1 + (count : Int) = s + ((count + 1 : Nat) : Int) by omega]

/-! ## Reading decimals -/

theorem low_pos {x : Binary64} (hx : 0 < x.significand) : 2 ≤ x.interval.low := by
  have hreach : x.reach ≤ 2 := by have := x.reach_cases; omega
  have hpow : 1 ≤ 2 ^ x.unit := Nat.two_pow_pos _
  have := x.low_mul 1
  rw [Nat.mul_one, Nat.one_mul] at this
  rw [this]
  exact Nat.mul_le_mul (show 2 ≤ 4 * x.significand - x.reach by omega) hpow

theorem CoversDecimal.le {x : Binary64} {c : Nat} {s : Int} (hx : 0 < x.significand)
    (h : x.CoversDecimal c s) : 10 ^ (-s).toNat ≤ c * 10 ^ s.toNat * (2 ^ 1074 * 2) := by
  have hlow := h.bounds.1
  rw [← low_mul] at hlow
  have := Nat.mul_le_mul_right (10 ^ (-s).toNat) (low_pos hx)
  generalize 2 ^ 1074 = k at *
  rw [← Nat.mul_assoc]
  omega

theorem lt_of_shifted {a d u n e : Nat} (hu : u ≤ n + e) (h : a * 2 ^ e < d * 2 ^ u) :
    a < d * 2 ^ n := by
  have hle : d * 2 ^ u ≤ d * 2 ^ (n + e) :=
    Nat.mul_le_mul_left _ (Nat.pow_le_pow_right (by decide) hu)
  rw [Nat.pow_add, ← Nat.mul_assoc] at hle
  exact Nat.lt_of_mul_lt_mul_right (Nat.lt_of_lt_of_le h hle)

theorem CoversDecimal.lt {x : Binary64} {c : Nat} {s : Int} (hx : x.isFinite = true)
    (h : x.CoversDecimal c s) : c * 10 ^ s.toNat < 10 ^ (-s).toNat * 2 ^ 1024 := by
  have hunit := unit_le hx
  have hlt := Covers.lt (Nat.pow_pos (by decide)) h
  exact lt_of_shifted (n := 1024) (e := 1074) (by omega) hlt

/-- The digits of a decimal that is not below `1 / k` reach up as far as those of `1 / k`. -/
theorem lt_scale_add_digitCount {c k n : Nat} {s : Int} (hk : k < 10 ^ n)
    (h : 10 ^ (-s).toNat ≤ c * 10 ^ s.toNat * k) : -(n : Int) < s + digitCount c := by
  by_cases hlt : -(n : Int) < s + digitCount c
  · exact hlt
  have hc := lt_ten_pow_digitCount c
  rw [show s.toNat = 0 by omega, Nat.pow_zero, Nat.mul_one] at h
  have hpow : 10 ^ digitCount c * 10 ^ n ≤ 10 ^ (-s).toNat := by
    rw [← Nat.pow_add]
    exact Nat.pow_le_pow_right (by decide) (by omega)
  have hmul : c * k ≤ 10 ^ digitCount c * k := Nat.mul_le_mul_right _ (by omega)
  have hten : 10 ^ digitCount c * k < 10 ^ digitCount c * 10 ^ n :=
    Nat.mul_lt_mul_of_pos_left hk (Nat.pow_pos (by decide))
  omega

/-- The digits of a decimal that is below `k` reach up no further than those of `k`. -/
theorem scale_add_digitCount_le {c k n : Nat} {s : Int} (hk : k ≤ 10 ^ n) (hc : 0 < c)
    (h : c * 10 ^ s.toNat < 10 ^ (-s).toNat * k) : s + digitCount c ≤ n := by
  by_cases hle : s + digitCount c ≤ (n : Int)
  · exact hle
  have hpos := digitCount_pos c
  have hten : 10 ^ (-s).toNat * k ≤ 10 ^ (-s).toNat * 10 ^ n := Nat.mul_le_mul_left _ hk
  have hpow : 10 ^ (-s).toNat * 10 ^ n ≤ 10 ^ (digitCount c - 1) * 10 ^ s.toNat := by
    rw [← Nat.pow_add, ← Nat.pow_add]
    exact Nat.pow_le_pow_right (by decide) (by omega)
  have hmul : 10 ^ (digitCount c - 1) * 10 ^ s.toNat ≤ c * 10 ^ s.toNat :=
    Nat.mul_le_mul_right _ (ten_pow_digitCount_le hc)
  omega

theorem CoversDecimal.pos {x : Binary64} {c : Nat} {s : Int} (hx : 0 < x.significand)
    (h : x.CoversDecimal c s) : 0 < c := by
  have hle := h.le hx
  have hpos : 0 < 10 ^ (-s).toNat := Nat.pow_pos (by decide)
  rcases Nat.eq_zero_or_pos c with rfl | hc
  · simp only [Nat.zero_mul] at hle
    omega
  · exact hc

/-- **A decimal in the interval of a number reads as that number.** -/
theorem ofDecimal_eq {x : Binary64} {c : Nat} {s : Int} (hfinite : x.isFinite = true)
    (hx : 0 < x.significand) (h : x.CoversDecimal c s) : ofDecimal x.negative c s = x := by
  have hc := h.pos hx
  have hlow := lt_scale_add_digitCount (n := 331) (by decide +kernel) (h.le hx)
  have hhigh := scale_add_digitCount_le (n := 310) (by decide +kernel) hc (h.lt hfinite)
  have hround := round_eq hfinite (Nat.pow_pos (by decide)) h
  rw [ofDecimal, if_neg (by omega), if_neg (by omega), twoTo_eq, tenTo_eq, tenTo_eq]
  generalize 2 ^ 1074 = k at *
  by_cases hs : 0 ≤ s
  · rw [if_pos hs]
    rwa [show (-s).toNat = 0 by omega, Nat.pow_zero] at hround
  · rw [if_neg hs]
    rwa [show s.toNat = 0 by omega, Nat.pow_zero, Nat.mul_one] at hround

/-! ## Scaled intervals -/

namespace Interval

variable (i : Interval) (power : Int)

theorem scale_value : (i.scale power).value = i.value * 10 ^ power.toNat := by
  by_cases h : 0 ≤ power
  · simp only [scale, if_pos h, tenTo_eq]
  · rw [scale, if_neg h, show power.toNat = 0 by omega, Nat.pow_zero, Nat.mul_one]

theorem scale_low : (i.scale power).low = i.low * 10 ^ power.toNat := by
  by_cases h : 0 ≤ power
  · simp only [scale, if_pos h, tenTo_eq]
  · rw [scale, if_neg h, show power.toNat = 0 by omega, Nat.pow_zero, Nat.mul_one]

theorem scale_high : (i.scale power).high = i.high * 10 ^ power.toNat := by
  by_cases h : 0 ≤ power
  · simp only [scale, if_pos h, tenTo_eq]
  · rw [scale, if_neg h, show power.toNat = 0 by omega, Nat.pow_zero, Nat.mul_one]

theorem scale_den : (i.scale power).den = i.den * 10 ^ (-power).toNat := by
  by_cases h : 0 ≤ power
  · rw [scale, if_pos h, show (-power).toNat = 0 by omega, Nat.pow_zero, Nat.mul_one]
  · simp only [scale, if_neg h, tenTo_eq]

theorem scale_closed : (i.scale power).closed = i.closed := by
  simp only [scale]
  split <;> rfl

/-- What `hit?` gives is in the interval. -/
theorem contains_of_hit {i : Interval} {tie : Tie} {n : Nat} (h : i.hit? tie = some n) :
    i.contains n = true := by
  simp only [hit?] at h
  split at h
  · contradiction
  · next h₁ _ => cases h; exact h₁
  · next _ h₂ => cases h; exact h₂
  · next h₁ h₂ =>
    have hn : n = i.value / i.den ∨ n = i.value / i.den + 1 := by
      split at h
      · cases h; exact .inl rfl
      · split at h
        · cases h; exact .inr rfl
        · split at h
          · cases h; exact .inr rfl
          · split at h
            · cases h; exact .inl rfl
            · cases h; exact .inr rfl
    rcases hn with rfl | rfl
    · exact h₁
    · exact h₂

/-- There is no hit only if neither neighbour of the value is in the interval. -/
theorem not_contains_of_hit {i : Interval} {tie : Tie} (h : i.hit? tie = none) :
    i.contains (i.value / i.den) = false ∧ i.contains (i.value / i.den + 1) = false := by
  simp only [hit?] at h
  split at h
  · next h₁ h₂ => exact ⟨h₁, h₂⟩
  · contradiction
  · contradiction
  · split at h
    · contradiction
    · split at h
      · contradiction
      · split at h
        · contradiction
        · split at h <;> contradiction

/-- Strictly between its ends, an interval contains every number. -/
theorem contains_of_between {i : Interval} {n : Nat} (low : i.low < n * i.den)
    (high : n * i.den < i.high) : i.contains n = true := by
  unfold contains
  split <;> rw [Bool.and_eq_true, decide_eq_true_eq, decide_eq_true_eq] <;> omega

/-- An interval that is wide enough for its grid contains a neighbour of its value. -/
theorem hit_of_wide {i : Interval} {tie : Tie} (hden : 0 < i.den) (low : i.low < i.value)
    (high : i.value < i.high) (wide : i.low + i.den < i.high) : (i.hit? tie).isSome = true := by
  have hsplit := Nat.div_add_mod i.value i.den
  have hrest := Nat.mod_lt i.value hden
  rw [Nat.mul_comm] at hsplit
  have hnext := Nat.add_mul (i.value / i.den) 1 i.den
  rw [Nat.one_mul] at hnext
  cases h : i.hit? tie with
  | some n => rfl
  | none =>
    obtain ⟨h₁, h₂⟩ := not_contains_of_hit h
    by_cases hlow : i.low < i.value / i.den * i.den
    · rw [contains_of_between hlow (by omega)] at h₁
      contradiction
    · rw [contains_of_between (by omega) (by omega)] at h₂
      contradiction

end Interval

theorem contains_iff (x : Binary64) (c : Nat) (s : Int) :
    (x.interval.scale (-s)).contains c = true ↔ x.CoversDecimal c s := by
  have hclosed : x.interval.closed = true ↔ x.significand % 2 = 0 := decide_eq_true_iff
  have hden : c * (x.interval.den * 10 ^ s.toNat) = 4 * (c * 10 ^ s.toNat * 2 ^ 1074) := by
    simp only [interval, twoTo_eq]
    generalize 2 ^ 1074 = k
    ac_rfl
  rw [CoversDecimal, Covers, Interval.contains, Interval.scale_low, Interval.scale_high,
    Interval.scale_den, Interval.scale_closed, Int.neg_neg, hden]
  by_cases h : x.significand % 2 = 0
  · rw [if_pos (hclosed.mpr h), if_pos h, Bool.and_eq_true, decide_eq_true_eq, decide_eq_true_eq]
  · rw [if_neg (mt hclosed.mp h), if_neg h, Bool.and_eq_true, decide_eq_true_eq, decide_eq_true_eq]

end Binary64

/-! ## Finding a decimal -/

namespace Decimal

/-- The decade of a quotient is not above it. -/
theorem decade_le {num den : Nat} (hnum : 0 < num) (hden : 0 < den) :
    den * 10 ^ (decade num den).toNat ≤ num * 10 ^ (-decade num den).toNat := by
  simp only [decade, tenTo_eq]
  split
  · next hle =>
    have hpos := Binary64.digitCount_pos (num / den)
    have hpow := Binary64.ten_pow_digitCount_le (Nat.div_pos hle hden)
    rw [show ((Binary64.digitCount (num / den) : Int) - 1).toNat
        = Binary64.digitCount (num / den) - 1 by omega,
      show (-((Binary64.digitCount (num / den) : Int) - 1)).toNat = 0 by omega, Nat.pow_zero,
      Nat.mul_one]
    calc den * 10 ^ (Binary64.digitCount (num / den) - 1) ≤ den * (num / den) :=
          Nat.mul_le_mul_left _ hpow
      _ ≤ num := Nat.mul_div_le num den
  · next hlt =>
    have hpos := Binary64.digitCount_pos (den / num)
    have hpow := Binary64.lt_ten_pow_digitCount (den / num)
    generalize Binary64.digitCount (den / num) = k at *
    split
    · next heq =>
      rw [show (-((k : Int) - 1)).toNat = 0 by omega, show (-(-((k : Int) - 1))).toNat = k - 1 by omega,
        Nat.pow_zero, Nat.mul_one]
      omega
    · rw [show (-(k : Int)).toNat = 0 by omega, show (-(-(k : Int))).toNat = k by omega, Nat.pow_zero,
        Nat.mul_one]
      rw [Nat.div_lt_iff_lt_mul hnum, Nat.mul_comm] at hpow
      omega

end Decimal

namespace Binary64

/-- On the grid of seventeen digits a step is no more than the value over `10 ^ 16`. -/
theorem step_le {i : Interval} (hvalue : 0 < i.value) (hden : 0 < i.den) :
    (i.scale (16 - Decimal.decade i.value i.den)).den * 10 ^ 16 ≤
      (i.scale (16 - Decimal.decade i.value i.den)).value := by
  have hle := Decimal.decade_le hvalue hden
  rw [Interval.scale_den, Interval.scale_value]
  generalize Decimal.decade i.value i.den = top at *
  have hexp : (-(16 - top)).toNat + 16 + (-top).toNat = top.toNat + (16 - top).toNat := by omega
  apply Nat.le_of_mul_le_mul_right (c := 10 ^ (-top).toNat) _ (Nat.pow_pos (by decide))
  calc i.den * 10 ^ (-(16 - top)).toNat * 10 ^ 16 * 10 ^ (-top).toNat
      = i.den * 10 ^ ((-(16 - top)).toNat + 16 + (-top).toNat) := by
        rw [Nat.pow_add, Nat.pow_add]
        ac_rfl
    _ = i.den * 10 ^ top.toNat * 10 ^ (16 - top).toNat := by rw [hexp, Nat.pow_add, Nat.mul_assoc]
    _ ≤ i.value * 10 ^ (-top).toNat * 10 ^ (16 - top).toNat := Nat.mul_le_mul_right _ hle
    _ = i.value * 10 ^ (16 - top).toNat * 10 ^ (-top).toNat := Nat.mul_right_comm _ _ _

theorem interval_den_pos (x : Binary64) : 0 < x.interval.den := by
  simp only [interval]
  generalize 1074 = n
  exact Nat.mul_pos (by decide) (Nat.two_pow_pos n)

theorem interval_value_pos {x : Binary64} (hx : 0 < x.significand) : 0 < x.interval.value :=
  Nat.mul_pos (by omega) (Nat.two_pow_pos _)

/-- **Seventeen digits suffice.** -/
theorem hit_seventeen {x : Binary64} (hx : 0 < x.significand) (tie : Tie) :
    ((x.interval.scale (16 - Decimal.decade x.interval.value x.interval.den)).hit? tie).isSome
      = true := by
  have hstep := step_le (interval_value_pos hx) x.interval_den_pos
  generalize 16 - Decimal.decade x.interval.value x.interval.den = power at *
  have hden : 0 < (x.interval.scale power).den := by
    rw [Interval.scale_den]
    exact Nat.mul_pos x.interval_den_pos (Nat.pow_pos (by decide))
  have hlow := (x.interval.scale_low power).trans (x.low_mul _)
  have hhigh := (x.interval.scale_high power).trans (x.high_mul _)
  have hvalue : (x.interval.scale power).value =
      4 * x.significand * (10 ^ power.toNat * 2 ^ x.unit) := by
    rw [Interval.scale_value, Nat.mul_comm (10 ^ power.toNat), ← Nat.mul_assoc]
    rfl
  have hquarter : 0 < 10 ^ power.toNat * 2 ^ x.unit :=
    Nat.mul_pos (Nat.pow_pos (by decide)) (Nat.two_pow_pos _)
  generalize 10 ^ power.toNat * 2 ^ x.unit = w at *
  have hm := x.significand_lt
  have hle : 4 * x.significand * w ≤ 4 * 2 ^ 53 * w := Nat.mul_le_mul_right _ (by omega)
  have hdown : x.reach * w ≤ 4 * x.significand * w := by
    have := x.reach_cases
    exact Nat.mul_le_mul_right _ (by omega)
  rw [Nat.sub_mul] at hlow
  rw [Nat.add_mul] at hhigh
  rcases x.reach_cases with hreach | ⟨hreach, htwo⟩
  · rw [hreach] at hlow hdown
    apply Interval.hit_of_wide hden <;> omega
  · rw [hreach, htwo] at hlow
    rw [htwo] at hvalue hhigh
    apply Interval.hit_of_wide hden <;> omega

/-! ## The shortest decimal -/

theorem coversDecimal_strip {x : Binary64} (d : Decimal) (h : x.CoversDecimal d.coefficient d.scale) :
    x.CoversDecimal d.strip.coefficient d.strip.scale := by
  induction d using Decimal.strip.induct with
  | case1 d hd ih =>
    rw [Decimal.strip, dif_pos hd]
    apply ih
    rw [← coversDecimal_ten]
    rwa [show d.coefficient / 10 * 10 = d.coefficient by omega]
  | case2 d hd =>
    rwa [Decimal.strip, dif_neg hd]

/-- What is left of a number without the zeros at its end does not end in zero. -/
theorem strip_ends (d : Decimal) (h : 0 < d.coefficient) : d.strip.coefficient % 10 ≠ 0 := by
  induction d using Decimal.strip.induct with
  | case1 d hd ih =>
    rw [Decimal.strip, dif_pos hd]
    exact ih (show 0 < d.coefficient / 10 by omega)
  | case2 d hd =>
    rw [Decimal.strip, dif_neg hd]
    exact fun hzero => hd ⟨h, hzero⟩

theorem shortestFrom_hit {i : Interval} {tie : Tie} {top : Int} {count n : Nat}
    (h : (i.scale (-(top + 1 - count))).hit? tie = some n) :
    shortestFrom i tie top count = Decimal.strip ⟨n, top + 1 - count⟩ := by
  rw [shortestFrom]
  simp only [h]

theorem shortestFrom_miss {i : Interval} {tie : Tie} {top : Int} {count : Nat}
    (h : (i.scale (-(top + 1 - count))).hit? tie = none) (hcount : count < 17) :
    shortestFrom i tie top count = shortestFrom i tie top (count + 1) := by
  rw [shortestFrom]
  simp only [h, if_pos hcount]

/-- The shortest decimal is one in the interval, without the zeros at its end. -/
theorem shortestFrom_eq_strip {x : Binary64} (hx : 0 < x.significand) (tie : Tie) {count : Nat}
    (hcount : count ≤ 17) :
    ∃ d : Decimal, x.CoversDecimal d.coefficient d.scale ∧
      shortestFrom x.interval tie (Decimal.decade x.interval.value x.interval.den) count = d.strip := by
  have hlast := hit_seventeen hx tie
  generalize Decimal.decade x.interval.value x.interval.den = top at *
  -- On the coarser grids either there is a hit, or the next grid has the decimal.
  induction hleft : 17 - count generalizing count with
  | zero =>
    obtain ⟨n, hn⟩ := Option.isSome_iff_exists.mp hlast
    rw [show 16 - top = -(top + 1 - count) by omega] at hn
    exact ⟨⟨n, _⟩, (contains_iff x n _).mp (Interval.contains_of_hit hn), shortestFrom_hit hn⟩
  | succ left ih =>
    cases hn : (x.interval.scale (-(top + 1 - count))).hit? tie with
    | some n =>
      exact ⟨⟨n, _⟩, (contains_iff x n _).mp (Interval.contains_of_hit hn), shortestFrom_hit hn⟩
    | none =>
      rw [shortestFrom_miss hn (by omega)]
      exact ih (by omega) (by omega)

/-- **The shortest decimal of a number reads as that number.** -/
theorem shortest_covers {x : Binary64} (hx : 0 < x.significand) (tie : Tie) :
    x.CoversDecimal (x.shortest tie).coefficient (x.shortest tie).scale := by
  obtain ⟨d, hcovers, hd⟩ := shortestFrom_eq_strip hx tie (show 1 ≤ 17 by decide)
  rw [shortest, hd]
  exact coversDecimal_strip d hcovers

/-- The shortest decimal of a number does not end in zero. -/
theorem shortest_ends {x : Binary64} (hx : 0 < x.significand) (tie : Tie) :
    (x.shortest tie).coefficient % 10 ≠ 0 := by
  obtain ⟨d, hcovers, hd⟩ := shortestFrom_eq_strip hx tie (show 1 ≤ 17 by decide)
  rw [shortest, hd]
  exact strip_ends d (hcovers.pos hx)

end Binary64
end StreamMask
