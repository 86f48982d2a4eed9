/-
The shortest decimal of a binary number reads back: it lies in the interval of
the decimals that are nearer to this number than to any other, and no two
numbers share a decimal of theirs.

`contains_shortest`: the search for a grid with a point in the interval ends,
as the interval is wider than the grid of seventeen digits is fine.
`Binary.eq_of_contains`: the intervals of two numbers meet at most in an end,
and one of the two numbers then has an odd significand.
-/
import Mathlib.Algebra.Order.Field.Power
import Mathlib.Algebra.Order.Field.Rat
import Mathlib.Tactic.Linarith
import Mathlib.Tactic.NormNum
import Mathlib.Tactic.Positivity
import Mathlib.Tactic.Ring
import ContractDocs.Decimal.Layout

namespace ContractDocs.Decimal

/-! ## Values -/

/-- The value of a fraction. -/
def Ratio.value (r : Ratio) : ℚ := r.num / r.den

/-- The value of a decimal. -/
def Scientific.value (s : Scientific) : ℚ := s.digits * 10 ^ s.exponent

theorem zpow_eq_div (a : ℚ) (e : Int) : a ^ e = a ^ e.toNat / a ^ (-e).toNat := by
  obtain ⟨n, rfl | rfl⟩ := e.eq_nat_or_neg <;> simp

theorem Ratio.value_ofPowerOfTwo (n : Nat) (e : Int) :
    (ofPowerOfTwo n e).value = n * 2 ^ e := by
  rw [zpow_eq_div, value, ofPowerOfTwo]
  push_cast [Nat.pow_eq]
  ring

theorem Ratio.den_ofPowerOfTwo_pos (n : Nat) (e : Int) : 0 < (ofPowerOfTwo n e).den := by
  show 0 < 2 ^ (-e).toNat
  positivity

theorem Ratio.value_scaleDown (r : Ratio) (k : Int) : (r.scaleDown k).value = r.value / 10 ^ k := by
  rw [zpow_eq_div, value, value, scaleDown]
  push_cast [Nat.pow_eq]
  rw [div_div_div_eq]

theorem Ratio.den_scaleDown_pos {r : Ratio} (hr : 0 < r.den) (k : Int) :
    0 < (r.scaleDown k).den := by
  show 0 < r.den * 10 ^ k.toNat
  positivity

theorem Ratio.num_le_iff {r : Ratio} (hr : 0 < r.den) (n : Nat) :
    r.num ≤ n * r.den ↔ r.value ≤ n := by
  rw [value, div_le_iff₀ (by exact_mod_cast hr)]
  exact_mod_cast Iff.rfl

theorem Ratio.le_num_iff {r : Ratio} (hr : 0 < r.den) (n : Nat) :
    n * r.den ≤ r.num ↔ n ≤ r.value := by
  rw [value, le_div_iff₀ (by exact_mod_cast hr)]
  exact_mod_cast Iff.rfl

/-! ## The grid of a power of ten -/

namespace Interval

variable {i : Interval} {tie : Tie} {k : Int}

/-- The decimals in an interval, its ends if they belong to it. -/
def Contains (i : Interval) (x : ℚ) : Prop :=
  if i.closed then (i.low : ℚ) / i.den ≤ x ∧ x ≤ i.high / i.den
  else (i.low : ℚ) / i.den < x ∧ x < i.high / i.den

theorem scale_le_iff (hd : 0 < i.den) (n m : Nat) :
    (Ratio.scaleDown ⟨n, i.den⟩ k).num ≤ m * (Ratio.scaleDown ⟨0, i.den⟩ k).den ↔
      (n : ℚ) / i.den ≤ m * 10 ^ k := by
  have ten : (0 : ℚ) < 10 ^ k := by positivity
  refine (Ratio.num_le_iff (Ratio.den_scaleDown_pos (r := ⟨n, i.den⟩) hd k) m).trans ?_
  rw [Ratio.value_scaleDown, div_le_iff₀ ten, Ratio.value]

theorem le_scale_iff (hd : 0 < i.den) (n m : Nat) :
    m * (Ratio.scaleDown ⟨0, i.den⟩ k).den ≤ (Ratio.scaleDown ⟨n, i.den⟩ k).num ↔
      m * 10 ^ k ≤ (n : ℚ) / i.den := by
  have ten : (0 : ℚ) < 10 ^ k := by positivity
  refine (Ratio.le_num_iff (Ratio.den_scaleDown_pos (r := ⟨n, i.den⟩) hd k) m).trans ?_
  rw [Ratio.value_scaleDown, le_div_iff₀ ten, Ratio.value]

/-- A point of the grid lies in the interval when its numerator lies between those of the ends. -/
theorem contains_iff (hd : 0 < i.den) (n : Nat) :
    (if i.closed then
      decide ((Ratio.scaleDown ⟨i.low, i.den⟩ k).num ≤ n * (Ratio.scaleDown ⟨0, i.den⟩ k).den) &&
        decide (n * (Ratio.scaleDown ⟨0, i.den⟩ k).den ≤ (Ratio.scaleDown ⟨i.high, i.den⟩ k).num)
    else
      decide ((Ratio.scaleDown ⟨i.low, i.den⟩ k).num < n * (Ratio.scaleDown ⟨0, i.den⟩ k).den) &&
        decide (n * (Ratio.scaleDown ⟨0, i.den⟩ k).den < (Ratio.scaleDown ⟨i.high, i.den⟩ k).num)) =
      true ↔ i.Contains (n * 10 ^ k) := by
  rw [Contains]
  split <;>
    simp only [Bool.and_eq_true, decide_eq_true_eq, ← not_le, scale_le_iff hd, le_scale_iff hd]

/-- What is found lies on the grid and in the interval, and is not zero. -/
theorem contains_of_nearest? (hd : 0 < i.den) {s : Scientific} (h : i.nearest? tie k = some s) :
    0 < s.digits ∧ i.Contains s.value := by
  simp only [nearest?] at h
  split at h
  · next below above =>
    rw [Bool.and_eq_true, decide_eq_true_eq] at below
    cases h
    split
    · exact ⟨Nat.succ_pos _, (contains_iff hd _).1 above⟩
    · exact ⟨below.1, (contains_iff hd _).1 below.2⟩
  · next below _ =>
    rw [Bool.and_eq_true, decide_eq_true_eq] at below
    cases h
    exact ⟨below.1, (contains_iff hd _).1 below.2⟩
  · next above =>
    cases h
    exact ⟨Nat.succ_pos _, (contains_iff hd _).1 above⟩
  · cases h

/-- A decimal that is not in the interval is beyond the end on its side of the value. -/
theorem beyond_of_not_contains {x v : ℚ} (low : (i.low : ℚ) / i.den < v)
    (high : v < i.high / i.den) (h : ¬ i.Contains x) :
    (x ≤ v → x ≤ i.low / i.den) ∧ (v ≤ x → (i.high : ℚ) / i.den ≤ x) := by
  rw [Contains] at h
  split at h
  · exact ⟨fun hx => le_of_not_gt fun lt => h ⟨lt.le, hx.trans high.le⟩,
      fun hx => le_of_not_gt fun lt => h ⟨low.le.trans hx, lt.le⟩⟩
  · exact ⟨fun hx => le_of_not_gt fun lt => h ⟨lt, hx.trans_lt high⟩,
      fun hx => le_of_not_gt fun lt => h ⟨low.trans_le hx, lt⟩⟩

/-- A grid that is finer than the interval is wide has a point in it. -/
theorem isSome_nearest? (hd : 0 < i.den) (low : (i.low : ℚ) / i.den < i.value / i.den)
    (high : (i.value : ℚ) / i.den < i.high / i.den) (one : (10 : ℚ) ^ k ≤ i.value / i.den)
    (fine : (10 : ℚ) ^ k < i.high / i.den - i.low / i.den) : (i.nearest? tie k).isSome = true := by
  have den := Ratio.den_scaleDown_pos (r := ⟨0, i.den⟩) hd k
  obtain ⟨n, hn⟩ : ∃ n, n = (Ratio.scaleDown ⟨i.value, i.den⟩ k).num /
      (Ratio.scaleDown ⟨0, i.den⟩ k).den := ⟨_, rfl⟩
  have positive : 0 < n := by
    rw [hn, Nat.div_pos_iff]
    refine ⟨den, ?_⟩
    simpa using (le_scale_iff (k := k) hd i.value 1).2 (by simpa using one)
  have below : (n : ℚ) * 10 ^ k ≤ i.value / i.den :=
    (le_scale_iff hd i.value n).1 (hn ▸ Nat.div_mul_le_self _ _)
  have above : (i.value : ℚ) / i.den ≤ (n + 1 : Nat) * 10 ^ k :=
    (scale_le_iff hd i.value (n + 1)).1
      (by rw [hn, Nat.mul_comm]; exact (Nat.lt_mul_div_succ _ den).le)
  cases h : i.nearest? tie k with
  | some s => rfl
  | none =>
    exfalso
    simp only [nearest?, ← hn] at h
    split at h
    · cases h
    · cases h
    · cases h
    · next outside outside' =>
      have beyond := (beyond_of_not_contains low high fun c => by
        simp [positive, (contains_iff hd n).2 c] at outside).1 below
      have beyond' := (beyond_of_not_contains low high fun c => by
        rw [(contains_iff hd (n + 1)).2 c] at outside'
        cases outside').2 above
      push_cast at beyond'
      linarith

end Interval

/-! ## The interval of a binary number -/

namespace Binary

variable {b c : Binary}

/-- A number of the binary format: at most fifty-three bits, and all of them in use unless the
exponent is the least. -/
structure InFormat (b : Binary) : Prop where
  significand_lt : b.significand < 2 ^ 53
  exponent_ge : -1074 ≤ b.exponent
  full : b.exponent ≠ -1074 → 2 ^ 52 ≤ b.significand
  closeBelow_iff : b.closeBelow = true ↔ b.significand = 2 ^ 52 ∧ b.exponent ≠ -1074

/-- There is one zero. -/
theorem InFormat.eq_of_significand (hb : b.InFormat) (hc : c.InFormat) (zero : b.significand = 0)
    (zero' : c.significand = 0) : b = c := by
  have least : b.exponent = -1074 := by
    by_contra h
    have := hb.full h
    omega
  have least' : c.exponent = -1074 := by
    by_contra h
    have := hc.full h
    omega
  obtain ⟨m, e, close⟩ := b
  obtain ⟨m', e', close'⟩ := c
  subst zero zero' least least'
  have := Bool.eq_iff_iff.2 (hb.closeBelow_iff.trans hc.closeBelow_iff.symm)
  simpa using this

/-- How many quarters of the last place the lower end is away. -/
def quartersBelow (b : Binary) : Nat := if b.closeBelow then 1 else 2

theorem quartersBelow_mem (b : Binary) : 1 ≤ b.quartersBelow ∧ b.quartersBelow ≤ 2 := by
  rw [quartersBelow]
  split <;> decide

/-- The midpoint to the neighbour below. -/
def low (b : Binary) : ℚ := (4 * b.significand - b.quartersBelow) * 2 ^ (b.exponent - 2)

/-- The midpoint to the neighbour above. -/
def high (b : Binary) : ℚ := (4 * b.significand + 2) * 2 ^ (b.exponent - 2)

theorem quarters_div (b : Binary) (n : Nat) :
    ((Ratio.ofPowerOfTwo n (b.exponent - 2)).num : ℚ) / b.interval.den =
      n * 2 ^ (b.exponent - 2) :=
  Ratio.value_ofPowerOfTwo n (b.exponent - 2)

theorem den_interval_pos (b : Binary) : 0 < b.interval.den := Ratio.den_ofPowerOfTwo_pos 1 _

theorem low_interval (positive : 0 < b.significand) :
    (b.interval.low : ℚ) / b.interval.den = b.low := by
  have subtracted : (if b.closeBelow then 4 * b.significand - 1 else 4 * b.significand - 2) =
      4 * b.significand - b.quartersBelow := by
    rw [quartersBelow]
    split <;> rfl
  have := b.quartersBelow_mem
  refine (quarters_div b _).trans ?_
  rw [subtracted, low, Nat.cast_sub (by omega)]
  push_cast
  rfl

theorem high_interval (b : Binary) : (b.interval.high : ℚ) / b.interval.den = b.high := by
  refine (quarters_div b _).trans ?_
  rw [high]
  push_cast
  rfl

theorem value_interval (b : Binary) :
    (b.interval.value : ℚ) / b.interval.den = b.significand * 2 ^ b.exponent := by
  refine (quarters_div b _).trans ?_
  rw [zpow_sub₀ (by norm_num)]
  push_cast
  ring

theorem contains_interval_iff (positive : 0 < b.significand) {x : ℚ} :
    b.interval.Contains x ↔ if b.significand % 2 = 0 then b.low ≤ x ∧ x ≤ b.high
      else b.low < x ∧ x < b.high := by
  have closed : b.interval.closed = decide (b.significand % 2 = 0) := rfl
  rw [Interval.Contains, low_interval positive, high_interval, closed]
  simp only [decide_eq_true_eq]

/-- A decimal in the interval lies between the ends, and on one of them only if the significand is
even. -/
theorem bounds_of_contains (positive : 0 < b.significand) {x : ℚ} (h : b.interval.Contains x) :
    b.low ≤ x ∧ x ≤ b.high ∧ (x = b.low ∨ x = b.high → b.significand % 2 = 0) := by
  rw [contains_interval_iff positive] at h
  split at h
  · next even => exact ⟨h.1, h.2, fun _ => even⟩
  · exact ⟨h.1.le, h.2.le, fun ends => absurd ends (not_or.2 ⟨h.1.ne', h.2.ne⟩)⟩

/-! ## No two numbers share a decimal -/

/-- The order of the numbers of the format. -/
def Below (b c : Binary) : Prop :=
  b.exponent < c.exponent ∨ b.exponent = c.exponent ∧ b.significand < c.significand

theorem high_le_low (hb : b.InFormat) (hc : c.InFormat) (h : b.Below c) :
    b.high ≤ c.low ∧ (b.high = c.low → b.significand % 2 = 1 ∨ c.significand % 2 = 1) := by
  have two := c.quartersBelow_mem.2
  have place : (0 : ℚ) < 2 ^ (b.exponent - 2) := by positivity
  rcases h with h | ⟨same, h⟩
  · -- The significand above is full, the one below has no more than fifty-three bits.
    have inner : c.exponent ≠ -1074 := by
      have := hb.exponent_ge
      omega
    have full : 2 ^ 54 + c.quartersBelow ≤ 4 * c.significand + 1 := by
      have := hc.full inner
      by_cases least : c.significand = 2 ^ 52
      · simp [quartersBelow, hc.closeBelow_iff.2 ⟨least, inner⟩, least]
      · omega
    have upper : (2 ^ 54 - 1 : ℚ) ≤ 4 * c.significand - c.quartersBelow := by
      have : (2 ^ 54 + c.quartersBelow : ℚ) ≤ 4 * c.significand + 1 := by exact_mod_cast full
      linarith
    have lower : (4 * b.significand + 2 : ℚ) ≤ 2 ^ 55 - 2 := by
      have := hb.significand_lt
      have : (4 * b.significand + 4 : ℚ) ≤ 2 ^ 55 := by
        exact_mod_cast (by omega : 4 * b.significand + 4 ≤ 2 ^ 55)
      linarith
    have step : 2 * (2 : ℚ) ^ (b.exponent - 2) ≤ 2 ^ (c.exponent - 2) := by
      rw [← zpow_one_add₀ (by norm_num)]
      exact zpow_le_zpow_right₀ (by norm_num) (by omega)
    have first : b.high ≤ (2 ^ 55 - 2) * 2 ^ (b.exponent - 2) :=
      mul_le_mul_of_nonneg_right lower place.le
    have second : (2 ^ 55 - 2) * 2 ^ (b.exponent - 2) ≤ c.low :=
      calc (2 ^ 55 - 2) * (2 : ℚ) ^ (b.exponent - 2)
          = (2 ^ 54 - 1) * (2 * 2 ^ (b.exponent - 2)) := by ring
        _ ≤ c.low := mul_le_mul upper step (by positivity) (by linarith)
    refine ⟨first.trans second, fun meet => .inl ?_⟩
    have equal : (4 * b.significand + 2 : ℚ) = 2 ^ 55 - 2 :=
      mul_right_cancel₀ place.ne' (le_antisymm first (second.trans_eq meet.symm))
    have : 4 * b.significand + 4 = 2 ^ 55 := by
      have : (4 * b.significand + 4 : ℚ) = 2 ^ 55 := by linarith
      exact_mod_cast this
    omega
  · have apart : (4 * b.significand + 2 : ℚ) ≤ 4 * c.significand - c.quartersBelow := by
      have : (4 * b.significand + 2 + c.quartersBelow : ℚ) ≤ 4 * c.significand := by
        exact_mod_cast (by omega :
          4 * b.significand + 2 + c.quartersBelow ≤ 4 * c.significand)
      linarith
    rw [high, low, ← same]
    refine ⟨mul_le_mul_of_nonneg_right apart place.le, fun meet => ?_⟩
    have equal : (4 * b.significand + 2 : ℚ) = 4 * c.significand - c.quartersBelow :=
      mul_right_cancel₀ place.ne' meet
    have : 4 * b.significand + 2 + c.quartersBelow = 4 * c.significand := by
      have : (4 * b.significand + 2 + c.quartersBelow : ℚ) = 4 * c.significand := by linarith
      exact_mod_cast this
    omega

theorem not_below_of_contains (hb : b.InFormat) (hc : c.InFormat) (positive : 0 < b.significand)
    (positive' : 0 < c.significand) {x : ℚ} (h : b.interval.Contains x)
    (h' : c.interval.Contains x) : ¬ b.Below c := by
  intro below
  obtain ⟨-, high, even⟩ := bounds_of_contains positive h
  obtain ⟨low, -, even'⟩ := bounds_of_contains positive' h'
  obtain ⟨le, odd⟩ := high_le_low hb hc below
  -- The decimal is the end that the intervals share, so both significands are even.
  have meet : b.high = c.low := le_antisymm le (low.trans high)
  have := even (.inr (le_antisymm high (meet.trans_le low)))
  have := even' (.inl (le_antisymm (high.trans_eq meet) low))
  rcases odd meet with odd | odd <;> omega

/-- **A decimal belongs to one number only.** -/
theorem eq_of_contains (hb : b.InFormat) (hc : c.InFormat) (positive : 0 < b.significand)
    (positive' : 0 < c.significand) {x : ℚ} (h : b.interval.Contains x)
    (h' : c.interval.Contains x) : b = c := by
  have above := not_below_of_contains hb hc positive positive' h h'
  have below := not_below_of_contains hc hb positive' positive h' h
  obtain ⟨m, e, close⟩ := b
  obtain ⟨m', e', close'⟩ := c
  simp only [Below] at above below
  obtain rfl : e = e' := by omega
  obtain rfl : m = m' := by omega
  have := Bool.eq_iff_iff.2 (hb.closeBelow_iff.trans hc.closeBelow_iff.symm)
  simpa using this

/-! ## The search finds a decimal -/

theorem pow_digitCount_le {n : Nat} (hn : 0 < n) : 10 ^ (digitCount n - 1) ≤ n := by
  rw [digitCount, if_neg hn.ne']
  by_cases one : (Nat.toDigits 10 n).length - 1 = 0
  · rw [one]
    exact hn
  · refine le_of_not_gt fun lt => ?_
    have := (Nat.length_toDigits_le_iff (by norm_num) (Nat.pos_of_ne_zero one)).2 lt
    omega

theorem lt_pow_digitCount {n : Nat} (hn : 0 < n) : n < 10 ^ digitCount n := by
  rw [digitCount, if_neg hn.ne']
  exact (Nat.length_toDigits_le_iff (by norm_num) Nat.length_toDigits_pos).1 le_rfl

/-- The magnitude is not too great. -/
theorem pow_magnitude_le {num den : Nat} (hn : 0 < num) (hd : 0 < den) :
    (10 : ℚ) ^ (magnitude num den - 1) ≤ num / den := by
  have hd' : (0 : ℚ) < den := by exact_mod_cast hd
  rw [magnitude, le_div_iff₀ hd']
  split
  · next h =>
    have positive : 0 < num / den := Nat.div_pos h hd
    have digits : 1 ≤ digitCount (num / den) := by
      rw [digitCount, if_neg positive.ne']
      exact Nat.length_toDigits_pos
    have least := Nat.mul_le_of_le_div _ _ _ (pow_digitCount_le positive)
    rw [← Nat.cast_one, ← Nat.cast_sub digits, zpow_natCast]
    exact_mod_cast least
  · next h =>
    obtain ⟨c, hc⟩ : ∃ c, c = (den + num - 1) / num := ⟨_, rfl⟩
    have two : 2 ≤ c := by
      rw [hc, Nat.le_div_iff_mul_le hn]
      omega
    have least : den ≤ num * c := by
      have := Nat.lt_mul_div_succ (den + num - 1) hn
      rw [← hc, Nat.mul_add] at this
      omega
    have power : c ≤ 10 ^ digitCount (c - 1) := by
      have := lt_pow_digitCount (n := c - 1) (by omega)
      omega
    have exponent : (1 - (digitCount (c - 1) : Int) - 1) = -(digitCount (c - 1) : Int) := by omega
    rw [← hc, exponent, zpow_neg, zpow_natCast, inv_mul_le_iff₀ (by positivity)]
    exact_mod_cast least.trans (by rw [Nat.mul_comm]; exact Nat.mul_le_mul_right _ power)

/-- Seventeen digits are finer than the interval is wide. -/
theorem exists_nearest? {b : Binary} (hb : b.InFormat) (positive : 0 < b.significand) (tie : Tie) :
    (b.interval.nearest? tie (magnitude b.interval.value b.interval.den - 17)).isSome = true := by
  have place : (0 : ℚ) < 2 ^ (b.exponent - 2) := by positivity
  have quarters : b.significand * (2 : ℚ) ^ b.exponent =
      4 * b.significand * 2 ^ (b.exponent - 2) := by
    rw [zpow_sub₀ (by norm_num)]
    ring
  have few : (4 * b.significand : ℚ) < (2 + b.quartersBelow) * 10 ^ 16 := by
    have := hb.significand_lt
    have : 4 * b.significand < (2 + b.quartersBelow) * 10 ^ 16 := by
      rw [quartersBelow]
      split
      · next close =>
        have := (hb.closeBelow_iff.1 close).1
        omega
      · omega
    exact_mod_cast this
  have value_pos : 0 < b.interval.value := by
    have : (0 : ℚ) < b.interval.value / b.interval.den := by
      rw [value_interval]
      positivity
    exact_mod_cast (div_pos_iff_of_pos_right (by exact_mod_cast b.den_interval_pos)).1 this
  have top := pow_magnitude_le value_pos b.den_interval_pos
  have coarse : (10 : ℚ) ^ (magnitude b.interval.value b.interval.den - 17) * 10 ^ 16 ≤
      4 * b.significand * 2 ^ (b.exponent - 2) := by
    rw [← quarters, ← value_interval, ← zpow_natCast, ← zpow_add₀ (by norm_num)]
    convert top using 2
    push_cast
    ring
  apply Interval.isSome_nearest? b.den_interval_pos
  · have : (1 : ℚ) ≤ b.quartersBelow := by exact_mod_cast b.quartersBelow_mem.1
    rw [low_interval positive, value_interval, quarters, low]
    exact mul_lt_mul_of_pos_right (by linarith) place
  · rw [high_interval, value_interval, quarters, high]
    exact mul_lt_mul_of_pos_right (by linarith) place
  · rw [value_interval, quarters]
    refine le_trans (le_mul_of_one_le_right (by positivity) (by norm_num)) coarse
  · rw [high_interval, low_interval positive, high, low]
    refine lt_of_mul_lt_mul_right (a := (10 : ℚ) ^ 16) (coarse.trans_lt ?_) (by positivity)
    calc 4 * (b.significand : ℚ) * 2 ^ (b.exponent - 2)
        < (2 + b.quartersBelow) * 10 ^ 16 * 2 ^ (b.exponent - 2) :=
          mul_lt_mul_of_pos_right few place
      _ = _ := by ring

/-- **The shortest decimal reads back.** -/
theorem contains_shortest {b : Binary} (hb : b.InFormat) (positive : 0 < b.significand)
    (tie : Tie) : 0 < (shortest tie b).digits ∧ b.interval.Contains (shortest tie b).value := by
  have found : ((List.range 18).findSome? fun (n : Nat) =>
      b.interval.nearest? tie (magnitude b.interval.value b.interval.den - n)).isSome = true :=
    List.findSome?_isSome_iff.2 ⟨17, by decide, exists_nearest? hb positive tie⟩
  obtain ⟨s, hs⟩ := Option.isSome_iff_exists.1 found
  obtain ⟨n, -, hit⟩ := List.exists_of_findSome?_eq_some hs
  have shortest_eq : shortest tie b = s := by
    simp only [shortest, hs, Option.getD_some]
  rw [shortest_eq]
  exact Interval.contains_of_nearest? b.den_interval_pos hit

/-- The decimals of different numbers have different values. -/
theorem eq_of_shortest {b c : Binary} (hb : b.InFormat) (hc : c.InFormat)
    (positive : 0 < b.significand) (positive' : 0 < c.significand) {tie : Tie}
    (h : (shortest tie b).value = (shortest tie c).value) : b = c :=
  eq_of_contains hb hc positive positive' (contains_shortest hb positive tie).2
    (h ▸ (contains_shortest hc positive' tie).2)

end Binary

/-! ## The bits of a number -/

theorem inFormat_ofFloat (x : Float) : (Binary.ofFloat x).InFormat := by
  have fraction := fractionBits_lt x
  have pow : Nat.pow 2 52 = 2 ^ 52 := rfl
  rw [Binary.ofFloat]
  split
  · exact ⟨by simp only; omega, by simp, fun h => absurd rfl h, by simp⟩
  · refine ⟨by simp only; omega, by simp only; omega, fun _ => by simp only; omega, ?_⟩
    simp only [Bool.and_eq_true, decide_eq_true_eq, pow]
    omega

end ContractDocs.Decimal
