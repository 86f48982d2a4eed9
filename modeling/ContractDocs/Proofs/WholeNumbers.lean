/-
Whole numbers as text: which binary number a whole number becomes, and which
numeral is shown for it.

A whole number below `2 ^ 64` becomes a binary number that is whole again, the
same one up to `2 ^ 53` (`exists_parts_ofNat`). The shortest decimal of a whole
number needs no places behind the point, so what is shown is the numeral of a
whole number, `shown`. `shown_eq_self`: up to `2 ^ 53` it is the number itself.
`ofInt_eq_of_shown`: beyond, two numbers are shown alike only if they become
the same binary number.
-/
import ContractDocs.Proofs.Rounding
import ContractDocs.Proofs.WrittenNumbers

namespace ContractDocs.Decimal

open Float.Model Float.Model.UnpackedFloat

/-! ## The nearest binary number -/

/-- A shift that drops only zeros is exact. -/
theorem shiftRight_of_dvd {m k : Nat} (h : 2 ^ k ∣ m) :
    (⟨m, false, false⟩ : ExtendedMantissa) >>> k = ⟨m / 2 ^ k, false, false⟩ := by
  change k.repeat ExtendedMantissa.shiftRightOne ⟨m, false, false⟩ = _
  induction k with
  | zero => simp [Nat.repeat]
  | succ k ih =>
    have even : m / 2 ^ k % 2 = 0 := by
      obtain ⟨c, rfl⟩ := h
      rw [Nat.pow_succ, Nat.mul_assoc, Nat.mul_div_cancel_left _ (Nat.two_pow_pos k)]
      omega
    rw [Nat.repeat, ih ((Nat.pow_dvd_pow 2 (Nat.le_succ k)).trans h),
      ExtendedMantissa.shiftRightOne, even, Nat.div_div_eq_div_mul, Nat.pow_succ]
    rfl

theorem roundedMantissa_le (em : ExtendedMantissa) : em.roundedMantissa ≤ em.mantissa + 1 := by
  obtain ⟨m, _ | _, _ | _⟩ := em <;>
    simp [ExtendedMantissa.roundedMantissa, ExtendedMantissa.accuracy,
      Accuracy.roundToNearestEven]
  omega

theorem shiftToTargetExponent_eq {m : Nat} {e : Int} (hm : 2 ^ 52 ≤ m)
    (h : 0 ≤ (m.log2 : Int) + e) :
    shiftToTargetExponent .binary64 m e .exact =
      ((⟨m, false, false⟩ : ExtendedMantissa) >>> (m.log2 - 52), m.log2 + e - 52) := by
  have log : 52 ≤ m.log2 := (Nat.le_log2 (by omega)).2 hm
  have amount : ((m.log2 : Int) + e - 52 - e).toNat = m.log2 - 52 := by omega
  have exponent : e + ((m.log2 - 52 : Nat) : Int) = m.log2 + e - 52 := by omega
  rw [shiftToTargetExponent, targetExponent_of_nonneg h, shiftToExponent, amount, exponent]
  rfl

/-- A number that is rounded has all bits of its mantissa, at the exponent that its size gives or
the next one, and it stays as it is if no bits are lost. -/
theorem exists_roundWithAccuracy (sign : Sign) {m : Nat} {e : Int} (hm : 2 ^ 52 ≤ m)
    (h : 0 ≤ (m.log2 : Int) + e) :
    ∃ m' e' pos, roundWithAccuracy .binary64 sign m e .exact = .finite sign m' e' pos ∧
      IsFull m' ∧ m.log2 + e - 52 ≤ e' ∧ e' ≤ m.log2 + e - 51 ∧
      (2 ^ (m.log2 - 52) ∣ m → valueAt m' e' = valueAt m e) := by
  obtain ⟨em, hem⟩ : ∃ em, em = (⟨m, false, false⟩ : ExtendedMantissa) >>> (m.log2 - 52) := ⟨_, rfl⟩
  have full : IsFull em.mantissa := by
    rw [hem, mantissa_shiftRight]
    exact isFull_shift hm
  have log : 52 ≤ m.log2 := (Nat.le_log2 (by omega)).2 hm
  have low := full.low.trans (le_roundedMantissa em)
  have high : em.roundedMantissa ≤ 2 ^ 53 := by
    have := roundedMantissa_le em
    have := full.high
    omega
  have low' : 52 ≤ em.roundedMantissa.log2 := (Nat.le_log2 (by omega)).2 low
  have high' : em.roundedMantissa.log2 < 54 := (Nat.log2_lt (by omega)).2 (by omega)
  have second := isFull_shift low
  have again := shiftToTargetExponent_eq low
    (by omega : 0 ≤ (em.roundedMantissa.log2 : Int) + (m.log2 + e - 52))
  have pos : 0 < em.roundedMantissa / 2 ^ (em.roundedMantissa.log2 - 52) := by
    have := second.low
    omega
  have rounded : roundWithAccuracy .binary64 sign m e .exact =
      .finite sign (em.roundedMantissa / 2 ^ (em.roundedMantissa.log2 - 52))
        (em.roundedMantissa.log2 + (m.log2 + e - 52) - 52) pos := by
    rw [roundWithAccuracy, shiftToTargetExponent_eq hm h, ← hem]
    simp only [again, mantissa_shiftRight, Nat.pos_iff_ne_zero.1 pos, ↓reduceDIte]
  refine ⟨_, _, pos, rounded, second, by omega, by omega, fun exact => ?_⟩
  -- Nothing is dropped, so nothing is rounded, and the second shift is none.
  have same : em.roundedMantissa = m / 2 ^ (m.log2 - 52) := by
    rw [hem, shiftRight_of_dvd exact]
    rfl
  have shift : (m.log2 : Int) + e - 52 = e + (m.log2 - 52 : Nat) := by omega
  rw [same, (isFull_shift hm).log2_eq, Nat.sub_self, pow_zero, Nat.div_one, shift]
  calc valueAt (m / 2 ^ (m.log2 - 52)) ((52 : Nat) + (e + (m.log2 - 52 : Nat)) - 52)
      = valueAt (m / 2 ^ (m.log2 - 52)) (e + (m.log2 - 52 : Nat)) := by
        congr 1
        omega
    _ = valueAt (m / 2 ^ (m.log2 - 52) * 2 ^ (m.log2 - 52)) e := by
        rw [valueAt_add, valueAt, valueAt]
        push_cast
        ring
    _ = valueAt m e := by rw [Nat.div_mul_cancel exact]

theorem log2_mul_two_pow {m : Nat} (hm : m ≠ 0) (k : Nat) : (m * 2 ^ k).log2 = m.log2 + k := by
  rw [Nat.log2_eq_iff (by positivity)]
  constructor
  · rw [Nat.pow_add]
    exact Nat.mul_le_mul_right _ (Nat.log2_self_le hm)
  · rw [Nat.add_right_comm, Nat.pow_add]
    exact Nat.mul_lt_mul_of_pos_right Nat.lt_log2_self (Nat.two_pow_pos k)

theorem log2_shiftLeft {m : Nat} (hm : m ≠ 0) (k : Nat) : (m <<< k).log2 = m.log2 + k := by
  rw [Nat.shiftLeft_eq, log2_mul_two_pow hm]

theorem parts_pack {sign : Sign} {m : Nat} {e : Int} {h : 0 < m} (full : IsFull m) (low : -52 ≤ e)
    (high : e < 972) : parts (.ofModel (.pack (.finite sign m e h))) = .finite sign m e h := by
  change UnpackedFloat.unpack .binary64 (UnpackedFloat.pack .binary64 _) = _
  rw [unpack_pack_finite full low, if_neg (by omega)]

/-- What a number is rounded to, once it is packed and taken apart again. -/
theorem exists_parts_roundWithAccuracy {m : Nat} {e : Int} (hm : 2 ^ 52 ≤ m)
    (low : 0 ≤ (m.log2 : Int) + e) (high : m.log2 + e < 1023) :
    ∃ m' e' pos, parts (.ofModel (.pack (roundWithAccuracy .binary64 .positive m e .exact))) =
        .finite .positive m' e' pos ∧ IsFull m' ∧ m.log2 + e - 52 ≤ e' ∧ e' ≤ m.log2 + e - 51 ∧
      (2 ^ (m.log2 - 52) ∣ m → valueAt m' e' = valueAt m e) := by
  obtain ⟨m', e', pos, rounded, full, lower, upper, exact⟩ := exists_roundWithAccuracy .positive hm low
  refine ⟨m', e', pos, ?_, full, lower, upper, exact⟩
  rw [rounded, parts_pack full (by omega) (by omega)]

theorem exists_parts_toFloat {n : Nat} (hn : 0 < n) (hn' : n < 2 ^ 53) :
    ∃ m e pos, parts n.toUInt64.toFloat = .finite .positive m e pos ∧ IsFull m ∧
      valueAt m e = n ∧ n.log2 - 52 ≤ e ∧ e ≤ n.log2 - 51 := by
  have log : n.log2 < 53 := (Nat.log2_lt (by omega)).2 hn'
  have bits : (n <<< (52 - n.log2)).log2 = 52 := by
    rw [log2_shiftLeft (by omega)]
    omega
  obtain ⟨m, e, pos, hx, full, lower, upper, exact⟩ := exists_parts_roundWithAccuracy
    (le_shiftLeft hn hn') (e := 0 - (52 - n.log2 : Nat)) (by omega) (by omega)
  refine ⟨m, e, pos, by rw [toFloat_eq hn hn', hx], full, ?_, by omega, by omega⟩
  rw [exact (by rw [bits]; exact Nat.one_dvd _), valueAt_shiftLeft, valueAt, zpow_zero, mul_one]

/-- A whole number that does not fit a mantissa is rounded with fifty-three zeros behind it. -/
theorem ofNat_eq_ofModel {n : Nat} (h : 2 ^ 53 ≤ n) :
    Float.ofNat n = .ofModel (.pack (roundWithAccuracy .binary64 .positive (n <<< 53 * 1) (-53 + 0)
      .exact)) := by
  have inexact : ¬ (n < 2 ^ 53 ∧ 0 ≤ 22) := by omega
  have nonzero : n ≠ 0 := by omega
  have positive : 0 < n <<< 53 := by
    rw [Nat.shiftLeft_eq]
    omega
  have bits : Format.binary64.exponentBits = 11 := rfl
  have large : ¬ (0 : Int) > 2 ^ Format.binary64.exponentBits := by decide
  have small : ¬ (0 : Int) < -(2 ^ Format.binary64.exponentBits + n.log2 : Int) := by
    rw [bits]
    omega
  have product : UnpackedFloat.ofScientific .binary64 n 0 = UnpackedFloat.mul .binary64
      (.finite .positive (n <<< 53) (-53) positive) (.finite .positive 1 0 Nat.one_pos) := by
    rw [UnpackedFloat.ofScientific, dif_neg nonzero, if_neg large, if_neg small,
      if_pos (Int.le_refl 0)]
    rfl
  change Float.ofScientific n false 0 = _
  rw [Float.ofScientific, dif_neg inexact]
  exact congrArg (fun u => Float.ofModel (.pack u)) product

/-- A whole number becomes a number with all bits of its mantissa. Up to `2 ^ 53` it is the same,
from there on the mantissa is not divided. -/
theorem exists_parts_ofNat {n : Nat} (hn : 0 < n) (hn' : n < 2 ^ 64) :
    ∃ m e pos, parts (Float.ofNat n) = .finite .positive m e pos ∧ IsFull m ∧ -52 ≤ e ∧ e < 972 ∧
      (n ≤ 2 ^ 53 → valueAt m e = n) ∧ (2 ^ 53 ≤ n → 0 ≤ e) := by
  by_cases small : n < 2 ^ 53
  · -- The number is multiplied by one, which loses nothing.
    obtain ⟨m, e, pos, hx, full, value, low, high⟩ := exists_parts_toFloat hn small
    have log : n.log2 < 53 := (Nat.log2_lt (by omega)).2 small
    have bits : (m * 2 ^ 52).log2 = 104 := by
      rw [log2_mul_two_pow (by omega), full.log2_eq]
    have wide : 2 ^ 52 ≤ m * 2 ^ 52 := Nat.le_mul_of_pos_left _ pos
    obtain ⟨m', e', pos', hy, full', low', high', exact⟩ :=
      exists_parts_roundWithAccuracy wide (e := e + -52) (by omega) (by omega)
    refine ⟨m', e', pos', ?_, full', by omega, by omega, fun _ => ?_, fun h => by omega⟩
    · rw [← hy, ofNat_eq_mul small]
      change parts (.ofModel (.pack (UnpackedFloat.mul .binary64 (parts n.toUInt64.toFloat)
        (parts (Float.ofBits 0x3FF0000000000000))))) = _
      rw [hx]
      rfl
    · rw [exact (by rw [bits]; exact Nat.dvd_mul_left _ _), valueAt_mul, value, valueAt]
      norm_num
  · have log : 53 ≤ n.log2 := (Nat.le_log2 (by omega)).2 (by omega)
    have log' : n.log2 < 64 := (Nat.log2_lt (by omega)).2 hn'
    have bits : (n <<< 53 * 1).log2 = n.log2 + 53 := by
      rw [Nat.mul_one, log2_shiftLeft (by omega)]
    have wide : 2 ^ 52 ≤ n <<< 53 * 1 := by
      rw [Nat.mul_one, Nat.shiftLeft_eq]
      omega
    obtain ⟨m, e, pos, hx, full, low, high, exact⟩ :=
      exists_parts_roundWithAccuracy wide (e := -53 + 0) (by omega) (by omega)
    refine ⟨m, e, pos, by rw [ofNat_eq_ofModel (by omega), hx], full, by omega, by omega,
      fun h => ?_, fun _ => by omega⟩
    obtain rfl : n = 2 ^ 53 := by omega
    have lossless : 2 ^ ((2 ^ 53 <<< 53 * 1).log2 - 52) ∣ 2 ^ 53 <<< 53 * 1 := by
      rw [bits, Nat.log2_two_pow, Nat.shiftLeft_eq, Nat.mul_one, ← Nat.pow_add]
      exact Nat.pow_dvd_pow 2 (by omega)
    rw [exact lossless, Nat.mul_one, Int.add_zero]
    exact (valueAt_shiftLeft (2 ^ 53) 53 0).trans (by rw [valueAt, zpow_zero, mul_one])

theorem parts_neg {x : Float} {m : Nat} {e : Int} {h : 0 < m}
    (hx : parts x = .finite .positive m e h) (full : IsFull m) (low : -52 ≤ e) (high : e < 972) :
    parts x.neg = .finite .negative m e h := by
  change parts (.ofModel (.pack (parts x).neg)) = _
  rw [hx]
  exact parts_pack full low high

/-- Numbers that differ in their sign have the same magnitude. -/
theorem ofFloat_congr {x y : Float} {sign sign' : Sign} {m : Nat} {e : Int} {h h' : 0 < m}
    (hx : parts x = .finite sign m e h) (hy : parts y = .finite sign' m e h') (full : IsFull m) :
    Binary.ofFloat x = Binary.ofFloat y := by
  have low := full.low
  obtain ⟨-, ⟨small, -⟩ | ⟨-, fraction, exponent⟩⟩ := finite_cases hx
  · omega
  obtain ⟨-, ⟨small, -⟩ | ⟨-, fraction', exponent'⟩⟩ := finite_cases hy
  · omega
  have exponents : exponentBits x = exponentBits y := by omega
  have fractions : fractionBits x = fractionBits y := by omega
  rw [Binary.ofFloat, Binary.ofFloat, exponents, fractions]

/-- The sign and the magnitude of a whole number that has become binary. -/
structure IsSigned (x : Float) (n : Int) (b : Binary) : Prop where
  magnitude : Binary.ofFloat x = b
  sign : isNegative x = decide (n < 0)
  isNaN : x.isNaN = false
  isInf : x.isInf = false

theorem isSigned_of_parts {x : Float} {n : Int} {sign : Sign} {m : Nat} {e : Int} {h : 0 < m}
    (hx : parts x = .finite sign m e h) (full : IsFull m) (hsign : sign = .negative ↔ n < 0) :
    IsSigned x n (Binary.ofFloat x) := by
  refine ⟨rfl, ?_, ?_, ?_⟩
  · rw [Bool.eq_iff_iff, decide_eq_true_eq, ← hsign]
    exact (ofFloat_of_parts hx full).2.2
  · change (parts x).isNaN = false
    rw [hx]
    rfl
  · change (parts x).isInf = false
    rw [hx]
    rfl

theorem isSigned_ofInt {n : Int} (hn : n ≠ 0) (h : n.natAbs < 2 ^ 64) :
    IsSigned (Float.ofInt n) n (Binary.ofFloat (Float.ofNat n.natAbs)) := by
  obtain ⟨m, e, pos, hx, full, low, high, -⟩ := exists_parts_ofNat (Int.natAbs_pos.2 hn) h
  cases n with
  | ofNat k => exact isSigned_of_parts hx full (by simp)
  | negSucc k =>
    have hy := parts_neg hx full low high
    have signed := isSigned_of_parts (n := Int.negSucc k) hy full (by simp [Int.negSucc_lt_zero])
    exact { signed with magnitude := ofFloat_congr hy hx full }

/-! ## The shortest decimal of a whole number -/

/-- What a search through the numbers from zero finds, it finds at the first that has anything. -/
theorem exists_of_findSome?_range {α : Type} {f : Nat → Option α} {n : Nat} {s : α}
    (h : (List.range n).findSome? f = some s) :
    ∃ k < n, f k = some s ∧ ∀ t < k, f t = none := by
  obtain ⟨before, k, after, range, hit, missed⟩ := List.findSome?_eq_some_iff.1 h
  have ordered := List.pairwise_lt_range (n := n)
  have bound : k < n := List.mem_range.1 (by simp [range])
  refine ⟨k, bound, hit, fun t ht => ?_⟩
  have member : t ∈ before ++ k :: after := range ▸ List.mem_range.2 (ht.trans bound)
  rw [range, List.pairwise_append, List.pairwise_cons] at ordered
  rcases List.mem_append.1 member with early | late
  · exact missed t early
  · rcases List.mem_cons.1 late with rfl | late
    · omega
    · have := ordered.2.1.1 t late
      omega

theorem Interval.exponent_of_nearest? {i : Interval} {tie : Tie} {k : Int} {s : Scientific}
    (h : i.nearest? tie k = some s) : s.exponent = k := by
  simp only [nearest?] at h
  split at h <;> cases h <;> rfl

/-- The grid finds a value that lies on it. -/
theorem Interval.isSome_nearest?_of_eq {i : Interval} {k : Int} {n : Nat} (tie : Tie)
    (hd : 0 < i.den) (hn : 0 < n) (value : (i.value : ℚ) / i.den = n * 10 ^ k)
    (h : i.Contains (n * 10 ^ k)) : (i.nearest? tie k).isSome = true := by
  have den := Ratio.den_scaleDown_pos (r := ⟨0, i.den⟩) hd k
  have above := (scale_le_iff (k := k) hd i.value n).2 value.le
  have below := (le_scale_iff (k := k) hd i.value n).2 value.ge
  have quotient : (Ratio.scaleDown ⟨i.value, i.den⟩ k).num / (Ratio.scaleDown ⟨0, i.den⟩ k).den = n :=
    Nat.div_eq_of_eq_mul_left den (le_antisymm above below)
  simp only [nearest?, quotient, (contains_iff hd n).2 h, hn, decide_true, Bool.and_self]
  split <;> first | rfl | contradiction

namespace Binary

variable {b : Binary} {tie : Tie}

theorem contains_valueAt (positive : 0 < b.significand) :
    b.interval.Contains (valueAt b.significand b.exponent) := by
  have place : (0 : ℚ) < 2 ^ (b.exponent - 2) := by positivity
  have quarters : valueAt b.significand b.exponent =
      4 * b.significand * 2 ^ (b.exponent - 2) := by
    rw [valueAt, zpow_sub₀ (by norm_num)]
    ring
  have one : (1 : ℚ) ≤ b.quartersBelow := by exact_mod_cast b.quartersBelow_mem.1
  have low : b.low < valueAt b.significand b.exponent := by
    rw [quarters, Binary.low]
    exact mul_lt_mul_of_pos_right (by linarith) place
  have high : valueAt b.significand b.exponent < b.high := by
    rw [quarters, Binary.high]
    exact mul_lt_mul_of_pos_right (by linarith) place
  rw [contains_interval_iff positive]
  split
  · exact ⟨low.le, high.le⟩
  · exact ⟨low, high⟩

/-- **A whole number has no places behind the point** in its shortest decimal: the grid of the ones
has it, so the search ends there or before. -/
theorem exponent_shortest_nonneg (positive : 0 < b.significand) {n : Nat}
    (hn : valueAt b.significand b.exponent = n) : 0 ≤ (shortest tie b).exponent := by
  have value : (b.interval.value : ℚ) / b.interval.den = n := (value_interval b).trans hn
  have natural : 0 < n := by
    have : 0 < valueAt b.significand b.exponent := by
      rw [valueAt]
      positivity
    exact_mod_cast hn ▸ this
  have top : 0 ≤ magnitude b.interval.value b.interval.den := by
    have den : (0 : ℚ) < b.interval.den := by exact_mod_cast b.den_interval_pos
    have one : (1 : ℚ) ≤ n := by exact_mod_cast natural
    have large : b.interval.den ≤ b.interval.value := by
      rw [← value, one_le_div den] at one
      exact_mod_cast one
    rw [magnitude, if_pos large]
    omega
  obtain ⟨t, ht⟩ := Int.eq_ofNat_of_zero_le top
  have ones : (b.interval.nearest? tie 0).isSome = true :=
    Interval.isSome_nearest?_of_eq tie b.den_interval_pos natural (by simpa using value)
      (by simpa [hn] using contains_valueAt positive)
  cases found : (List.range 18).findSome? fun (k : Nat) => b.interval.nearest? tie (t - k) with
  | none => simp [shortest, ht, found]
  | some s =>
    obtain ⟨k, bound, hit, missed⟩ := exists_of_findSome?_range found
    have result : shortest tie b = s := by simp [shortest, ht, found]
    have first : k ≤ t := by
      by_contra late
      have none := missed t (by omega)
      rw [sub_self] at none
      rw [none] at ones
      cases ones
    rw [result, Interval.exponent_of_nearest? hit]
    omega

/-- Below `2 ^ 53` the neighbours are at most one apart, so there is one whole number between the
midpoints to them. -/
theorem eq_of_contains_natCast (hb : b.InFormat) (positive : 0 < b.significand) {n k : Nat}
    (hn : valueAt b.significand b.exponent = n) (small : n < 2 ^ 53) (h : b.interval.Contains k) :
    k = n := by
  have exponent : b.exponent ≤ 0 := by
    by_contra large
    have full : (2 ^ 52 : ℚ) ≤ b.significand := by exact_mod_cast hb.full (by omega)
    have two : (2 : ℚ) ^ (1 : Int) ≤ 2 ^ b.exponent := zpow_le_zpow_right₀ (by norm_num) (by omega)
    have reached : (2 ^ 53 : ℚ) ≤ n := by
      calc (2 ^ 53 : ℚ) = 2 ^ 52 * 2 ^ (1 : Int) := by norm_num
        _ ≤ b.significand * 2 ^ b.exponent := mul_le_mul full two (by positivity) (by positivity)
        _ = n := hn
    have : (n : ℚ) < 2 ^ 53 := by exact_mod_cast small
    linarith
  have half : 2 * (2 : ℚ) ^ (b.exponent - 2) ≤ 1 / 2 := by
    calc 2 * (2 : ℚ) ^ (b.exponent - 2) = 2 ^ (b.exponent - 1) := by
          rw [← zpow_one_add₀ (by norm_num)]
          congr 1
          omega
      _ ≤ 2 ^ (-1 : Int) := zpow_le_zpow_right₀ (by norm_num) (by omega)
      _ = 1 / 2 := by norm_num
  have quarters : (n : ℚ) = 4 * b.significand * 2 ^ (b.exponent - 2) := by
    rw [← hn, valueAt, zpow_sub₀ (by norm_num)]
    ring
  have near : (b.quartersBelow : ℚ) * 2 ^ (b.exponent - 2) ≤ 2 * 2 ^ (b.exponent - 2) :=
    mul_le_mul_of_nonneg_right (by exact_mod_cast b.quartersBelow_mem.2) (by positivity)
  obtain ⟨low, high, -⟩ := bounds_of_contains positive h
  rw [Binary.low, sub_mul, ← quarters] at low
  rw [Binary.high, add_mul, ← quarters] at high
  have above : (k : ℚ) < n + 1 := by linarith
  have below : (n : ℚ) < k + 1 := by linarith
  have above' : k < n + 1 := by exact_mod_cast above
  have below' : n < k + 1 := by exact_mod_cast below
  omega

end Binary

/-! ## What is shown -/

/-- The number that a decimal without places behind the point stands for. -/
def Scientific.natural (s : Scientific) : Nat := s.digits * 10 ^ s.exponent.toNat

theorem Scientific.value_eq_natural {s : Scientific} (h : 0 ≤ s.exponent) :
    s.value = s.natural := by
  obtain ⟨k, hk⟩ := Int.eq_ofNat_of_zero_le h
  simp [value, natural, hk]

theorem digitChars_mul_pow {d : Nat} (hd : 0 < d) (k : Nat) :
    digitChars (d * 10 ^ k) = digitChars d ++ List.replicate k '0' := by
  induction k with
  | zero => simp
  | succ k ih =>
    have ten : d * 10 ^ (k + 1) = d * 10 ^ k * 10 := by rw [Nat.pow_succ, Nat.mul_assoc]
    have large : 10 ≤ d * 10 ^ k * 10 := Nat.le_mul_of_pos_left _ (by positivity)
    rw [ten, digitChars, Nat.toDigits_of_base_le (by decide) large, Nat.mul_div_cancel _ (by decide),
      Nat.mul_mod_left, ← digitChars, ih, List.replicate_succ', List.append_assoc]
    rfl

theorem Scientific.positional_eq {s : Scientific} (hs : 0 < s.digits) (h : 0 ≤ s.exponent) :
    s.positional = digitChars s.natural := by
  rw [natural, digitChars_mul_pow hs, positional, split, if_pos h]

/-- The decimal of a natural number. -/
def shownNat (n : Nat) : Nat := (shortest .up (Binary.ofFloat (Float.ofNat n))).natural

/-- The whole number whose numeral is shown for a whole number. -/
def shown (n : Int) : Int := n.sign * shownNat n.natAbs

/-- What the shortest decimal says of a whole number. -/
theorem shortest_ofNat {n : Nat} (hn : 0 < n) (h : n < 2 ^ 64) :
    let b := Binary.ofFloat (Float.ofNat n)
    0 < b.significand ∧ 0 < shownNat n ∧ (shortest .up b).positional = digitChars (shownNat n) ∧
      (shortest .up b).value = shownNat n ∧ (n < 2 ^ 53 → shownNat n = n) := by
  intro b
  obtain ⟨m, e, pos, hx, full, -, -, small, large⟩ := exists_parts_ofNat hn h
  obtain ⟨significand, exponent, -⟩ := ofFloat_of_parts hx full
  have positive : 0 < b.significand := significand ▸ pos
  have format : b.InFormat := inFormat_ofFloat _
  obtain ⟨N, hN⟩ : ∃ N : Nat, valueAt b.significand b.exponent = N := by
    rw [significand, exponent]
    by_cases fits : n ≤ 2 ^ 53
    · exact ⟨n, small fits⟩
    · obtain ⟨k, rfl⟩ := Int.eq_ofNat_of_zero_le (large (by omega))
      exact ⟨m * 2 ^ k, by simp [valueAt]⟩
  obtain ⟨digits, contains⟩ := Binary.contains_shortest format positive .up
  have whole : 0 ≤ (shortest .up b).exponent := Binary.exponent_shortest_nonneg positive hN
  rw [Scientific.value_eq_natural whole] at contains
  refine ⟨positive, Nat.mul_pos digits (by positivity), Scientific.positional_eq digits whole,
    Scientific.value_eq_natural whole, fun fits => ?_⟩
  have value : valueAt b.significand b.exponent = n := by
    rw [significand, exponent]
    exact small fits.le
  exact Binary.eq_of_contains_natCast format positive value fits contains

theorem shown_zero : shown 0 = 0 := by rw [shown, Int.sign_zero, Int.zero_mul]

theorem shown_neg_iff {n : Int} (h : n.natAbs < 2 ^ 64) : shown n < 0 ↔ n < 0 := by
  rcases lt_trichotomy n 0 with neg | rfl | pos
  · have := (shortest_ofNat (Int.natAbs_pos.2 neg.ne) h).2.1
    rw [shown, Int.sign_eq_neg_one_of_neg neg]
    omega
  · rw [shown_zero]
  · rw [shown, Int.sign_eq_one_of_pos pos]
    omega

theorem natAbs_shown {n : Int} (hn : n ≠ 0) : (shown n).natAbs = shownNat n.natAbs := by
  rw [shown, Int.natAbs_mul, Int.natAbs_sign_of_ne_zero hn, Nat.one_mul, Int.natAbs_natCast]

/-- **A whole number is shown as the numeral of a whole number.** -/
theorem display_ofInt {n : Int} (h : n.natAbs < 2 ^ 64) :
    display (Float.ofInt n) = Json.intChars (shown n) := by
  by_cases hn : n = 0
  · subst hn
    decide +kernel
  · obtain ⟨magnitude, sign, nan, inf⟩ := isSigned_ofInt hn h
    obtain ⟨positive, -, positional, -⟩ := shortest_ofNat (Int.natAbs_pos.2 hn) h
    rw [display, nan, inf, magnitude, sign, Json.intChars, natAbs_shown hn]
    simp only [Bool.false_eq_true, ↓reduceIte, positive.ne', positional, shown_neg_iff h]

/-- Up to `2 ^ 53` no digit is lost. -/
theorem shown_eq_self {n : Int} (h : n.natAbs ≤ 2 ^ 53) : shown n = n := by
  have exact : shownNat n.natAbs = n.natAbs ∨ n = 0 := by
    by_cases hn : n = 0
    · exact .inr hn
    · left
      rcases h.lt_or_eq with small | last
      · exact (shortest_ofNat (Int.natAbs_pos.2 hn) (by omega)).2.2.2.2 small
      · rw [last]
        decide +kernel
  rcases exact with exact | rfl
  · rw [shown, exact, Int.sign_mul_natAbs]
  · exact shown_zero

/-- Numbers whose magnitudes are shown alike become binary numbers of one magnitude. -/
theorem ofFloat_eq_of_shownNat {m n : Nat} (hm : m < 2 ^ 64) (hn : n < 2 ^ 64) (hm' : 0 < m)
    (hn' : 0 < n) (h : shownNat m = shownNat n) :
    Binary.ofFloat (Float.ofNat m) = Binary.ofFloat (Float.ofNat n) := by
  obtain ⟨positive, -, -, value, -⟩ := shortest_ofNat hm' hm
  obtain ⟨positive', -, -, value', -⟩ := shortest_ofNat hn' hn
  have same : (shortest .up (Binary.ofFloat (Float.ofNat m))).value =
      (shortest .up (Binary.ofFloat (Float.ofNat n))).value := by rw [value, value', h]
  exact Binary.eq_of_shortest (inFormat_ofFloat _) (inFormat_ofFloat _) positive positive' same

theorem shown_eq_zero_iff {n : Int} (h : n.natAbs < 2 ^ 64) : shown n = 0 ↔ n = 0 := by
  by_cases hn : n = 0
  · simp only [hn, shown_zero]
  · have := natAbs_shown hn
    have := (shortest_ofNat (Int.natAbs_pos.2 hn) h).2.1
    omega

/-- **Numbers that are shown alike have become the same binary number.** -/
theorem ofInt_eq_of_shown {m n : Int} (hm : m.natAbs < 2 ^ 64) (hn : n.natAbs < 2 ^ 64)
    (h : shown m = shown n) : Float.ofInt m = Float.ofInt n := by
  have sign : m < 0 ↔ n < 0 := by rw [← shown_neg_iff hm, h, shown_neg_iff hn]
  have zero : m = 0 ↔ n = 0 := by rw [← shown_eq_zero_iff hm, h, shown_eq_zero_iff hn]
  by_cases hm' : m = 0
  · rw [hm', zero.1 hm']
  · have hn' : n ≠ 0 := fun hn' => hm' (zero.2 hn')
    have same : shownNat m.natAbs = shownNat n.natAbs := by
      rw [← natAbs_shown hm', ← natAbs_shown hn', h]
    obtain ⟨magnitude, negative, -⟩ := isSigned_ofInt hm' hm
    obtain ⟨magnitude', negative', -⟩ := isSigned_ofInt hn' hn
    refine eq_of_ofFloat ?_ ?_
    · rw [negative, negative', decide_eq_decide]
      exact sign
    · rw [magnitude, magnitude']
      exact ofFloat_eq_of_shownNat hm hn (Int.natAbs_pos.2 hm') (Int.natAbs_pos.2 hn') same

theorem shown_natAbs (n : Int) : shown n.natAbs = (shown n).natAbs := by
  by_cases hn : n = 0
  · simp only [hn, shown_zero, Int.natAbs_zero, Int.natCast_zero]
  · have nonzero : (n.natAbs : Int) ≠ 0 := by omega
    have positive : (n.natAbs : Int).sign = 1 := Int.sign_eq_one_of_pos (by omega)
    rw [natAbs_shown hn, shown, positive, Int.one_mul, Int.natAbs_natCast]

/-- The numeral of a number. -/
theorem toList_toString (n : Int) : (toString n).toList = Json.intChars n := by
  have digits : ∀ k : Nat, (Nat.repr k).toList = digitChars k := fun _ => String.toList_ofList
  cases n with
  | ofNat k => exact digits k
  | negSucc k =>
    change ("-" ++ Nat.repr (k + 1)).toList = _
    rw [String.toList_append, digits, Json.intChars, signed,
      if_pos (by simp [Int.negSucc_lt_zero])]
    rfl

end ContractDocs.Decimal
