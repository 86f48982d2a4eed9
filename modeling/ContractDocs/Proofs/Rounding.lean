/-
Rounding: what multiplication, division and rounding to places may not take
away. Each step gives the number nearest to an exact value, so a value that is
not below a whole number does not come out below it.

A mantissa with all its bits is at least `2 ^ 52`. Of such numbers the one with
the greater exponent is the greater, and a shift to the right is a division
that drops a fraction; `le_valueAt_div` says what that leaves of a bound, and
`reaches_roundWithAccuracy` puts it together for one rounding.
`not_lt_scaled`: rounding to three decimal places.

All of Mathlib is imported for two lemmas about the bits of a number,
`Float.toBits_inj` and `unpackSign_packComponents`, which come with no single
file of it.
-/
import Mathlib
import ContractDocs.Binding

namespace ContractDocs.Decimal

open Float.Model Float.Model.UnpackedFloat

/-! ## Values -/

/-- The value of a mantissa at an exponent. -/
def valueAt (m : Nat) (e : Int) : ℚ := m * 2 ^ e

theorem valueAt_mono {m m' : Nat} (h : m ≤ m') (e : Int) : valueAt m e ≤ valueAt m' e :=
  mul_le_mul_of_nonneg_right (by exact_mod_cast h) (by positivity)

theorem valueAt_add (m : Nat) (e : Int) (k : Nat) : valueAt m (e + k) = valueAt m e * 2 ^ k := by
  rw [valueAt, zpow_add₀ (by norm_num), zpow_natCast, ← mul_assoc, ← valueAt]

theorem valueAt_shiftLeft (m k : Nat) (e : Int) : valueAt (m <<< k) (e - k) = valueAt m e := by
  have whole := valueAt_add m (e - k) k
  rw [sub_add_cancel] at whole
  rw [whole, valueAt, valueAt, Nat.shiftLeft_eq]
  push_cast
  ring

theorem valueAt_mul (m₁ m₂ : Nat) (e₁ e₂ : Int) :
    valueAt (m₁ * m₂) (e₁ + e₂) = valueAt m₁ e₁ * valueAt m₂ e₂ := by
  rw [valueAt, valueAt, valueAt, zpow_add₀ (by norm_num)]
  push_cast
  ring

theorem log2_add_nonneg {m : Nat} {e : Int} (h : 1 ≤ valueAt m e) : 0 ≤ (m.log2 : Int) + e := by
  have bits : (m : ℚ) < 2 ^ ((m.log2 : Int) + 1) := by
    exact_mod_cast (Nat.lt_log2_self : m < 2 ^ (m.log2 + 1))
  have power : (2 : ℚ) ^ (0 : Int) < 2 ^ ((m.log2 : Int) + 1 + e) := by
    rw [zpow_add₀ (by norm_num) _ e, zpow_zero]
    exact lt_of_le_of_lt h (mul_lt_mul_of_pos_right bits (by positivity))
  have exponent := (zpow_lt_zpow_iff_right₀ (by norm_num : (1 : ℚ) < 2)).1 power
  omega

/-- All fifty-three bits of a mantissa are in use. -/
structure IsFull (m : Nat) : Prop where
  low : 2 ^ 52 ≤ m
  high : m < 2 ^ 53

theorem IsFull.log2_eq {m : Nat} (h : IsFull m) : m.log2 = 52 := by
  obtain ⟨low, high⟩ := h
  have nonzero : m ≠ 0 := by omega
  have := (Nat.le_log2 nonzero).2 low
  have := (Nat.log2_lt nonzero).2 high
  omega

theorem IsFull.exponent_ge {n m : Nat} {e : Int} (full : IsFull m) (hn : 0 < n)
    (h : (n : ℚ) ≤ valueAt m e) : -52 ≤ e := by
  have one : 1 ≤ valueAt m e := le_trans (by exact_mod_cast hn) h
  have sum := log2_add_nonneg one
  rw [full.log2_eq] at sum
  omega

theorem valueAt_lt_of_lt {m m' : Nat} {e e' : Int} (hm : IsFull m) (hm' : IsFull m')
    (h : e < e') : valueAt m e < valueAt m' e' := by
  have high : (m : ℚ) < 2 ^ 53 := by exact_mod_cast hm.high
  have low : (2 : ℚ) ^ 52 ≤ m' := by exact_mod_cast hm'.low
  calc valueAt m e < 2 ^ 53 * 2 ^ e := mul_lt_mul_of_pos_right high (by positivity)
    _ = 2 ^ 52 * 2 ^ (e + 1) := by
      rw [zpow_add₀ (by norm_num)]
      ring
    _ ≤ valueAt m' e' := mul_le_mul low (zpow_le_zpow_right₀ (by norm_num) (by omega))
      (by positivity) (by positivity)

/-- A quotient that drops a fraction stays at or above a whole number, as long
as it has all bits of a mantissa. -/
theorem le_valueAt_div {n m d : Nat} {e : Int} (hd : 0 < d) (hn : n < 2 ^ 53)
    (h : (n * d : ℚ) ≤ valueAt m e) (hm : 2 ^ 52 ≤ m / d) : (n : ℚ) ≤ valueAt (m / d) e := by
  by_cases positive : 0 < e
  · -- The quotient alone makes up for the bound.
    have full : (2 : ℚ) ^ 52 ≤ (m / d : Nat) := by exact_mod_cast hm
    have two : (2 : ℚ) ^ (1 : Int) ≤ 2 ^ e := zpow_le_zpow_right₀ (by norm_num) (by omega)
    have below : (n : ℚ) < 2 ^ 53 := by exact_mod_cast hn
    calc (n : ℚ) ≤ 2 ^ 52 * 2 ^ (1 : Int) := by
          norm_num at below ⊢
          linarith
      _ ≤ valueAt (m / d) e := mul_le_mul full two (by positivity) (by positivity)
  · -- With the denominator `2 ^ j` taken to the other side both are whole numbers.
    obtain ⟨j, rfl⟩ : ∃ j : Nat, e = -(j : Int) := ⟨(-e).toNat, by omega⟩
    rw [valueAt, zpow_neg, ← div_eq_mul_inv, le_div_iff₀ (by positivity)] at h ⊢
    have scaled : n * 2 ^ j * d ≤ m := by
      rw [Nat.mul_right_comm]
      exact_mod_cast h
    exact_mod_cast (Nat.le_div_iff_mul_le hd).2 scaled

/-! ## One rounding -/

theorem mantissa_shiftRight (em : ExtendedMantissa) (k : Nat) :
    (em >>> k).mantissa = em.mantissa / 2 ^ k := by
  have step : ∀ k, (k.repeat ExtendedMantissa.shiftRightOne em).mantissa = em.mantissa / 2 ^ k := by
    intro k
    induction k with
    | zero => simp [Nat.repeat]
    | succ k ih =>
      rw [Nat.repeat, ExtendedMantissa.shiftRightOne, ih, Nat.div_div_eq_div_mul, Nat.pow_succ]
  exact step k

theorem le_roundedMantissa (em : ExtendedMantissa) : em.mantissa ≤ em.roundedMantissa := by
  obtain ⟨m, _ | _, _ | _⟩ := em <;>
    simp [ExtendedMantissa.roundedMantissa, ExtendedMantissa.accuracy,
      Accuracy.roundToNearestEven]

theorem targetExponent_of_nonneg {m : Nat} {e : Int} (h : 0 ≤ (m.log2 : Int) + e) :
    Format.binary64.targetExponent (totalExponent m e) = m.log2 + e - 52 := by
  simp only [Format.targetExponent, totalExponent, Format.mantissaBits, Format.minExponent]
  omega

theorem isFull_shift {m : Nat} (hm : 2 ^ 52 ≤ m) : IsFull (m / 2 ^ (m.log2 - 52)) := by
  have log : 52 ≤ m.log2 := (Nat.le_log2 (by omega)).2 hm
  constructor
  · rw [Nat.le_div_iff_mul_le (by positivity), ← Nat.pow_add, Nat.add_sub_cancel' log]
    exact Nat.log2_self_le (by omega)
  · have bits : 53 + (m.log2 - 52) = m.log2 + 1 := by omega
    rw [Nat.div_lt_iff_lt_mul (by positivity), ← Nat.pow_add, bits]
    exact Nat.lt_log2_self

/-- A shift to the exponent of the format leaves all bits of a mantissa, and
stays at or above a whole number. -/
theorem shiftToTargetExponent_spec {n m : Nat} {e : Int} (acc : Accuracy) (hn : 0 < n)
    (hn' : n < 2 ^ 53) (hm : 2 ^ 52 ≤ m) (h : (n : ℚ) ≤ valueAt m e) :
    let shifted := shiftToTargetExponent .binary64 m e acc
    IsFull shifted.1.mantissa ∧ (n : ℚ) ≤ valueAt shifted.1.mantissa shifted.2 := by
  have one : 1 ≤ valueAt m e := le_trans (by exact_mod_cast hn) h
  have log : 52 ≤ m.log2 := (Nat.le_log2 (by omega)).2 hm
  have amount : (Format.binary64.targetExponent (totalExponent m e) - e).toNat = m.log2 - 52 := by
    rw [targetExponent_of_nonneg (log2_add_nonneg one)]
    omega
  have mantissa : (ExtendedMantissa.ofMantissaAndAccuracy m acc).mantissa = m := by
    rcases acc with _ | _ | _ | _ <;> rfl
  simp only [shiftToTargetExponent, shiftToExponent, amount, mantissa_shiftRight, mantissa]
  refine ⟨isFull_shift hm, le_valueAt_div (by positivity) hn' ?_ (isFull_shift hm).low⟩
  rw [valueAt_add]
  push_cast
  exact mul_le_mul_of_nonneg_right h (by positivity)

/-- A positive number with all bits of its mantissa, or the infinity, that is not below `n`. -/
inductive Reaches (n : Nat) : UnpackedFloat → Prop
  | infinity : Reaches n (.infinity .positive)
  | finite {m : Nat} {e : Int} {h : 0 < m} (full : IsFull m) (le : (n : ℚ) ≤ valueAt m e) :
    Reaches n (.finite .positive m e h)

theorem Reaches.mono {a b : Nat} (hab : a ≤ b) {u : UnpackedFloat} (h : Reaches b u) :
    Reaches a u := by
  cases h with
  | infinity => exact .infinity
  | finite full le => exact .finite full (le_trans (by exact_mod_cast hab) le)

theorem reaches_roundWithAccuracy {n m : Nat} {e : Int} (acc : Accuracy) (hn : 0 < n)
    (hn' : n < 2 ^ 53) (hm : 2 ^ 52 ≤ m) (h : (n : ℚ) ≤ valueAt m e) :
    Reaches n (roundWithAccuracy .binary64 .positive m e acc) := by
  obtain ⟨full, le⟩ := shiftToTargetExponent_spec acc hn hn' hm h
  have up := le_roundedMantissa (shiftToTargetExponent .binary64 m e acc).1
  -- Rounding up may take one bit too many, so there is a second shift.
  obtain ⟨full', le'⟩ := shiftToTargetExponent_spec .exact hn hn' (full.low.trans up)
    (le.trans (valueAt_mono up _))
  have nonzero := Nat.pos_iff_ne_zero.1 (Nat.lt_of_lt_of_le (by norm_num) full'.low)
  rw [roundWithAccuracy]
  simp only [nonzero, ↓reduceDIte]
  exact .finite full' le'

/-! ## Sixty-four bits -/

theorem toNat_one_append (v : BitVec 52) : (1#1 ++ v).toNat = 2 ^ 52 + v.toNat := by
  rw [BitVec.toNat_append, ← Nat.shiftLeft_add_eq_or_of_lt v.isLt]
  rfl

/-- A number with all bits of its mantissa comes back from its sixty-four
bits, unless it is too large for them. -/
theorem unpack_pack_finite {sign : Sign} {m : Nat} {e : Int} {h : 0 < m} (full : IsFull m)
    (low : -52 ≤ e) :
    UnpackedFloat.unpack .binary64 (UnpackedFloat.pack .binary64 (.finite sign m e h)) =
      if 972 ≤ e then .infinity sign else .finite sign m e h := by
  rw [UnpackedFloat.pack]
  have bias : (Format.binary64.exponentBias : Int) = 1023 := rfl
  obtain ⟨b, hb⟩ : ∃ b : Nat, e + 1023 + 52 = b := ⟨(e + 1075).toNat, by omega⟩
  simp only [bias, Nat.cast_ofNat, hb, Int.toNat_natCast]
  have overflow : 2 ^ 11 ≤ b + 1 ↔ 972 ≤ e := by omega
  simp only [overflow]
  split
  · cases sign <;> rfl
  · next small =>
    have bits : m.log2 + 1 = Format.binary64.mantissaBits := by
      rw [full.log2_eq]
      rfl
    have number : (BitVec.ofNat 11 b).toNat = b := by
      rw [BitVec.toNat_ofNat]
      omega
    have normal : BitVec.ofNat 11 b ≠ -1#11 ∧ BitVec.ofNat 11 b ≠ 0#11 := by
      constructor <;> intro eq <;> rw [eq] at number <;> simp at number <;> omega
    have mantissa : (1#1 ++ BitVec.ofNat 52 m).toNat = m := by
      obtain ⟨low, high⟩ := full
      rw [toNat_one_append, BitVec.toNat_ofNat]
      omega
    rw [if_pos bits, UnpackedFloat.unpack]
    simp only [unpackExponent_packComponents, unpackMantissa_packComponents,
      unpackSign_packComponents]
    rw [if_neg normal.1, if_neg normal.2]
    simp only [UnpackedFloat.finite.injEq]
    refine ⟨by cases sign <;> rfl, mantissa, ?_⟩
    rw [number, bias]
    omega

/-- A number taken apart. -/
def parts (x : Float) : UnpackedFloat := x.toModel.unpack

theorem Reaches.pack {n : Nat} {u : UnpackedFloat} (hn : 0 < n) (h : Reaches n u) :
    Reaches n (parts (.ofModel (.pack u))) := by
  change Reaches n (UnpackedFloat.unpack .binary64 (UnpackedFloat.pack .binary64 u))
  cases h with
  | infinity => exact .infinity
  | finite full le =>
    rw [unpack_pack_finite full (full.exponent_ge hn le)]
    split
    · exact .infinity
    · exact .finite full le

/-- The bits of a number are its sign, its exponent and its fraction. -/
theorem toBits_eq (x : Float) : x.toBits.toNat =
    (if isNegative x then 2 ^ 63 else 0) + exponentBits x * 2 ^ 52 + fractionBits x := by
  have exponent : exponentBits x = x.toBits.toNat / 2 ^ 52 % 2048 := by
    rw [exponentBits, UInt64.toNat_shiftRight, Nat.shiftRight_eq_div_pow]
    rfl
  have fraction : fractionBits x = x.toBits.toNat % 2 ^ 52 := rfl
  have sign : isNegative x = decide (x.toBits.toNat / 2 ^ 63 = 1) := by
    rw [isNegative, beq_eq_decide, decide_eq_decide, ← UInt64.toNat_inj, UInt64.toNat_shiftRight,
      Nat.shiftRight_eq_div_pow]
    rfl
  have := x.toBits.toNat_lt
  rw [sign, exponent, fraction]
  simp only [decide_eq_true_eq]
  split <;> omega

/-- A number is its sign and its magnitude. -/
theorem eq_of_ofFloat {x y : Float} (sign : isNegative x = isNegative y)
    (h : Binary.ofFloat x = Binary.ofFloat y) : x = y := by
  have fx := fractionBits_lt x
  have fy := fractionBits_lt y
  have pow : Nat.pow 2 52 = 2 ^ 52 := rfl
  have parts : exponentBits x = exponentBits y ∧ fractionBits x = fractionBits y := by
    rw [Binary.ofFloat, Binary.ofFloat] at h
    -- A significand without the leading bit is that of a zero exponent.
    split at h <;> split at h <;> simp only [Binary.mk.injEq] at h <;> omega
  rw [← Float.toBits_inj, ← UInt64.toNat_inj, toBits_eq, toBits_eq, sign, parts.1, parts.2]

/-- The bits of a number as the format has them. -/
def bitsOf (x : Float) : BitVec Format.binary64.numBits := x.toModel.toBits.toBitVec

theorem exponentBits_eq (x : Float) : exponentBits x = (unpackExponent (bitsOf x)).toNat := by
  rw [unpackExponent, BitVec.toNat_cast, BitVec.extractLsb_toNat, exponentBits,
    UInt64.toNat_shiftRight]
  rfl

theorem fractionBits_eq (x : Float) : fractionBits x = (unpackMantissa (bitsOf x)).toNat := by
  rw [unpackMantissa, BitVec.toNat_cast, BitVec.extractLsb_toNat]
  rfl

theorem isNegative_iff {x : Float} :
    isNegative x = true ↔ Sign.ofBitVec (unpackSign (bitsOf x)) = .negative := by
  have top : x.toBits.toNat / 2 ^ 63 < 2 := by
    have := x.toBits.toNat_lt
    omega
  have sign : (unpackSign (bitsOf x)).toNat = x.toBits.toNat / 2 ^ 63 := by
    rw [unpackSign, BitVec.toNat_cast, BitVec.extractLsb_toNat, Nat.shiftRight_eq_div_pow]
    exact Nat.mod_eq_of_lt top
  rw [isNegative, beq_iff_eq, ← UInt64.toNat_inj, UInt64.toNat_shiftRight,
    Nat.shiftRight_eq_div_pow, Sign.ofBitVec]
  change x.toBits.toNat / 2 ^ 63 = 1 ↔ _
  rw [← sign]
  split
  · next zero => simp [zero]
  · next nonzero =>
    have := (unpackSign (bitsOf x)).isLt
    have : (unpackSign (bitsOf x)).toNat ≠ 0 := fun zero => nonzero (BitVec.eq_of_toNat_eq zero)
    simp only [iff_true]
    omega

/-- The mantissa of a finite number is its fraction, at the least exponent, or
its fraction with one bit more. -/
theorem finite_cases {x : Float} {sign : Sign} {m : Nat} {e : Int} {h : 0 < m}
    (hx : parts x = .finite sign m e h) :
    sign = Sign.ofBitVec (unpackSign (bitsOf x)) ∧
      (m < 2 ^ 52 ∧ e = -1074 ∨
        exponentBits x ≠ 0 ∧ m = 2 ^ 52 + fractionBits x ∧ e = (exponentBits x : Int) - 1075) := by
  change UnpackedFloat.unpack .binary64 (bitsOf x) = _ at hx
  rw [UnpackedFloat.unpack] at hx
  simp only at hx
  split at hx
  · split at hx <;> cases hx
  · split at hx
    · next zero =>
      split at hx
      · cases hx
      · simp only [UnpackedFloat.finite.injEq] at hx
        obtain ⟨rfl, rfl, rfl⟩ := hx
        refine ⟨rfl, .inl ⟨(unpackMantissa (bitsOf x)).isLt, ?_⟩⟩
        rw [zero]
        rfl
    · next nonzero =>
      simp only [UnpackedFloat.finite.injEq] at hx
      obtain ⟨rfl, rfl, rfl⟩ := hx
      refine ⟨rfl, .inr ⟨?_, ?_, ?_⟩⟩
      · rw [exponentBits_eq]
        exact fun zero => nonzero (BitVec.eq_of_toNat_eq zero)
      · rw [toNat_one_append, ← fractionBits_eq]
      · rw [← exponentBits_eq]
        rfl

theorem isFull_of_parts {x : Float} {sign : Sign} {m : Nat} {e : Int} {h : 0 < m}
    (hx : parts x = .finite sign m e h) (he : -1074 < e) : IsFull m := by
  rcases (finite_cases hx).2 with ⟨-, rfl⟩ | ⟨-, rfl, -⟩
  · exact absurd he (Int.lt_irrefl _)
  · have fraction : fractionBits x < 2 ^ 52 := Nat.mod_lt _ (Nat.two_pow_pos 52)
    exact ⟨by omega, by omega⟩

theorem ofFloat_of_parts {x : Float} {sign : Sign} {m : Nat} {e : Int} {h : 0 < m}
    (hx : parts x = .finite sign m e h) (full : IsFull m) :
    (Binary.ofFloat x).significand = m ∧ (Binary.ofFloat x).exponent = e ∧
      (isNegative x = true ↔ sign = .negative) := by
  obtain ⟨rfl, ⟨small, -⟩ | ⟨normal, rfl, rfl⟩⟩ := finite_cases hx
  · exact absurd full.low (by omega)
  · rw [Binary.ofFloat, if_neg normal]
    exact ⟨rfl, rfl, isNegative_iff⟩

/-! ## Products and quotients -/

/-- The number is this whole number, and exactly. -/
def IsWhole (x : Float) (n : Nat) : Prop :=
  ∃ m e h, parts x = .finite .positive m e h ∧ IsFull m ∧ valueAt m e = n

theorem IsWhole.reaches {x : Float} {n : Nat} (h : IsWhole x n) : Reaches n (parts x) := by
  obtain ⟨m, e, pos, hx, full, value⟩ := h
  rw [hx]
  exact .finite full value.ge

theorem Reaches.mul {a b : Nat} {x y : Float} (ha : 0 < a) (hb : 0 < b) (hab : a * b < 2 ^ 53)
    (hx : Reaches a (parts x)) (hy : Reaches b (parts y)) : Reaches (a * b) (parts (x * y)) := by
  have positive : 0 < a * b := Nat.mul_pos ha hb
  refine Reaches.pack positive (u := UnpackedFloat.mul .binary64 (parts x) (parts y)) ?_
  generalize parts x = u at hx
  generalize parts y = v at hy
  cases hx with
  | infinity =>
    cases hy with
    | infinity => exact .infinity
    | finite => exact .infinity
  | @finite m₁ e₁ _ full₁ le₁ =>
    cases hy with
    | infinity => exact .infinity
    | @finite m₂ e₂ _ full₂ le₂ =>
      refine reaches_roundWithAccuracy _ positive hab ?_ ?_
      · calc 2 ^ 52 ≤ 2 ^ 52 * 2 ^ 52 := by norm_num
          _ ≤ m₁ * m₂ := Nat.mul_le_mul full₁.low full₂.low
      · rw [valueAt_mul]
        push_cast
        exact mul_le_mul le₁ le₂ (by positivity) (le_trans (by positivity) le₁)

/-- Of mantissas with all bits the quotient is taken with fifty-three bits more. -/
theorem divCore_of_isFull {m₁ m₂ : Nat} {e₁ e₂ : Int} (full₁ : IsFull m₁) (full₂ : IsFull m₂)
    (h : -52 ≤ e₁ - e₂) :
    divCore .binary64 m₁ e₁ m₂ e₂ =
      (m₁ <<< 53 / m₂, e₁ - e₂ - 53, accuracyOfFraction (m₁ <<< 53 % m₂) m₂) := by
  have exponent : min (e₁ - e₂) (Format.binary64.targetExponent
      (totalExponent m₁ e₁ - totalExponent m₂ e₂)) = e₁ - e₂ - 53 := by
    simp only [Format.targetExponent, totalExponent, full₁.log2_eq, full₂.log2_eq,
      Format.mantissaBits, Format.minExponent]
    omega
  have amount : (e₁ - e₂ - (e₁ - e₂ - 53)).toNat = 53 := by omega
  rw [divCore, exponent, amount]

theorem Reaches.div {a b : Nat} {x y : Float} (ha : 0 < a) (ha' : a < 2 ^ 53)
    (hx : Reaches (a * b) (parts x)) (hy : IsWhole y b) : Reaches a (parts (x / y)) := by
  obtain ⟨m₂, e₂, pos₂, hy, full₂, value₂⟩ := hy
  refine Reaches.pack ha (u := UnpackedFloat.div .binary64 (parts x) (parts y)) ?_
  rw [hy]
  generalize parts x = u at hx
  cases hx with
  | infinity => exact .infinity
  | @finite m₁ e₁ _ full₁ le₁ =>
    have quotient : (a * m₂ : ℚ) ≤ valueAt m₁ (e₁ - e₂) := by
      have scale : valueAt m₁ e₁ = valueAt m₁ (e₁ - e₂) * 2 ^ e₂ := by
        rw [valueAt, valueAt, mul_assoc, ← zpow_add₀ (by norm_num), sub_add_cancel]
      push_cast at le₁
      rw [← value₂, valueAt, ← mul_assoc, scale] at le₁
      exact le_of_mul_le_mul_right le₁ (by positivity)
    have exponent : -52 ≤ e₁ - e₂ :=
      full₁.exponent_ge (Nat.mul_pos ha pos₂) (by exact_mod_cast quotient)
    have bits : 2 ^ 52 ≤ m₁ <<< 53 / m₂ := by
      rw [Nat.le_div_iff_mul_le pos₂, Nat.shiftLeft_eq]
      have := full₁.low
      have := full₂.high
      omega
    have same : valueAt (m₁ <<< 53) (e₁ - e₂ - 53) = valueAt m₁ (e₁ - e₂) :=
      valueAt_shiftLeft m₁ 53 (e₁ - e₂)
    simp only [UnpackedFloat.div, divCore_of_isFull full₁ full₂ exponent]
    refine reaches_roundWithAccuracy _ ha ha' bits (le_valueAt_div pos₂ ha' ?_ bits)
    rwa [same]

/-! ## Whole numbers -/

/-- A whole number is rounded with as many zeros behind it as its mantissa has room for. -/
theorem toFloat_eq {n : Nat} (hn : 0 < n) (hn' : n < 2 ^ 53) :
    n.toUInt64.toFloat = .ofModel (.pack (roundWithAccuracy .binary64 .positive
      (n <<< (52 - n.log2)) (0 - (52 - n.log2 : Nat)) .exact)) := by
  have number : n.toUInt64.toNat = n := by
    simp only [Nat.toUInt64_eq, UInt64.toNat_ofNat']
    omega
  have order : compare (n : Int) 0 = .gt := compare_gt_iff_gt.2 (by omega)
  have log : n.log2 < 53 := (Nat.log2_lt (by omega)).2 hn'
  have target : Format.binary64.targetExponent (totalExponent n 0) = n.log2 - 52 := by
    rw [targetExponent_of_nonneg (by omega), Int.add_zero]
  have amount : (0 - ((n.log2 : Int) - 52)).toNat = 52 - n.log2 := by omega
  change Float.ofModel (.pack (UnpackedFloat.ofNat .binary64 n.toUInt64.toNat)) = _
  rw [number, UnpackedFloat.ofNat, UnpackedFloat.ofInt, UnpackedFloat.normalize, order]
  simp only [UnpackedFloat.round, decreaseExponent, Int.toNat_natCast, target, amount]

theorem le_shiftLeft {n : Nat} (hn : 0 < n) (hn' : n < 2 ^ 53) : 2 ^ 52 ≤ n <<< (52 - n.log2) := by
  have log : n.log2 < 53 := (Nat.log2_lt (by omega)).2 hn'
  calc 2 ^ 52 = 2 ^ n.log2 * 2 ^ (52 - n.log2) := by
        rw [← Nat.pow_add, Nat.add_sub_cancel' (by omega)]
    _ ≤ n <<< (52 - n.log2) := by
        rw [Nat.shiftLeft_eq]
        exact Nat.mul_le_mul_right _ (Nat.log2_self_le (by omega))

theorem reaches_toFloat {n : Nat} (hn : 0 < n) (hn' : n < 2 ^ 53) :
    Reaches n (parts n.toUInt64.toFloat) := by
  rw [toFloat_eq hn hn']
  refine Reaches.pack hn (reaches_roundWithAccuracy _ hn hn' (le_shiftLeft hn hn') ?_)
  rw [valueAt_shiftLeft, valueAt, zpow_zero, mul_one]

theorem isWhole_one : IsWhole (Float.ofBits 0x3FF0000000000000) 1 :=
  ⟨2 ^ 52, -52, by norm_num, by rfl, ⟨by norm_num, by norm_num⟩, by norm_num [valueAt]⟩

/-- A whole number is read as digits with the power of ten that is one. -/
theorem ofNat_eq_mul {n : Nat} (h : n < 2 ^ 53) :
    Float.ofNat n = n.toUInt64.toFloat * Float.ofBits 0x3FF0000000000000 := by
  have exact : n < 2 ^ 53 ∧ 0 ≤ 22 := ⟨h, by omega⟩
  change Float.ofScientific n false 0 = _
  rw [Float.ofScientific, dif_pos exact]
  rfl

theorem reaches_ofNat {n : Nat} (hn : 0 < n) (hn' : n < 2 ^ 53) :
    Reaches n (parts (Float.ofNat n)) := by
  have product := (reaches_toFloat hn hn').mul hn Nat.one_pos (by omega) isWhole_one.reaches
  rwa [Nat.mul_one, ← ofNat_eq_mul hn'] at product

/-! ## Rounding to a whole number -/

theorem Ratio.ofPowerOfTwo_neg (m j : Nat) : ofPowerOfTwo m (-(j : Int)) = ⟨m, 2 ^ j⟩ := by
  have whole : (-(j : Int)).toNat = 0 := by omega
  have power : (- -(j : Int)).toNat = j := by omega
  rw [ofPowerOfTwo, whole, power]
  exact congrArg (Ratio.mk · _) (Nat.mul_one m)

theorem Ratio.le_roundHalfUp {n m d : Nat} (hd : 0 < d) (h : n * d ≤ m) :
    n ≤ (Ratio.mk m d).roundHalfUp := by
  change n ≤ (2 * m + d) / (2 * d)
  rw [Nat.le_div_iff_mul_le (by omega), Nat.mul_left_comm]
  omega

theorem Ratio.roundHalfUp_lt {m d : Nat} (hd : 1 < d) (h : m < 2 ^ 53) :
    (Ratio.mk m d).roundHalfUp < 2 ^ 53 := by
  change (2 * m + d) / (2 * d) < 2 ^ 53
  rw [Nat.div_lt_iff_lt_mul (by omega)]
  omega

theorem Reaches.roundHalfAway {n : Nat} {x : Float} (hn : 0 < n) (h : Reaches n (parts x)) :
    Reaches n (parts (roundHalfAway x)) := by
  rw [Decimal.roundHalfAway]
  split
  · exact h
  · next fraction =>
    simp only [Bool.or_eq_true, Bool.not_eq_true', decide_eq_true_eq, not_or, Bool.not_eq_false,
      Int.not_le] at fraction
    obtain ⟨finite, small⟩ := fraction
    change (parts x).isFinite = true at finite
    generalize hu : parts x = u at h finite
    cases h with
    | infinity => cases finite
    | @finite m e pos full le =>
      obtain ⟨hm, he, sign⟩ := ofFloat_of_parts hu full
      have sign : isNegative x = false := Bool.eq_false_iff.2 fun h => nomatch sign.1 h
      rw [he] at small
      obtain ⟨j, rfl⟩ : ∃ j : Nat, e = -(j : Int) := ⟨(-e).toNat, by omega⟩
      have scaled : n * 2 ^ j ≤ m := by
        rw [valueAt, zpow_neg, ← div_eq_mul_inv, le_div_iff₀ (by positivity)] at le
        exact_mod_cast le
      have even : 1 < 2 ^ j := Nat.one_lt_two_pow (by omega)
      rw [hm, he, sign, Ratio.ofPowerOfTwo_neg, if_neg (by simp)]
      have low := Ratio.le_roundHalfUp (Nat.zero_lt_of_lt even) scaled
      exact (reaches_ofNat (by omega) (Ratio.roundHalfUp_lt even full.high)).mono low

/-! ## Comparison -/

theorem lt_iff_compare {x y : Float} : x < y ↔ (parts x).compare (parts y) = some .lt := by
  have model : x < y ↔ ((parts x).compare (parts y) == some .lt) = true := by
    change Float.lt x y = true ↔ _
    rw [Float.lt, decide_eq_true_eq]
    rfl
  rw [model, beq_iff_eq]

theorem compare_eq_lt_iff {m m' : Nat} {e e' : Int} (hm : IsFull m) (hm' : IsFull m') :
    (compare e e').then (compare m m') = .lt ↔ valueAt m e < valueAt m' e' := by
  rcases lt_trichotomy e e' with h | rfl | h
  · simp [compare_lt_iff_lt.2 h, valueAt_lt_of_lt hm hm' h]
  · have scale : (0 : ℚ) < 2 ^ e := by positivity
    simp [compare_lt_iff_lt, valueAt, mul_lt_mul_iff_left₀ scale]
  · simp [compare_gt_iff_gt.2 h, (valueAt_lt_of_lt hm' hm h).le]

theorem IsWhole.reaches_of_not_lt {x y : Float} {n : Nat} (hy : IsWhole y n) (hn : 0 < n)
    (finite : x.isFinite = true) (h : ¬ x < y) : Reaches n (parts x) := by
  obtain ⟨m, e, pos, hy, full, value⟩ := hy
  have low := full.exponent_ge hn value.ge
  change (parts x).isFinite = true at finite
  rw [lt_iff_compare, hy] at h
  cases hx : parts x with
  | infinity sign =>
    rw [hx] at finite
    cases finite
  | notANumber =>
    rw [hx] at finite
    cases finite
  | zero sign =>
    rw [hx] at h
    exact absurd rfl h
  | finite sign m' e' pos' =>
    rw [hx] at h
    cases sign with
    | negative => exact absurd rfl h
    | positive =>
      have order : (compare e' e).then (compare m' m) ≠ .lt := fun lt => h (congrArg some lt)
      have normal : -1074 < e' := by
        by_contra small
        have less : compare e' e = .lt := compare_lt_iff_lt.2 (by omega)
        exact order (by rw [less]; rfl)
      have full' := isFull_of_parts hx normal
      rw [Ne, compare_eq_lt_iff full' full, not_lt, value] at order
      exact .finite full' order

theorem IsWhole.not_lt_of_reaches {x y : Float} {n : Nat} (hy : IsWhole y n)
    (h : Reaches n (parts x)) : ¬ x < y := by
  obtain ⟨m, e, pos, hy, full, value⟩ := hy
  rw [lt_iff_compare, hy]
  generalize parts x = u at h
  cases h with
  | infinity => simp [UnpackedFloat.compare]
  | finite full' le =>
    simp only [UnpackedFloat.compare, Option.some.injEq, compare_eq_lt_iff full' full, not_lt,
      value]
    exact le

/-! ## Rounding to decimal places -/

theorem isWhole_thousand : IsWhole (Float.ofNat (Nat.pow 10 3)) 1000 :=
  ⟨1000 * 2 ^ 43, -43, by norm_num, by rfl, ⟨by norm_num, by norm_num⟩, by norm_num [valueAt]⟩

/-- **A number that is not below a whole number** is not below it when it is
rounded to three decimal places. -/
theorem not_lt_scaled {x floor : Float} {n : Nat} (hfloor : IsWhole floor n) (hn : 0 < n)
    (hn' : n * 1000 < 2 ^ 53) (finite : x.isFinite = true) (h : ¬ x < floor) :
    ¬ Transform.scaled x 1 (some 3) < floor := by
  have once : Reaches (n * 1) (parts (x * 1)) :=
    (hfloor.reaches_of_not_lt hn finite h).mul hn Nat.one_pos (by omega)
      (reaches_ofNat Nat.one_pos (by norm_num))
  rw [Nat.mul_one] at once
  have units : Reaches (n * 1000) (parts (x * 1 * Float.ofNat (Nat.pow 10 3))) :=
    once.mul hn (by norm_num) hn' isWhole_thousand.reaches
  have rounded := Reaches.div hn (by omega) (units.roundHalfAway (by omega)) isWhole_thousand
  exact hfloor.not_lt_of_reaches rounded

end ContractDocs.Decimal
