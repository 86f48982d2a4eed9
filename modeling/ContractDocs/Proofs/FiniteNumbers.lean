/-
Finite numbers: which numerals are read as one of them. A numeral below the
largest finite number is rounded to a number that is not above it, by whichever
of its ways a decimal is read.

Only the exponent can be too large for sixty-four bits, so `InRange` says of a
number taken apart that it is zero or has an exponent that fits.
`inRange_roundWithAccuracy`: one rounding. `isFinite_ofScientific`: digits and
a power of ten.
-/
import ContractDocs.Proofs.WholeNumbers

namespace ContractDocs.Decimal

open Float.Model Float.Model.UnpackedFloat

/-! ## The range -/

/-- The greatest exponent of a finite number. -/
def topExponent : Int := 971

/-- The largest finite number. -/
def largest : ℚ := valueAt (2 ^ 53 - 1) topExponent

/-- Zero, or a number whose exponent fits its bits. -/
inductive InRange : UnpackedFloat → Prop
  | zero (sign : Sign) : InRange (.zero sign)
  | finite {sign : Sign} {m : Nat} {e : Int} {h : 0 < m} (le : e ≤ topExponent) :
    InRange (.finite sign m e h)

theorem InRange.neg {u : UnpackedFloat} (h : InRange u) : InRange u.neg := by
  cases h with
  | zero sign => exact .zero _
  | finite le => exact .finite le

theorem isFinite_unpack {b : BitVec Format.binary64.numBits}
    (h : unpackExponent b ≠ -1#11) :
    (UnpackedFloat.unpack .binary64 b).isFinite = true := by
  rw [UnpackedFloat.unpack]
  dsimp only
  rw [if_neg h]
  split
  · split <;> rfl
  · rfl

/-- A number in range is finite when it is packed. -/
theorem InRange.isFinite {u : UnpackedFloat} (h : InRange u) :
    (Float.ofModel (.pack u)).isFinite = true := by
  change (UnpackedFloat.unpack .binary64 (UnpackedFloat.pack .binary64 u)).isFinite = true
  refine isFinite_unpack ?_
  cases h with
  | zero sign =>
    rw [UnpackedFloat.pack, packedZero, unpackExponent_packComponents]
    decide
  | @finite sign m e _ le =>
    have bias : (Format.binary64.exponentBias : Int) = 1023 := rfl
    rw [topExponent] at le
    rw [UnpackedFloat.pack]
    obtain ⟨b, hb⟩ : ∃ b : Nat, (e + 1023 + 52).toNat = b := ⟨_, rfl⟩
    simp only [bias, Nat.cast_ofNat, hb]
    have fits : ¬ 2 ^ 11 ≤ b + 1 := by omega
    rw [if_neg fits]
    split
    · rw [unpackExponent_packComponents]
      intro eq
      have number := congrArg BitVec.toNat eq
      rw [BitVec.toNat_ofNat] at number
      simp at number
      omega
    · rw [unpackExponent_packComponents]
      decide

/-- A finite number has an exponent that fits its bits. -/
theorem inRange_parts {x : Float} (h : x.isFinite = true) : InRange (parts x) := by
  change (UnpackedFloat.unpack .binary64 (bitsOf x)).isFinite = true at h
  change InRange (UnpackedFloat.unpack .binary64 (bitsOf x))
  rw [UnpackedFloat.unpack] at h ⊢
  simp only at h ⊢
  have width : (unpackExponent (bitsOf x)).toNat < 2 ^ 11 := (unpackExponent (bitsOf x)).isLt
  have bias : (Format.binary64.exponentBias : Int) = 1023 := rfl
  split at h
  · split at h <;> cases h
  · next some =>
    rw [if_neg some]
    split
    · next least =>
      split
      · exact .zero _
      · refine .finite ?_
        rw [least, topExponent, bias]
        decide
    · refine .finite ?_
      have notTop : (unpackExponent (bitsOf x)).toNat ≠ 2 ^ 11 - 1 := fun top =>
        some (BitVec.eq_of_toNat_eq top)
      rw [topExponent, bias]
      omega

theorem isFinite_neg {x : Float} (h : x.isFinite = true) : (-x).isFinite = true :=
  (inRange_parts h).neg.isFinite

/-! ## One rounding -/

/-- A number in range has a bit to spare at its exponent, also when it is rounded up. -/
theorem log2_add_le {m r : Nat} {e : Int} (he : e ≤ topExponent) (h : valueAt m e < largest)
    (hr : r ≤ m + 1) : (r.log2 : Int) + e ≤ 1023 := by
  rw [topExponent] at he
  obtain ⟨j, hj⟩ : ∃ j : Nat, topExponent = e + j := ⟨(971 - e).toNat, by rw [topExponent]; omega⟩
  have below : m < (2 ^ 53 - 1) * 2 ^ j := by
    rw [largest, hj, valueAt_add, valueAt, valueAt, mul_right_comm] at h
    exact_mod_cast lt_of_mul_lt_mul_right h (by positivity)
  have room : r < 2 ^ (53 + j) := by
    have positive := Nat.two_pow_pos j
    rw [Nat.pow_add]
    omega
  have bits : r.log2 < 53 + j := by
    rcases Nat.eq_zero_or_pos r with rfl | positive
    · rw [Nat.log2_zero]
      omega
    · exact (Nat.log2_lt (by omega)).2 room
  rw [topExponent] at hj
  omega

theorem shiftToTargetExponent_le {m : Nat} {e : Int} (acc : Accuracy) (he : e ≤ topExponent)
    (h : (m.log2 : Int) + e ≤ 1023) :
    (shiftToTargetExponent .binary64 m e acc).2 ≤ topExponent := by
  rw [topExponent] at he ⊢
  simp only [shiftToTargetExponent, shiftToExponent, Format.targetExponent, totalExponent,
    Format.mantissaBits, Format.minExponent]
  omega

/-- A shift makes no number larger. -/
theorem valueAt_shiftToTargetExponent_le (m : Nat) (e : Int) (acc : Accuracy) :
    valueAt (shiftToTargetExponent .binary64 m e acc).1.mantissa
      (shiftToTargetExponent .binary64 m e acc).2 ≤ valueAt m e := by
  have mantissa : (ExtendedMantissa.ofMantissaAndAccuracy m acc).mantissa = m := by
    rcases acc with _ | _ | _ | _ <;> rfl
  simp only [shiftToTargetExponent, shiftToExponent, mantissa_shiftRight, mantissa]
  generalize (Format.binary64.targetExponent (totalExponent m e) - e).toNat = k
  rw [valueAt_add, valueAt, mul_right_comm]
  refine mul_le_mul_of_nonneg_right ?_ (by positivity)
  exact_mod_cast Nat.div_mul_le_self m (2 ^ k)

/-- **One rounding** of a number below the largest leaves it in range. -/
theorem inRange_roundWithAccuracy (sign : Sign) {m : Nat} {e : Int} (acc : Accuracy)
    (he : e ≤ topExponent) (h : valueAt m e < largest) :
    InRange (roundWithAccuracy .binary64 sign m e acc) := by
  -- Rounding up may take one bit more, for which there is room as well.
  have first := shiftToTargetExponent_le acc he (log2_add_le he h (Nat.le_succ m))
  have value := (valueAt_shiftToTargetExponent_le m e acc).trans_lt h
  have up := roundedMantissa_le (shiftToTargetExponent .binary64 m e acc).1
  rw [roundWithAccuracy]
  dsimp only
  split
  · exact .zero _
  · exact .finite (shiftToTargetExponent_le .exact first (log2_add_le first value up))

/-! ## Products and quotients -/

theorem inRange_mul {sign₁ sign₂ : Sign} {m₁ m₂ : Nat} {e₁ e₂ : Int} {h₁ : 0 < m₁} {h₂ : 0 < m₂}
    (he : e₁ + e₂ ≤ topExponent) (h : valueAt m₁ e₁ * valueAt m₂ e₂ < largest) :
    InRange (UnpackedFloat.mul .binary64 (.finite sign₁ m₁ e₁ h₁) (.finite sign₂ m₂ e₂ h₂)) :=
  inRange_roundWithAccuracy _ _ he (by rwa [valueAt_mul])

theorem divCore_exponent_le (m₁ m₂ : Nat) (e₁ e₂ : Int) :
    (divCore .binary64 m₁ e₁ m₂ e₂).2.1 ≤ e₁ - e₂ :=
  min_le_left _ _

/-- A quotient drops a fraction. -/
theorem valueAt_divCore_le {m₁ m₂ : Nat} (e₁ e₂ : Int) (h₂ : 0 < m₂) :
    valueAt (divCore .binary64 m₁ e₁ m₂ e₂).1 (divCore .binary64 m₁ e₁ m₂ e₂).2.1 ≤
      valueAt m₁ e₁ / valueAt m₂ e₂ := by
  have least := divCore_exponent_le m₁ m₂ e₁ e₂
  obtain ⟨k, hk⟩ : ∃ k : Nat, (divCore .binary64 m₁ e₁ m₂ e₂).2.1 = e₁ - e₂ - k :=
    ⟨(e₁ - e₂ - (divCore .binary64 m₁ e₁ m₂ e₂).2.1).toNat, by omega⟩
  have quotient : (divCore .binary64 m₁ e₁ m₂ e₂).1 = m₁ <<< k / m₂ := by
    have amount : (e₁ - e₂ - (divCore .binary64 m₁ e₁ m₂ e₂).2.1).toNat = k := by omega
    rw [← amount]
    rfl
  have positive : (0 : ℚ) < m₂ := by exact_mod_cast h₂
  have scale : valueAt m₁ e₁ / valueAt m₂ e₂ = valueAt m₁ (e₁ - e₂) / m₂ := by
    rw [valueAt, valueAt, valueAt, zpow_sub₀ (by norm_num)]
    field_simp
  rw [hk, quotient, scale, le_div_iff₀ positive, ← valueAt_shiftLeft m₁ k, valueAt, valueAt,
    mul_right_comm]
  refine mul_le_mul_of_nonneg_right ?_ (by positivity)
  exact_mod_cast Nat.div_mul_le_self (m₁ <<< k) m₂

theorem inRange_div {sign₁ sign₂ : Sign} {m₁ m₂ : Nat} {e₁ e₂ : Int} {h₁ : 0 < m₁} {h₂ : 0 < m₂}
    (he : e₁ - e₂ ≤ topExponent) (h : valueAt m₁ e₁ / valueAt m₂ e₂ < largest) :
    InRange (UnpackedFloat.div .binary64 (.finite sign₁ m₁ e₁ h₁) (.finite sign₂ m₂ e₂ h₂)) :=
  inRange_roundWithAccuracy _ _ ((divCore_exponent_le m₁ m₂ e₁ e₂).trans he)
    ((valueAt_divCore_le e₁ e₂ h₂).trans_lt h)

/-! ## Digits and a power of ten -/

theorem largest_eq : largest = ((2 ^ 53 - 1) * 2 ^ 971 : Nat) := by
  have power : (2 : ℚ) ^ topExponent = 2 ^ 971 := zpow_natCast 2 971
  rw [largest, valueAt, power, Nat.cast_mul, Nat.cast_pow, Nat.cast_ofNat]

theorem lt_largest : (10 : ℚ) ^ 308 < largest := by
  have naturals : 10 ^ 308 < (2 ^ 53 - 1) * 2 ^ 971 := by decide +kernel
  rw [largest_eq]
  exact_mod_cast naturals

theorem largest_lt : largest < (10 : ℚ) ^ 309 := by
  have naturals : (2 ^ 53 - 1) * 2 ^ 971 < 10 ^ 309 := by decide +kernel
  rw [largest_eq]
  exact_mod_cast naturals

theorem exponent_lt_of_lt_largest {n : Nat} {e : Int} (hn : 0 < n)
    (h : (n : ℚ) * 10 ^ e < largest) : e < 309 := by
  by_contra large
  have one : (1 : ℚ) ≤ n := by exact_mod_cast hn
  have power : (10 : ℚ) ^ 309 ≤ 10 ^ e := by
    exact_mod_cast zpow_le_zpow_right₀ (by norm_num : (1 : ℚ) ≤ 10) (not_lt.1 large)
  have product : (10 : ℚ) ^ e ≤ n * 10 ^ e := le_mul_of_one_le_left (by positivity) one
  exact (power.trans product).not_gt (h.trans largest_lt)

theorem inRange_ofScientific {n : Nat} {e : Int} (hn : 0 < n) (h : (n : ℚ) * 10 ^ e < largest) :
    InRange (UnpackedFloat.ofScientific .binary64 n e) := by
  have small := exponent_lt_of_lt_largest hn h
  have width : Format.binary64.exponentBits = 11 := rfl
  rw [UnpackedFloat.ofScientific, dif_neg (by omega), if_neg (by rw [width]; omega)]
  split
  · exact .zero _
  · split
    · next natural =>
      obtain ⟨k, rfl⟩ := Int.eq_ofNat_of_zero_le natural
      refine inRange_mul (by decide) ?_
      have digits : valueAt (n <<< 53) (0 - (53 : Nat)) = n := by
        rw [valueAt_shiftLeft, valueAt, zpow_zero, mul_one]
      have power : valueAt (10 ^ k) 0 = 10 ^ (k : Int) := by
        rw [valueAt, zpow_zero, mul_one, zpow_natCast]
        push_cast
        rfl
      rw [← digits, ← power] at h
      exact h
    · next negative =>
      obtain ⟨k, rfl⟩ : ∃ k : Nat, e = -(k : Int) := ⟨(-e).toNat, by omega⟩
      refine inRange_div (by decide) ?_
      rw [zpow_neg, zpow_natCast, ← div_eq_mul_inv] at h
      simpa [valueAt] using h

theorem two_pow_lt_largest : (2 : ℚ) ^ 53 * 2 ^ 74 < largest :=
  calc (2 : ℚ) ^ 53 * 2 ^ 74 < 10 ^ 100 := by norm_num
    _ ≤ 10 ^ 308 := pow_le_pow_right₀ (by norm_num) (by norm_num)
    _ < largest := lt_largest

/-- A number from one up to `2 ^ 74`. -/
def isModerate : UnpackedFloat → Bool
  | .finite .positive m e _ => 2 ^ 52 ≤ m && m < 2 ^ 53 && -52 ≤ e && e ≤ 21
  | _ => false

theorem isModerate_powers : ∀ k : Fin 23,
    isModerate (parts Float.exactlyRepresentablePowersOfTen[k]) = true := by
  decide +kernel

theorem exists_of_isModerate {u : UnpackedFloat} (h : isModerate u = true) :
    ∃ m e pos, u = .finite .positive m e pos ∧ -52 ≤ e ∧ e ≤ 21 ∧ 1 ≤ valueAt m e ∧
      valueAt m e < 2 ^ 74 := by
  unfold isModerate at h
  split at h
  · next m e pos =>
    simp only [Bool.and_eq_true, decide_eq_true_eq] at h
    obtain ⟨⟨⟨low, high⟩, least⟩, greatest⟩ := h
    refine ⟨m, e, pos, rfl, least, greatest, ?_, ?_⟩
    · calc (1 : ℚ) = valueAt (2 ^ 52) (-52) := by norm_num [valueAt]
        _ ≤ valueAt m (-52) := valueAt_mono low _
        _ ≤ valueAt m e := mul_le_mul_of_nonneg_left
          (zpow_le_zpow_right₀ (by norm_num) least) (by positivity)
    · have bits : (m : ℚ) < 2 ^ 53 := by exact_mod_cast high
      calc valueAt m e < 2 ^ 53 * 2 ^ e := mul_lt_mul_of_pos_right bits (by positivity)
        _ ≤ 2 ^ 53 * 2 ^ (21 : Int) := mul_le_mul_of_nonneg_left
          (zpow_le_zpow_right₀ (by norm_num) greatest) (by positivity)
        _ = 2 ^ 74 := by norm_num
  · cases h

/-- **Digits and a power of ten** below the largest number are read as a finite number. -/
theorem isFinite_ofScientific {n k : Nat} (down : Bool) (hn : 0 < n)
    (h : (n : ℚ) * 10 ^ (if down then -(k : Int) else k) < largest) :
    (Float.ofScientific n down k).isFinite = true := by
  rw [Float.ofScientific]
  split
  · next small =>
    obtain ⟨m, e, pos, hx, -, value, least, greatest⟩ := exists_parts_toFloat hn small.1
    have log : n.log2 < 53 := (Nat.log2_lt (by omega)).2 small.1
    obtain ⟨m', e', pos', hy, least', greatest', low, high⟩ :=
      exists_of_isModerate (isModerate_powers ⟨k, by omega⟩)
    rw [Fin.getElem_fin] at hy
    have digits : valueAt m e < 2 ^ 53 := by
      rw [value]
      exact_mod_cast small.1
    dsimp only
    split
    · change (Float.ofModel (.pack (UnpackedFloat.div .binary64 (parts _) (parts _)))).isFinite = _
      rw [hx, hy]
      refine (inRange_div (by rw [topExponent]; omega) ?_).isFinite
      calc valueAt m e / valueAt m' e' ≤ valueAt m e := div_le_self (by rw [value]; positivity) low
        _ < 2 ^ 53 := digits
        _ < 2 ^ 53 * 2 ^ 74 := by norm_num
        _ < largest := two_pow_lt_largest
    · change (Float.ofModel (.pack (UnpackedFloat.mul .binary64 (parts _) (parts _)))).isFinite = _
      rw [hx, hy]
      refine (inRange_mul (by rw [topExponent]; omega) ?_).isFinite
      calc valueAt m e * valueAt m' e' < 2 ^ 53 * 2 ^ 74 :=
          mul_lt_mul'' digits high (by rw [value]; positivity) (by linarith)
        _ < largest := two_pow_lt_largest
  · refine (inRange_ofScientific (e := if down then Int.negOfNat k else Int.ofNat k) hn ?_).isFinite
    rwa [Int.negOfNat_eq]

/-! ## Numerals -/

theorem digitValue_lt {c : Char} (h : isDigit c = true) : digitValue c < 10 := by
  rw [isDigit_iff] at h
  have zero : '0'.toNat = 0x30 := rfl
  rw [digitValue]
  omega

theorem digitValue_pos {c : Char} (h : isDigit c = true) (nonzero : c ≠ '0') :
    0 < digitValue c := by
  rw [isDigit_iff] at h
  have zero : '0'.toNat = 0x30 := rfl
  have other : c.toNat ≠ 0x30 := fun eq => nonzero (Char.toNat_inj.1 eq)
  rw [digitValue]
  omega

theorem digitsValue_cons (c : Char) (cs : List Char) :
    digitsValue (c :: cs) = digitValue c * 10 ^ cs.length + digitsValue cs := by
  have one : digitsValue [c] = digitValue c := by simp [digitsValue]
  rw [← List.singleton_append, digitsValue_append, one]

theorem digitsValue_lt {ds : List Char} (h : ∀ c ∈ ds, isDigit c = true) :
    digitsValue ds < 10 ^ ds.length := by
  induction ds with
  | nil => decide
  | cons c cs ih =>
    rw [List.forall_mem_cons] at h
    have first := digitValue_lt h.1
    have rest := ih h.2
    rw [digitsValue_cons, List.length_cons, Nat.pow_succ]
    have scaled := Nat.mul_le_mul_right (10 ^ cs.length) (Nat.le_of_lt_succ first)
    omega

/-- Zeros in front of the digits do not count. -/
theorem digitsValue_dropZeros (ds : List Char) :
    digitsValue (ds.dropWhile (· = '0')) = digitsValue ds := by
  have zeros : ds.takeWhile (· = '0') = List.replicate (ds.takeWhile (· = '0')).length '0' :=
    List.eq_replicate_of_mem fun c hc => by simpa using List.all_eq_true.1 List.all_takeWhile c hc
  conv => rhs; rw [← List.takeWhile_append_dropWhile (p := (· = '0')) (l := ds), zeros,
    digitsValue_append, digitsValue_zeros, Nat.zero_mul, Nat.zero_add]

/-- Without zeros in front, the number of digits tells the size. -/
theorem pow_le_digitsValue {c : Char} {cs : List Char} (h : isDigit c = true) (nonzero : c ≠ '0') :
    10 ^ cs.length ≤ digitsValue (c :: cs) := by
  rw [digitsValue_cons]
  exact (Nat.le_mul_of_pos_left _ (digitValue_pos h nonzero)).trans (Nat.le_add_right _ _)

namespace Numeral

/-- The magnitude that the numeral stands for. -/
def magnitude (n : Numeral) : ℚ :=
  digitsValue (n.whole ++ n.fraction) * 10 ^ (n.exponent - n.fraction.length)

/-- **A numeral below the largest number** is read as a finite number. -/
theorem isFinite_toFloat {n : Numeral} (digits : ∀ c ∈ n.whole ++ n.fraction, isDigit c = true)
    (h : n.magnitude < largest) : n.toFloat.isFinite = true := by
  obtain ⟨ds, hds⟩ : ∃ ds, (n.whole ++ n.fraction).dropWhile (· = '0') = ds := ⟨_, rfl⟩
  obtain ⟨e, he⟩ : ∃ e : Int, n.exponent - n.fraction.length = e := ⟨_, rfl⟩
  rw [magnitude, ← digitsValue_dropZeros, hds, he] at h
  rw [toFloat]
  simp only [hds, he]
  have signed : ∀ x : Float, x.isFinite = true →
      (if n.negative then -x else x).isFinite = true := by
    intro x hx
    split
    · exact isFinite_neg hx
    · exact hx
  refine signed _ ?_
  split
  · rfl
  · next some =>
    obtain ⟨c, cs, rfl⟩ := List.exists_cons_of_ne_nil (mt List.isEmpty_iff.2 some)
    have digit : isDigit c = true :=
      digits c ((List.dropWhile_suffix _).subset (hds ▸ List.mem_cons_self))
    have nonzero : c ≠ '0' := by
      have first := List.head?_dropWhile_not (fun c : Char => decide (c = '0'))
        (n.whole ++ n.fraction)
      rw [hds] at first
      simpa using first
    have size : 10 ^ cs.length ≤ digitsValue (c :: cs) := pow_le_digitsValue digit nonzero
    have positive : 0 < digitsValue (c :: cs) := (Nat.pow_pos (by decide)).trans_le size
    -- Too many digits in front of the point would be too large a number.
    have short : (cs.length : Int) + e < 309 := by
      refine exponent_lt_of_lt_largest Nat.one_pos (lt_of_le_of_lt ?_ h)
      rw [Nat.cast_one, one_mul, zpow_add₀ (by norm_num), zpow_natCast]
      exact mul_le_mul_of_nonneg_right (by exact_mod_cast size) (by positivity)
    have notLarge : ¬ e + (c :: cs).length > 310 := by
      rw [List.length_cons]
      omega
    rw [if_neg notLarge]
    split
    · rfl
    · refine isFinite_ofScientific _ positive ?_
      have power : (if decide (e < 0) then -(e.natAbs : Int) else e.natAbs) = e := by
        split
        · next down =>
          rw [decide_eq_true_eq] at down
          omega
        · next up =>
          rw [decide_eq_true_eq] at up
          omega
      rwa [power]

/-- Without an exponent, a fraction adds less than one to the whole part. -/
theorem magnitude_lt {n : Numeral} (digits : ∀ c ∈ n.fraction, isDigit c = true)
    (exponent : n.exponent = 0) : n.magnitude < digitsValue n.whole + 1 := by
  have fraction : (digitsValue n.fraction : ℚ) < 10 ^ n.fraction.length := by
    exact_mod_cast digitsValue_lt digits
  rw [magnitude, exponent, zero_sub, zpow_neg, zpow_natCast, ← div_eq_mul_inv,
    div_lt_iff₀ (by positivity), digitsValue_append]
  push_cast
  linarith

end Numeral

end ContractDocs.Decimal
