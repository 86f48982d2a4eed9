/-
The order of binary numbers. Two numbers are compared by their kinds first,
then by their exponents, then by their mantissas; what is not a number is not
comparable.

`compare_eq_compareKeys`: so the comparison is one of keys, and what holds of
an order of keys holds of it (`lt_of_le_of_lt`, `lt_of_lt_of_le`). Of finite
numbers one is always below the other or not above it (`le_of_not_lt`).
`toFloat_lt_toFloat`: whole numbers keep their order when they become binary.
-/
import ContractDocs.Proofs.WholeNumbers

namespace ContractDocs.Decimal

open Float.Model Float.Model.UnpackedFloat

/-! ## Keys -/

/-- What a number is compared by: its kind, its exponent and its mantissa. -/
def key : UnpackedFloat → Option (Int × Int × Int)
  | .notANumber => none
  | .infinity .negative => some (-2, 0, 0)
  | .finite .negative m e _ => some (-1, -e, -m)
  | .zero _ => some (0, 0, 0)
  | .finite .positive m e _ => some (1, e, m)
  | .infinity .positive => some (2, 0, 0)

/-- The first parts that differ decide. -/
def compareKeys : Int × Int × Int → Int × Int × Int → Ordering :=
  compareLex (compareOn (·.1)) (compareLex (compareOn (·.2.1)) (compareOn (·.2.2)))

instance : Std.TransCmp compareKeys := inferInstanceAs (Std.TransCmp (compareLex _ _))

theorem compare_neg (a b : Int) : compare (-a) (-b) = (compare a b).swap := by
  rw [Int.compare_swap, Int.compare_eq_ite_lt, Int.compare_eq_ite_lt]
  simp only [Int.neg_lt_neg_iff]

theorem compare_natCast (m n : Nat) : compare (m : Int) (n : Int) = compare m n := by
  simp only [Int.compare_eq_ite_lt, Nat.compare_eq_ite_lt, Int.ofNat_lt]

/-- Numbers are compared by their keys. -/
theorem compare_eq_compareKeys (u v : UnpackedFloat) :
    u.compare v = (key u).bind fun a => (key v).map fun b => compareKeys a b := by
  rcases u with (_ | _) | _ | _ | ⟨_ | _, m, e, hm⟩ <;>
    rcases v with (_ | _) | _ | _ | ⟨_ | _, m', e', hm'⟩ <;> try rfl
  · simp [UnpackedFloat.compare, key, compareKeys, compareLex, compareOn, compare_neg,
      compare_natCast, Ordering.swap_then]
  · simp [UnpackedFloat.compare, key, compareKeys, compareLex, compareOn, compare_natCast]

theorem compare_eq_some_iff {u v : UnpackedFloat} {o : Ordering} : u.compare v = some o ↔
    ∃ a b, key u = some a ∧ key v = some b ∧ compareKeys a b = o := by
  simp [compare_eq_compareKeys, Option.bind_eq_some_iff]

theorem lt_iff_keys {x y : Float} : x < y ↔
    ∃ a b, key (parts x) = some a ∧ key (parts y) = some b ∧ compareKeys a b = .lt := by
  rw [lt_iff_compare, compare_eq_some_iff]

theorem le_iff_compare {x y : Float} :
    x ≤ y ↔ ∃ o, (parts x).compare (parts y) = some o ∧ o.isLE = true := by
  have model : x ≤ y ↔ ((parts x).compare (parts y)).any (·.isLE) = true := by
    change Float.le x y = true ↔ _
    rw [Float.le, decide_eq_true_eq]
    rfl
  rw [model, Option.any_eq_true]

theorem le_iff_keys {x y : Float} : x ≤ y ↔
    ∃ a b, key (parts x) = some a ∧ key (parts y) = some b ∧ (compareKeys a b).isLE = true := by
  simp only [le_iff_compare, compare_eq_some_iff]
  grind

/-- Nothing is above what is not a number. -/
theorem not_lt_of_isNaN {x y : Float} (h : x.isNaN = true) : ¬ x < y := by
  intro lt
  obtain ⟨a, -, hx, -⟩ := lt_iff_keys.1 lt
  change (parts x).isNaN = true at h
  generalize parts x = u at h hx
  cases u with
  | notANumber => cases hx
  | infinity | zero | finite => cases h

theorem lt_of_le_of_lt {x y z : Float} (h : x ≤ y) (h' : y < z) : x < z := by
  obtain ⟨a, b, hx, hy, le⟩ := le_iff_keys.1 h
  obtain ⟨b', c, hy', hz, lt⟩ := lt_iff_keys.1 h'
  obtain rfl := Option.some.inj (hy.symm.trans hy')
  exact lt_iff_keys.2 ⟨a, c, hx, hz, Std.TransCmp.lt_of_isLE_of_lt le lt⟩

theorem lt_of_lt_of_le {x y z : Float} (h : x < y) (h' : y ≤ z) : x < z := by
  obtain ⟨a, b, hx, hy, lt⟩ := lt_iff_keys.1 h
  obtain ⟨b', c, hy', hz, le⟩ := le_iff_keys.1 h'
  obtain rfl := Option.some.inj (hy.symm.trans hy')
  exact lt_iff_keys.2 ⟨a, c, hx, hz, Std.TransCmp.lt_of_lt_of_isLE lt le⟩

theorem le_of_lt {x y : Float} (h : x < y) : x ≤ y :=
  le_iff_compare.2 ⟨.lt, lt_iff_compare.1 h, rfl⟩

theorem not_lt_self (x : Float) : ¬ x < x := by
  intro h
  obtain ⟨a, b, ha, hb, lt⟩ := lt_iff_keys.1 h
  obtain rfl := Option.some.inj (ha.symm.trans hb)
  have same : compareKeys a a = .eq := Std.ReflCmp.compare_self
  rw [same] at lt
  cases lt

/-! ## Finite numbers -/

/-- Finite numbers are above the negative infinity. -/
theorem exists_key_of_isFinite {x : Float} (h : x.isFinite = true) :
    ∃ a, key (parts x) = some a ∧ -2 < a.1 := by
  change (parts x).isFinite = true at h
  generalize parts x = u at h
  rcases u with _ | _ | _ | ⟨_ | _, m, e, pos⟩
  · cases h
  · cases h
  · exact ⟨_, rfl, show (-2 : Int) < 0 by decide⟩
  · exact ⟨_, rfl, show (-2 : Int) < -1 by decide⟩
  · exact ⟨_, rfl, show (-2 : Int) < 1 by decide⟩

theorem le_of_not_lt {x y : Float} (hx : x.isFinite = true) (hy : y.isFinite = true)
    (h : ¬ x < y) : y ≤ x := by
  obtain ⟨a, ha, -⟩ := exists_key_of_isFinite hx
  obtain ⟨b, hb, -⟩ := exists_key_of_isFinite hy
  refine le_iff_keys.2 ⟨b, a, hb, ha, ?_⟩
  have order : compareKeys a b ≠ .lt := fun lt => h (lt_iff_keys.2 ⟨a, b, ha, hb, lt⟩)
  have turned : compareKeys b a = (compareKeys a b).swap := Std.OrientedCmp.eq_swap
  rw [turned]
  cases less : compareKeys a b with
  | lt => exact absurd less order
  | eq => rfl
  | gt => rfl

/-- Only the negative infinity is below zero and not finite, and it is below every finite number. -/
theorem lt_of_not_isFinite {x y : Float} (infinite : x.isFinite = false) (below : x < 0)
    (hy : y.isFinite = true) : x < y := by
  obtain ⟨b, hb, low⟩ := exists_key_of_isFinite hy
  obtain ⟨a, zero, ha, hzero, lt⟩ := lt_iff_keys.1 below
  cases hzero
  refine lt_iff_keys.2 ⟨a, b, ha, hb, ?_⟩
  change (parts x).isFinite = false at infinite
  generalize parts x = u at infinite ha
  rcases u with (_ | _) | _ | _ | _
  · cases ha
    have first : compare (-2) b.1 = .lt := compare_lt_iff_lt.2 low
    simp [compareKeys, compareLex, compareOn, first]
  · cases ha
    cases lt
  · cases ha
  · cases infinite
  · cases infinite

/-! ## Whole numbers -/

theorem IsWhole.lt {x y : Float} {m n : Nat} (hx : IsWhole x m) (hy : IsWhole y n) (h : m < n) :
    x < y := by
  obtain ⟨a, e, pos, hx, full, value⟩ := hx
  obtain ⟨b, e', pos', hy, full', value'⟩ := hy
  rw [lt_iff_compare, hx, hy]
  refine congrArg some ((compare_eq_lt_iff full full').2 ?_)
  rw [value, value']
  exact_mod_cast h

theorem toFloat_uint32 (n : UInt32) : n.toFloat = n.toNat.toUInt64.toFloat := by
  have small : n.toNat < 2 ^ 32 := n.toNat_lt
  have same : n.toNat.toUInt64.toNat = n.toNat := by
    simp only [Nat.toUInt64_eq, UInt64.toNat_ofNat']
    omega
  change Float.ofModel (.pack (UnpackedFloat.ofNat .binary64 n.toNat)) =
    Float.ofModel (.pack (UnpackedFloat.ofNat .binary64 n.toNat.toUInt64.toNat))
  rw [same]

theorem isWhole_toFloat {n : UInt32} (h : 0 < n.toNat) : IsWhole n.toFloat n.toNat := by
  have small : n.toNat < 2 ^ 32 := n.toNat_lt
  obtain ⟨m, e, pos, parts, full, value, -⟩ := exists_parts_toFloat h (by omega)
  exact ⟨m, e, pos, by rw [toFloat_uint32, parts], full, value⟩

theorem IsWhole.zero_lt {x : Float} {n : Nat} (h : IsWhole x n) : (0 : UInt32).toFloat < x := by
  obtain ⟨m, e, pos, hx, full, value⟩ := h
  rw [lt_iff_compare, hx]
  rfl

theorem isFinite_uint32 (n : UInt32) : n.toFloat.isFinite = true := by
  rcases Nat.eq_zero_or_pos n.toNat with zero | positive
  · obtain rfl : n = 0 := UInt32.toNat_inj.1 zero
    decide
  · obtain ⟨m, e, pos, hx, -⟩ := isWhole_toFloat positive
    change (parts n.toFloat).isFinite = true
    rw [hx]
    rfl

/-- Whole numbers keep their order. -/
theorem toFloat_lt_toFloat {m n : UInt32} (h : m < n) : m.toFloat < n.toFloat := by
  have lt : m.toNat < n.toNat := h
  have whole := isWhole_toFloat (Nat.zero_lt_of_lt lt)
  rcases Nat.eq_zero_or_pos m.toNat with zero | positive
  · obtain rfl : m = 0 := UInt32.toNat_inj.1 zero
    exact whole.zero_lt
  · exact (isWhole_toFloat positive).lt whole lt

theorem toFloat_le_toFloat {m n : UInt32} (h : m ≤ n) : m.toFloat ≤ n.toFloat := by
  rcases Nat.eq_or_lt_of_le (h : m.toNat ≤ n.toNat) with same | lt
  · rw [UInt32.toNat_inj.1 same]
    exact le_of_not_lt (isFinite_uint32 n) (isFinite_uint32 n) (not_lt_self _)
  · exact le_of_lt (toFloat_lt_toFloat lt)

theorem toFloat_lt_toFloat_iff {m n : UInt32} : m.toFloat < n.toFloat ↔ m < n := by
  refine ⟨fun lt => ?_, toFloat_lt_toFloat⟩
  by_contra le
  exact not_lt_self _ (lt_of_lt_of_le lt (toFloat_le_toFloat (UInt32.not_lt.1 le)))

theorem zero_le_toFloat (n : UInt32) : (0 : Float) ≤ n.toFloat := by
  have zero : (0 : Float) = (0 : UInt32).toFloat := by decide
  rw [zero]
  exact toFloat_le_toFloat (UInt32.zero_le)

end ContractDocs.Decimal
