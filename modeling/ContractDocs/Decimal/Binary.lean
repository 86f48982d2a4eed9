/-
Binary floating-point numbers taken apart: the magnitude of a finite `Float`
is `significand * 2 ^ exponent`, read off its bits.
-/

namespace ContractDocs.Decimal

/-- A binary number `significand * 2 ^ exponent`. -/
structure Binary where
  significand : Nat
  exponent : Int
  /-- The neighbour below is half as far away as the neighbour above: the significand is the least
  of its binade, and there is a smaller binade. -/
  closeBelow : Bool
  deriving DecidableEq

/-- The eleven bits that hold the exponent. -/
def exponentBits (x : Float) : Nat := (x.toBits >>> 52).toNat % 2048

/-- The fifty-two bits that hold the fraction. -/
def fractionBits (x : Float) : Nat := x.toBits.toNat % Nat.pow 2 52

theorem fractionBits_lt (x : Float) : fractionBits x < Nat.pow 2 52 :=
  Nat.mod_lt _ (Nat.two_pow_pos 52)

/-- The sign bit, which zeros and infinities have too. -/
def isNegative (x : Float) : Bool := x.toBits >>> 63 == 1

/-- The magnitude of a finite number. -/
def Binary.ofFloat (x : Float) : Binary :=
  let e := exponentBits x
  let f := fractionBits x
  if e = 0 then ⟨f, -1074, false⟩
  else ⟨Nat.pow 2 52 + f, (e : Int) - 1075, f = 0 && e ≠ 1⟩

/-- A fraction of natural numbers, the form in which magnitudes are compared exactly. -/
structure Ratio where
  num : Nat
  den : Nat

/-- The value `n * 2 ^ e` as a fraction. -/
def Ratio.ofPowerOfTwo (n : Nat) (e : Int) : Ratio := ⟨n * Nat.pow 2 e.toNat, Nat.pow 2 (-e).toNat⟩

/-- The value divided by `10 ^ k`. -/
def Ratio.scaleDown (r : Ratio) (k : Int) : Ratio :=
  ⟨r.num * Nat.pow 10 (-k).toNat, r.den * Nat.pow 10 k.toNat⟩

/-- The nearest whole number, a half going away from zero. -/
def Ratio.roundHalfUp (r : Ratio) : Nat := (2 * r.num + r.den) / (2 * r.den)

/-- The nearest whole number to `x`, a half going away from zero; the sign stays, also on zero.
What is not finite stays as it is. -/
def roundHalfAway (x : Float) : Float :=
  let b := Binary.ofFloat x
  if !x.isFinite || 0 ≤ b.exponent then x
  else
    let n := (Ratio.ofPowerOfTwo b.significand b.exponent).roundHalfUp
    if isNegative x then -(Float.ofNat n) else Float.ofNat n

end ContractDocs.Decimal
