/-
The shortest decimal of a binary number: the fewest digits that read back as
the same number, and of those the nearest to it.

A decimal reads back when it lies between the midpoints to the two
neighbours (the midpoints themselves count when the significand is even).
The grids of the powers of ten are tried from coarse to fine; the first with
a point in that interval fixes the number of digits. All arithmetic is on
natural numbers, so nothing is rounded on the way.
-/
import ContractDocs.Decimal.Binary

namespace ContractDocs.Decimal

/-- A decimal numeral `digits * 10 ^ exponent`. -/
structure Scientific where
  digits : Nat
  exponent : Int
  deriving DecidableEq

/-- Which of two equally near decimals is taken. -/
inductive Tie
  | toEven
  | up
  deriving DecidableEq

/-- The decimals that read back as one binary number, all over one denominator. -/
structure Interval where
  low : Nat
  value : Nat
  high : Nat
  den : Nat
  /-- The ends belong to it. -/
  closed : Bool

/-- The interval around `b`, measured in quarters of its last place. -/
def Binary.interval (b : Binary) : Interval :=
  let quarters (n : Nat) := (Ratio.ofPowerOfTwo n (b.exponent - 2)).num
  let m := 4 * b.significand
  { low := quarters (if b.closeBelow then m - 1 else m - 2)
    value := quarters m
    high := quarters (m + 2)
    den := (Ratio.ofPowerOfTwo 1 (b.exponent - 2)).den
    closed := b.significand % 2 = 0 }

/-- The number of decimal digits of `n`; zero has none. -/
def digitCount (n : Nat) : Nat := if n = 0 then 0 else (Nat.toDigits 10 n).length

/-- The least `e` with `num / den < 10 ^ e`, for a positive fraction. -/
def magnitude (num den : Nat) : Int :=
  if den ≤ num then digitCount (num / den)
  else 1 - (digitCount ((den + num - 1) / num - 1) : Int)

/-- The point of the grid of `10 ^ k` that reads back and is nearest to the value, if there is
one. -/
def Interval.nearest? (i : Interval) (tie : Tie) (k : Int) : Option Scientific :=
  let scale (n : Nat) := (Ratio.scaleDown ⟨n, i.den⟩ k).num
  let den := (Ratio.scaleDown ⟨0, i.den⟩ k).den
  let below := scale i.value / den
  let inside (n : Nat) : Bool :=
    if i.closed then scale i.low ≤ n * den && n * den ≤ scale i.high
    else scale i.low < n * den && n * den < scale i.high
  let distBelow := scale i.value - below * den
  let distAbove := (below + 1) * den - scale i.value
  let preferAbove : Bool :=
    distAbove < distBelow || (distAbove = distBelow && (tie = .up || below % 2 = 1))
  match 0 < below && inside below, inside (below + 1) with
  | true, true => some ⟨if preferAbove then below + 1 else below, k⟩
  | true, false => some ⟨below, k⟩
  | false, true => some ⟨below + 1, k⟩
  | false, false => none

/-- The shortest decimal of a positive number. Seventeen digits always read back, so the search
ends before its eighteen grids do. -/
def shortest (tie : Tie) (b : Binary) : Scientific :=
  let i := b.interval
  let top := magnitude i.value i.den
  ((List.range 18).findSome? fun (n : Nat) => i.nearest? tie (top - n)).getD ⟨b.significand, 0⟩

end ContractDocs.Decimal
