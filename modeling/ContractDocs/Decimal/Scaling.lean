/-
The numbers of JSON text: as many digits as fit sixty-four bits, scaled by a
power of ten.

The digits are made binary and scaled in one step, two for the smallest
numbers. Each step rounds, so the result is the nearest binary number or one
close to it; `Numeral.toFloat` is always the nearest.
-/
import ContractDocs.Decimal.Numeral
import ContractDocs.Decimal.Shortest

namespace ContractDocs.Decimal

namespace Scientific

/-- One digit more, if the digits still fit sixty-four bits. -/
def push? (digits : Nat) (c : Char) : Option Nat :=
  let next := 10 * digits + digitValue c
  if next < 18446744073709551616 then some next else none

/-- Takes digits in front of the point. From the first one that does not fit, each only counts as a
power of ten. -/
def takeWhole (s : Scientific) : List Char → Scientific
  | [] => s
  | c :: cs =>
    match push? s.digits c with
    | some n => takeWhole ⟨n, s.exponent⟩ cs
    | none => ⟨s.digits, s.exponent + (c :: cs).length⟩

/-- Takes digits behind the point, up to the first one that does not fit. -/
def takeFraction (s : Scientific) : List Char → Scientific
  | [] => s
  | c :: cs =>
    match push? s.digits c with
    | some n => takeFraction ⟨n, s.exponent - 1⟩ cs
    | none => s

/-- The magnitude of a numeral, with no more digits than fit sixty-four bits. -/
def ofNumeral (n : Numeral) : Scientific :=
  let s := (takeWhole ⟨0, 0⟩ n.whole).takeFraction n.fraction
  ⟨s.digits, s.exponent + n.exponent⟩

/-- The binary number nearest to a power of ten. -/
def powerOfTen (k : Nat) : Float := Float.ofScientific 1 false k

/-- The digits scaled by the power of ten, unless that is too large. No power beyond `10 ^ 308` is a
binary number: a division by one is done in two steps, and two divisions by `10 ^ 308` leave nothing
of sixty-four bits. -/
def scale? (s : Scientific) : Option Float :=
  let x := Float.ofNat s.digits
  if 308 < s.exponent then if s.digits = 0 then some x else none
  else if 0 ≤ s.exponent then
    let y := x * powerOfTen s.exponent.toNat
    if y.isFinite then some y else none
  else if -308 ≤ s.exponent then some (x / powerOfTen (-s.exponent).toNat)
  else if -616 ≤ s.exponent then
    some (x / powerOfTen 308 / powerOfTen (-s.exponent - 308).toNat)
  else some 0

end Scientific

/-- The numeral scaled; none if its magnitude is too large. -/
def Numeral.scaled? (n : Numeral) : Option Float :=
  (Scientific.ofNumeral n).scale?.map fun x => if n.negative then -x else x

end ContractDocs.Decimal
