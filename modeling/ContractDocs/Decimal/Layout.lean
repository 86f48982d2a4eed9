/-
How numbers are written: as display text (plain digits, never an exponent)
and as JSON text (always recognisable as a fraction, with an exponent for
the very large and the very small).
-/
import ContractDocs.Decimal.Shortest

namespace ContractDocs.Decimal

def digitChars (n : Nat) : List Char := Nat.toDigits 10 n

/-- Digits before and after the point, for `digits * 10 ^ exponent`. -/
def Scientific.split (s : Scientific) : List Char × List Char :=
  let ds := digitChars s.digits
  if 0 ≤ s.exponent then (ds ++ List.replicate s.exponent.toNat '0', [])
  else
    let places := (-s.exponent).toNat
    if places < ds.length then (ds.take (ds.length - places), ds.drop (ds.length - places))
    else (['0'], List.replicate (places - ds.length) '0' ++ ds)

/-- Positional text without a superfluous point: `12`, `0.05`. -/
def Scientific.positional (s : Scientific) : List Char :=
  match s.split with
  | (whole, []) => whole
  | (whole, fraction) => whole ++ '.' :: fraction

/-- Positional text with at least one digit after the point: `12.0`, `0.05`. -/
def Scientific.positionalFraction (s : Scientific) : List Char :=
  match s.split with
  | (whole, []) => whole ++ ['.', '0']
  | (whole, fraction) => whole ++ '.' :: fraction

/-- The power of ten of the first digit. -/
def Scientific.leadingExponent (s : Scientific) : Int :=
  s.exponent + (digitChars s.digits).length - 1

/-- Text with an exponent, which always has a sign: `1e+16`, `1.5e-10`. -/
def Scientific.exponential (s : Scientific) : List Char :=
  let e := s.leadingExponent
  let exponent := (if e < 0 then '-' else '+') :: digitChars e.natAbs
  match digitChars s.digits with
  | [] => 'e' :: exponent
  | [d] => d :: 'e' :: exponent
  | d :: ds => d :: '.' :: ds ++ 'e' :: exponent

def signed (negative : Bool) (text : List Char) : List Char :=
  if negative then '-' :: text else text

/-- **Display text.** Plain digits of the shortest decimal, two equally near ones going up; a zero
has no sign. -/
def display (x : Float) : List Char :=
  if x.isNaN then ['N', 'a', 'N']
  else if x.isInf then signed (isNegative x) ['i', 'n', 'f']
  else
    let b := Binary.ofFloat x
    if b.significand = 0 then ['0']
    else signed (isNegative x) (shortest .up b).positional

/-- **JSON text** of a finite number. Positional when the first digit stands for a power of ten
from -5 to 15, with an exponent otherwise; two equally near decimals go to the even digit. -/
def json (x : Float) : List Char :=
  let b := Binary.ofFloat x
  let text :=
    if b.significand = 0 then ['0', '.', '0']
    else
      let s := shortest .toEven b
      if -5 ≤ s.leadingExponent && s.leadingExponent < 16 then s.positionalFraction
      else s.exponential
  signed (isNegative x) text

/-- Display text as a string. -/
def displayText (x : Float) : String := String.ofList (display x)

end ContractDocs.Decimal
