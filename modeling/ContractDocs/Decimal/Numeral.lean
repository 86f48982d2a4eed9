/-
Reading decimal numerals: `[sign] digits [. digits] [e [sign] digits]`, with
at least one digit before the exponent, rounded to the nearest binary
number.

A comma may group the whole part by thousands; `isGrouped` says which texts
with commas are numerals.
-/

namespace ContractDocs.Decimal

/-- A numeral in parts. The exponent is a power of ten. -/
structure Numeral where
  negative : Bool
  whole : List Char
  fraction : List Char
  exponent : Int
  deriving DecidableEq

/-- The ASCII digits. -/
def isDigit (c : Char) : Bool := '0' ≤ c && c ≤ '9'

def digitValue (c : Char) : Nat := c.toNat - '0'.toNat

/-- The number that a run of digits stands for. -/
def digitsValue (ds : List Char) : Nat := ds.foldl (fun n c => 10 * n + digitValue c) 0

/-- A sign, if there is one, and the rest: true for `-`. -/
def takeSign : List Char → Bool × List Char
  | '-' :: cs => (true, cs)
  | '+' :: cs => (false, cs)
  | cs => (false, cs)

/-- A run of at least one digit, optionally signed, and nothing else. -/
def signedDigits? (cs : List Char) : Option Int :=
  let (negative, ds) := takeSign cs
  if ds.isEmpty || !ds.all isDigit then none
  else some (if negative then -(digitsValue ds : Int) else digitsValue ds)

/-- Reads the part after the digits: nothing, or `e` with its exponent. -/
def exponentPart? : List Char → Option Int
  | [] => some 0
  | c :: cs => if c = 'e' || c = 'E' then signedDigits? cs else none

/-- Reads a numeral. The whole part or the fraction may be left out, not both. -/
def Numeral.ofChars? (cs : List Char) : Option Numeral :=
  let (negative, cs) := takeSign cs
  let whole := cs.takeWhile isDigit
  let (fraction, rest) := match cs.dropWhile isDigit with
    | '.' :: r => (r.takeWhile isDigit, r.dropWhile isDigit)
    | r => ([], r)
  if whole.isEmpty && fraction.isEmpty then none
  else (exponentPart? rest).map fun e => ⟨negative, whole, fraction, e⟩

/-- The nearest binary number; too large a magnitude gives an infinity, too small a one a zero. A
magnitude of 10^310 or more is beyond all finite numbers and one below 10^-330 is nearer to zero
than to any other, so powers beyond those are not computed. -/
def Numeral.toFloat (n : Numeral) : Float :=
  let digits := (n.whole ++ n.fraction).dropWhile (· = '0')
  let exponent := n.exponent - n.fraction.length
  let magnitude : Float :=
    if digits.isEmpty then 0
    else if exponent + digits.length > 310 then 1 / 0
    else if exponent + digits.length < -330 then 0
    else Float.ofScientific (digitsValue digits) (exponent < 0) exponent.natAbs
  if n.negative then -magnitude else magnitude

/-- Reads a numeral as a finite number. -/
def finite? (cs : List Char) : Option Float :=
  ((Numeral.ofChars? cs).map Numeral.toFloat).filter Float.isFinite

/-- Groups of a comma and three digits, then nothing or a point with at least one digit. -/
def isGroups : List Char → Bool
  | ',' :: a :: b :: c :: rest =>
    isDigit a && isDigit b && isDigit c
      && match rest with
        | [] => true
        | '.' :: fraction => !fraction.isEmpty && fraction.all isDigit
        | rest => isGroups rest
  | _ => false

/-- Thousands grouped by commas: an optional sign, one to three digits, at least one group of a
comma and three digits, and optionally a point with at least one digit. -/
def isGrouped (cs : List Char) : Bool :=
  let body := (takeSign cs).2
  let first := body.takeWhile isDigit
  !first.isEmpty && first.length ≤ 3 && isGroups (body.dropWhile isDigit)

/-- Reads a finite number that may have its thousands grouped. -/
def quantity? (cs : List Char) : Option Float :=
  if cs.contains ',' then
    if isGrouped cs then finite? (cs.filter (· ≠ ',')) else none
  else finite? cs

end ContractDocs.Decimal
