/-
Writing dates by a pattern. A piece that asks for a time of day or an offset
has no text.
-/
import ContractDocs.Calendar.Date
import ContractDocs.Calendar.Pattern
import ContractDocs.Decimal.Layout

namespace ContractDocs.Calendar

/-- The names of the months. -/
def monthNames : List String :=
  ["January", "February", "March", "April", "May", "June", "July", "August", "September",
    "October", "November", "December"]

/-- The names of the days of the week, Monday first. -/
def weekdayNames : List String :=
  ["Monday", "Tuesday", "Wednesday", "Thursday", "Friday", "Saturday", "Sunday"]

/-- A name in full, or its first three letters. -/
def nameChars (names : List String) (index : Nat) (full : Bool) : List Char :=
  let name := (names.getD index "").toList
  if full then name else name.take 3

/-- Fills up to a width on the left. -/
def fill (c : Char) (width : Nat) (cs : List Char) : List Char :=
  List.replicate (width - cs.length) c ++ cs

/-- A number of at least `width` characters, unless it is not filled up. -/
def padNat (pad : Pad) (width n : Nat) : List Char :=
  let ds := Decimal.digitChars n
  match pad with
  | .none => ds
  | .space => fill ' ' width ds
  | .zero => fill '0' width ds

/-- A year: four digits, and with its sign when it is not one from 0 to 9999. -/
def padYear (pad : Pad) (year : Int) : List Char :=
  if 0 ≤ year && year ≤ 9999 then padNat pad 4 year.toNat
  else
    let sign := if year < 0 then '-' else '+'
    let ds := Decimal.digitChars year.natAbs
    match pad with
    | .none => sign :: ds
    | .space => fill ' ' 5 (sign :: ds)
    | .zero => sign :: fill '0' 4 ds

/-- A century in two characters. Only its remainder modulo 256 is written, and a tens place of ten
or more by the characters that follow `9`. -/
def padCentury (pad : Pad) (century : Int) : List Char :=
  let n := (century % 256).toNat
  let ones := Nat.digitChar (n % 10)
  match pad, n / 10 with
  | .none, 0 => [ones]
  | .space, 0 => [' ', ones]
  | _, tens => [Char.ofNat ('0'.toNat + tens), ones]

/-- The text of a number of a date. -/
def NumberKind.format? (d : Date) (pad : Pad) : NumberKind → Option (List Char)
  | .year => some (padYear pad d.year)
  | .century => some (padCentury pad (d.year / 100))
  | .yearOfCentury => some (padNat pad 2 (d.year % 100).toNat)
  | .isoYear => some (padYear pad d.isoWeek.1)
  | .isoYearOfCentury => some (padNat pad 2 (d.isoWeek.1 % 100).toNat)
  | .quarter => some (padNat .none 1 d.quarter)
  | .month => some (padNat pad 2 d.month)
  | .day => some (padNat pad 2 d.day)
  | .weekFromSunday => some (padNat pad 2 (d.weekFrom .sunday))
  | .weekFromMonday => some (padNat pad 2 (d.weekFrom .monday))
  | .isoWeek => some (padNat pad 2 d.isoWeek.2)
  | .daysSinceSunday => some (padNat .none 1 d.weekday.sinceSunday)
  | .dayOfWeek => some (padNat .none 1 (d.weekday.sinceMonday + 1))
  | .ordinal => some (padNat pad 3 d.ordinal)
  | .hour | .hourOfHalf | .minute | .second | .nanosecond | .timestamp => none

/-- The text of a piece. -/
def Piece.format? (d : Date) : Piece → Option (List Char)
  | .literal c => some [c]
  | .space c => some [c]
  | .number kind pad => kind.format? d pad
  | .monthName full => some (nameChars monthNames (d.month - 1) full)
  | .weekdayName full => some (nameChars weekdayNames d.weekday.sinceMonday full)
  | .halfDay | .fraction | .fixedFraction _ | .fractionDigits _ | .zoneName | .offset _
  | .timeMark => none

/-- The text of a date by a pattern, unless the pattern asks for more than a date has. -/
def Pattern.format? (d : Date) (p : Pattern) : Option (List Char) :=
  (p.mapM (Piece.format? d)).map List.flatten

/-- A date as `YYYY-MM-DD`. -/
def Date.text (d : Date) : String :=
  String.ofList
    (padYear .zero d.year ++ '-' :: padNat .zero 2 d.month ++ '-' :: padNat .zero 2 d.day)

end ContractDocs.Calendar
