/-
What a text says about a date and a time of day: a list of clues, each a
quantity and its value. A clue is in its range and agrees with an earlier
one of the same quantity; a date is found when the clues determine one, and
it agrees with all of them.
-/
import ContractDocs.Calendar.Date

namespace ContractDocs.Calendar

/-- A quantity of a date or a time of day. Weekdays count from Monday as 0. -/
inductive Clue
  | year
  | century
  | yearOfCentury
  | isoYear
  | isoYearOfCentury
  | quarter
  | month
  | day
  | weekFromSunday
  | weekFromMonday
  | isoWeek
  | weekday
  | ordinal
  | halfDay
  | hourOfHalf
  | minute
  | second
  | nanosecond
  | timestamp
  | offset
  deriving DecidableEq

/-- The values a quantity may have. The widest are the numbers of thirty-two and of sixty-four
bits. -/
def Clue.range : Clue → Int × Int
  | .year | .isoYear => (-2147483648, 2147483647)
  | .century => (0, 2147483647)
  | .yearOfCentury | .isoYearOfCentury => (0, 99)
  | .quarter => (1, 4)
  | .month => (1, 12)
  | .day => (1, 31)
  | .weekFromSunday | .weekFromMonday => (0, 53)
  | .isoWeek => (1, 53)
  | .weekday => (0, 6)
  | .ordinal => (1, 366)
  | .halfDay => (0, 1)
  | .hourOfHalf => (0, 11)
  | .minute => (0, 59)
  | .second => (0, 60)
  | .nanosecond => (0, 999999999)
  | .timestamp => (-9223372036854775808, 9223372036854775807)
  | .offset => (-2147483648, 2147483647)

/-- What is known, each quantity at most once. -/
abbrev Clues := List (Clue × Int)

namespace Clues

def get? (cs : Clues) (c : Clue) : Option Int := cs.lookup c

/-- One clue more, unless it is out of range or contradicts an earlier one. -/
def add? (cs : Clues) (c : Clue) (value : Int) : Option Clues :=
  if value < c.range.1 || c.range.2 < value then none
  else
    match cs.get? c with
    | none => some ((c, value) :: cs)
    | some earlier => if earlier = value then some cs else none

/-- The year, from itself or from its last two digits and its century. Two digits alone mean a year
from 1970 to 2069; a century alone is not enough. -/
inductive YearClue
  | unknown
  | insufficient
  | known (year : Int)

def yearFrom (year century rest : Option Int) : YearClue :=
  match year, century, rest with
  | some y, _, _ => .known y
  | none, some q, some r => .known (q * 100 + r)
  | none, none, some r => .known (r + if r < 70 then 2000 else 1900)
  | none, some _, none => .insufficient
  | none, none, none => .unknown

/-- Does the date have this quantity at this value? What says nothing about a date always does. A
negative year has neither century nor year of the century. -/
def agrees (d : Date) : Clue × Int → Bool
  | (.year, v) => d.year = v
  | (.century, v) => 0 ≤ d.year && d.year / 100 = v
  | (.yearOfCentury, v) => 0 ≤ d.year && d.year % 100 = v
  | (.isoYear, v) => d.isoWeek.1 = v
  | (.isoYearOfCentury, v) => 0 ≤ d.isoWeek.1 && d.isoWeek.1 % 100 = v
  | (.quarter, v) => (d.quarter : Int) = v
  | (.month, v) => (d.month : Int) = v
  | (.day, v) => (d.day : Int) = v
  | (.weekFromSunday, v) => (d.weekFrom .sunday : Int) = v
  | (.weekFromMonday, v) => (d.weekFrom .monday : Int) = v
  | (.isoWeek, v) => (d.isoWeek.2 : Int) = v
  | (.weekday, v) => (d.weekday.sinceMonday : Int) = v
  | (.ordinal, v) => (d.ordinal : Int) = v
  | _ => true

/-- The date that the first sufficient set of clues determines: year, month and day; year and day
of the year; year, week and weekday; or ISO year, week and weekday. -/
def determined? (cs : Clues) (year isoYear : YearClue) : Option Date :=
  let weekday := (cs.get? .weekday).map fun w => Weekday.ofSinceMonday w.toNat
  let byIsoWeek : Option Date :=
    match isoYear, cs.get? .isoWeek, weekday with
    | .known y, some week, some w => Date.ofIsoWeek? y week.toNat w
    | _, _, _ => none
  match year with
  | .known y =>
    match cs.get? .month, cs.get? .day with
    | some month, some day => Date.of? y month.toNat day.toNat
    | _, _ =>
      match cs.get? .ordinal with
      | some n => Date.ofOrdinal? y n.toNat
      | none =>
        match cs.get? .weekFromSunday, cs.get? .weekFromMonday, weekday with
        | some week, _, some w => Date.ofWeek? y week.toNat w .sunday
        | none, some week, some w => Date.ofWeek? y week.toNat w .monday
        | _, _, _ => byIsoWeek
  | _ => byIsoWeek

/-- The date that the clues determine and none of them contradicts. -/
def date? (cs : Clues) : Option Date :=
  match yearFrom (cs.get? .year) (cs.get? .century) (cs.get? .yearOfCentury),
      yearFrom (cs.get? .isoYear) none (cs.get? .isoYearOfCentury) with
  | .insufficient, _ => none
  | year, isoYear => (cs.determined? year isoYear).filter fun d => cs.all (agrees d)

end Clues

end ContractDocs.Calendar
