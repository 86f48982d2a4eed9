/-
Whole months between two dates, counted in two ways.
-/
import ContractDocs.Calendar.Date

namespace ContractDocs

open Calendar

/-- How months between two dates are counted. -/
inductive DurationPolicy
  /-- Every thirty days are a month. -/
  | thirtyDayMonths
  /-- A month has passed when the same day of the next month is reached, or its last day when it is
  shorter. -/
  | calendarMonths
  deriving DecidableEq

namespace Calendar

/-- The days from one date to another, in groups of thirty; an incomplete group does not count. -/
def thirtyDayMonths (first last : Date) : Int := (last.dayNumber - first.dayNumber).tdiv 30

/-- The date `months` after `first` is later than `last`, or beyond the calendar. -/
def overshoots (first last : Date) (months : Nat) : Bool :=
  match first.addMonths? months with
  | some d => last < d
  | none => true

/-- Takes months off while that many after `first` are later than `last`. -/
def backOff (first last : Date) : Nat → Nat
  | 0 => 0
  | n + 1 => if overshoots first last (n + 1) then backOff first last n else n + 1

/-- The difference of the months alone, whatever the days. -/
def monthDifference (first last : Date) : Int :=
  (last.year - first.year) * 12 + last.month - first.month

/-- Whole calendar months from a date to one that is not before it. -/
def calendarMonthsForward (first last : Date) : Nat :=
  backOff first last (monthDifference first last).toNat

/-- Whole calendar months between two dates, negative when the second is before the first. -/
def calendarMonths (first last : Date) : Int :=
  if last < first then -(calendarMonthsForward last first : Int)
  else calendarMonthsForward first last

end Calendar

/-- The whole months from one date to another. -/
def DurationPolicy.elapsedMonths (p : DurationPolicy) (first last : Date) : Int :=
  match p with
  | .thirtyDayMonths => Calendar.thirtyDayMonths first last
  | .calendarMonths => Calendar.calendarMonths first last

end ContractDocs
