/-
Calendar dates of the Gregorian calendar, continued without change before its
introduction and with a year zero, from the year -262143 to 262142.

Dates are ordered by their day numbers, which count days from the end of the
year zero.
-/

namespace ContractDocs.Calendar

/-- The first year of the calendar. -/
def minYear : Int := -262143

/-- The last year of the calendar. -/
def maxYear : Int := 262142

/-- Every fourth year, but of the full centuries only every fourth. -/
def isLeap (year : Int) : Bool := year % 4 = 0 && (year % 100 ≠ 0 || year % 400 = 0)

def daysInYear (year : Int) : Nat := if isLeap year then 366 else 365

/-- The lengths of the months. -/
def monthLengths (year : Int) : List Nat :=
  [31, if isLeap year then 29 else 28, 31, 30, 31, 30, 31, 31, 30, 31, 30, 31]

/-- The number of days of a month; none for what is not a month. -/
def daysInMonth (year : Int) (month : Nat) : Nat := (monthLengths year).getD (month - 1) 0

/-- A day of the calendar. -/
structure Date where
  year : Int
  month : Nat
  day : Nat
  year_mem : minYear ≤ year ∧ year ≤ maxYear
  month_mem : 1 ≤ month ∧ month ≤ 12
  day_mem : 1 ≤ day ∧ day ≤ daysInMonth year month
  deriving DecidableEq

/-- A day of the week. -/
inductive Weekday
  | monday
  | tuesday
  | wednesday
  | thursday
  | friday
  | saturday
  | sunday
  deriving DecidableEq

/-- The days of the week, Monday first. -/
def Weekday.all : List Weekday :=
  [.monday, .tuesday, .wednesday, .thursday, .friday, .saturday, .sunday]

/-- Days since the last Monday. -/
def Weekday.sinceMonday : Weekday → Nat
  | .monday => 0
  | .tuesday => 1
  | .wednesday => 2
  | .thursday => 3
  | .friday => 4
  | .saturday => 5
  | .sunday => 6

/-- The day of the week so many days after a Monday. -/
def Weekday.ofSinceMonday (n : Nat) : Weekday := all.getD (n % 7) .monday

/-- Days since the last Sunday. -/
def Weekday.sinceSunday (w : Weekday) : Nat := (w.sinceMonday + 1) % 7

/-- Days since the last `start`. -/
def Weekday.since (start w : Weekday) : Nat := (w.sinceMonday + 7 - start.sinceMonday) % 7

/-- The number of days from the end of the year zero to the beginning of a year. -/
def daysBeforeYear (year : Int) : Int :=
  365 * (year - 1) + (year - 1) / 4 - (year - 1) / 100 + (year - 1) / 400

namespace Date

/-- The date of the given year, month and day, if there is one. -/
def of? (year : Int) (month day : Nat) : Option Date :=
  if h : (minYear ≤ year ∧ year ≤ maxYear) ∧ (1 ≤ month ∧ month ≤ 12)
      ∧ (1 ≤ day ∧ day ≤ daysInMonth year month) then
    some ⟨year, month, day, h.1, h.2.1, h.2.2⟩
  else none

/-- The number of the day in its year, from 1. -/
def ordinal (d : Date) : Nat := ((monthLengths d.year).take (d.month - 1)).foldl (· + ·) d.day

/-- The number of the day, from 1 for the first of January of the year 1. -/
def dayNumber (d : Date) : Int := daysBeforeYear d.year + d.ordinal

instance : LT Date := ⟨fun a b => a.dayNumber < b.dayNumber⟩

instance : LE Date := ⟨fun a b => a.dayNumber ≤ b.dayNumber⟩

instance (a b : Date) : Decidable (a < b) := inferInstanceAs (Decidable (a.dayNumber < b.dayNumber))

instance (a b : Date) : Decidable (a ≤ b) := inferInstanceAs (Decidable (a.dayNumber ≤ b.dayNumber))

def weekday (d : Date) : Weekday := .ofSinceMonday ((d.dayNumber - 1) % 7).toNat

def quarter (d : Date) : Nat := (d.month - 1) / 3 + 1

/-- The month and day of a number of days counted through months of the given lengths. -/
def splitOrdinal (month n : Nat) : List Nat → Nat × Nat
  | [] => (month, n)
  | length :: rest => if n ≤ length then (month, n) else splitOrdinal (month + 1) (n - length) rest

/-- The day of a year with the given number. -/
def ofOrdinal? (year : Int) (ordinal : Nat) : Option Date :=
  let (month, day) := splitOrdinal 1 ordinal (monthLengths year)
  of? year month day

/-! ## Weeks -/

/-- The week of the year when weeks begin on `start`; days before the first such day are in week
zero. -/
def weekFrom (d : Date) (start : Weekday) : Nat := (d.ordinal + 6 - start.since d.weekday) / 7

end Date

/-- The day of the week on which a year begins. -/
def firstWeekday (year : Int) : Weekday := .ofSinceMonday (daysBeforeYear year % 7).toNat

/-- The number of ISO weeks of a year: one for every Thursday. -/
def isoWeeks (year : Int) : Nat :=
  if firstWeekday year = .thursday || (isLeap year && firstWeekday year = .wednesday) then 53
  else 52

/-- The year and number of the ISO week: weeks begin on Monday and belong to the year in which
their Thursday lies. -/
def Date.isoWeek (d : Date) : Int × Nat :=
  let week := (d.ordinal + 9 - d.weekday.sinceMonday) / 7
  if week = 0 then (d.year - 1, isoWeeks (d.year - 1))
  else if isoWeeks d.year < week then (d.year + 1, 1)
  else (d.year, week)

/-- The day of an ISO week. -/
def Date.ofIsoWeek? (year : Int) (week : Nat) (w : Weekday) : Option Date :=
  if week = 0 || isoWeeks year < week then none
  else
    let first := (firstWeekday year).sinceMonday
    let monday : Int := if first ≤ 3 then 1 - first else 8 - first
    let ordinal := monday + 7 * ((week : Int) - 1) + w.sinceMonday
    if ordinal < 1 then ofOrdinal? (year - 1) (ordinal + daysInYear (year - 1)).toNat
    else if daysInYear year < ordinal then ofOrdinal? (year + 1) (ordinal - daysInYear year).toNat
    else ofOrdinal? year ordinal.toNat

/-- The day of a week, when week 1 begins with the first `start` of the year. The day must lie in
the year. -/
def Date.ofWeek? (year : Int) (week : Nat) (w start : Weekday) : Option Date :=
  let first := 1 + (firstWeekday year).since start
  let ordinal := (first : Int) + ((week : Int) - 1) * 7 + start.since w
  if ordinal ≤ 0 then none else ofOrdinal? year ordinal.toNat

/-! ## Months -/

/-- The same day so many months later, or the last day of that month when it is shorter. -/
def Date.addMonths? (d : Date) (months : Nat) : Option Date :=
  let total := d.year * 12 + (d.month - 1 : Nat) + months
  let year := total / 12
  let month := (total % 12).toNat + 1
  Date.of? year month (min d.day (daysInMonth year month))

end ContractDocs.Calendar
