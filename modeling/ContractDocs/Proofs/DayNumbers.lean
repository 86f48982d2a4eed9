/-
Day numbers: months counted on through the years, the days that lie before
each of them, and the order of dates.

A month begins where the one before it ends, so dates are ordered by month and
then by day (`Date.lt_iff`). Counted from March, a year ends with its leap
day, and the days before a month have a closed form: thirty for each month,
five more for each year, the leap days, and an excess that grows through the
year (`daysBeforeMonth_march`). So a run of four months or more is never short
of thirty days for each of them, not even when its end falls on the last day
of a shorter month (`thirty_mul_le`). Three months from the end of January are
a day short.
-/
import Mathlib.Data.Fin.Basic
import Mathlib.Data.List.GetD
import Mathlib.Tactic.IntervalCases
import ContractDocs.Calendar.Months

namespace ContractDocs.Calendar

/-! ## Years -/

/-- The leap days up to the end of a year. -/
def leapDays (year : Int) : Int := year / 4 - year / 100 + year / 400

theorem isLeap_iff {year : Int} :
    isLeap year = true ↔ year % 4 = 0 ∧ (year % 100 ≠ 0 ∨ year % 400 = 0) := by
  simp [isLeap]

theorem leapDays_eq (year : Int) :
    leapDays year = leapDays (year - 1) + if isLeap year then 1 else 0 := by
  unfold leapDays
  split
  · next h =>
    rw [isLeap_iff] at h
    omega
  · next h =>
    rw [isLeap_iff] at h
    omega

theorem leapDays_mono {a b : Int} (h : a ≤ b) : leapDays a ≤ leapDays b := by
  unfold leapDays
  omega

theorem daysBeforeYear_eq (year : Int) :
    daysBeforeYear year = 365 * (year - 1) + leapDays (year - 1) := by
  unfold daysBeforeYear leapDays
  omega

/-! ## Months -/

/-- The number of a month when months are counted on through the years. -/
def Date.monthIndex (d : Date) : Int := 12 * d.year + ((d.month : Int) - 1)

/-- The number of days of a month. -/
def monthLength (i : Int) : Nat := daysInMonth (i / 12) ((i % 12).toNat + 1)

/-- The number of the day before a month begins. -/
def daysBeforeMonth (i : Int) : Int :=
  daysBeforeYear (i / 12) + ((monthLengths (i / 12)).take (i % 12).toNat).sum

theorem exists_year_month (i : Int) : ∃ year : Int, ∃ m : Nat, m < 12 ∧ i = 12 * year + m :=
  ⟨i / 12, (i % 12).toNat, by omega, by omega⟩

theorem length_monthLengths (year : Int) : (monthLengths year).length = 12 := rfl

theorem daysBeforeMonth_eq (year : Int) {m : Nat} (hm : m < 12) :
    daysBeforeMonth (12 * year + m) = daysBeforeYear year + ((monthLengths year).take m).sum := by
  have quotient : (12 * year + m) / 12 = year := by omega
  have remainder : ((12 * year + m) % 12).toNat = m := by omega
  rw [daysBeforeMonth, quotient, remainder]

theorem monthLength_eq (year : Int) {m : Nat} (hm : m < 12) :
    monthLength (12 * year + m) = (monthLengths year).get ⟨m, hm⟩ := by
  have quotient : (12 * year + m) / 12 = year := by omega
  have remainder : ((12 * year + m) % 12).toNat = m := by omega
  rw [monthLength, quotient, remainder, daysInMonth, Nat.add_sub_cancel]
  exact List.getD_eq_getElem _ _ hm

theorem monthLength_mem (i : Int) : 28 ≤ monthLength i ∧ monthLength i ≤ 31 := by
  obtain ⟨year, m, hm, rfl⟩ := exists_year_month i
  rw [monthLength_eq year hm]
  interval_cases m <;> simp [monthLengths]
  split <;> omega

/-- A month begins where the one before it ends. -/
theorem daysBeforeMonth_succ (i : Int) :
    daysBeforeMonth (i + 1) = daysBeforeMonth i + monthLength i := by
  obtain ⟨year, m, hm, rfl⟩ := exists_year_month i
  rw [daysBeforeMonth_eq year hm, monthLength_eq year hm]
  by_cases last : m = 11
  · subst last
    have turn : 12 * year + (11 : Nat) + 1 = 12 * (year + 1) + (0 : Nat) := by omega
    have this_year : year + 1 - 1 = year := by omega
    have leap := leapDays_eq year
    rw [turn, daysBeforeMonth_eq (year + 1) (by omega), daysBeforeYear_eq, daysBeforeYear_eq,
      this_year, leap]
    simp [monthLengths]
    split <;> omega
  · have same : 12 * year + m + 1 = 12 * year + (m + 1 : Nat) := by omega
    rw [same, daysBeforeMonth_eq year (by omega),
      List.take_succ_eq_append_getElem (length_monthLengths year ▸ hm), List.sum_append]
    simp
    omega

/-- No month begins before an earlier one has ended. -/
theorem daysBeforeMonth_add_le {i j : Int} (h : i < j) :
    daysBeforeMonth i + monthLength i ≤ daysBeforeMonth j := by
  rw [← daysBeforeMonth_succ]
  induction j, (h : i + 1 ≤ j) using Int.leInduction with
  | base => exact Int.le_refl _
  | succ j later ih =>
    have := daysBeforeMonth_succ j
    omega

/-! ## The order of dates -/

namespace Date

variable {d e : Date}

theorem div_monthIndex (d : Date) : d.monthIndex / 12 = d.year := by
  have := d.month_mem
  unfold monthIndex
  omega

theorem mod_monthIndex (d : Date) : (d.monthIndex % 12).toNat = d.month - 1 := by
  have := d.month_mem
  unfold monthIndex
  omega

theorem monthLength_monthIndex (d : Date) :
    monthLength d.monthIndex = daysInMonth d.year d.month := by
  have := d.month_mem
  rw [monthLength, div_monthIndex, mod_monthIndex, Nat.sub_add_cancel this.1]

theorem day_le (d : Date) : d.day ≤ monthLength d.monthIndex :=
  d.monthLength_monthIndex ▸ d.day_mem.2

theorem dayNumber_eq (d : Date) : d.dayNumber = daysBeforeMonth d.monthIndex + d.day := by
  have sum : ∀ l : List Nat, ∀ n, l.foldl (· + ·) n = n + l.sum := by
    intro l
    induction l with
    | nil => simp
    | cons a l ih =>
      intro n
      rw [List.foldl_cons, ih, List.sum_cons]
      omega
  rw [dayNumber, ordinal, sum, daysBeforeMonth, div_monthIndex, mod_monthIndex]
  omega

theorem dayNumber_le_iff : d ≤ e ↔ d.dayNumber ≤ e.dayNumber := Iff.rfl

theorem dayNumber_lt_iff : d < e ↔ d.dayNumber < e.dayNumber := Iff.rfl

theorem lt_of_monthIndex_lt (h : d.monthIndex < e.monthIndex) : d < e := by
  have before := daysBeforeMonth_add_le h
  have := d.day_le
  have := e.day_mem
  rw [dayNumber_lt_iff, d.dayNumber_eq, e.dayNumber_eq]
  omega

/-- Dates are ordered by month and then by day. -/
theorem lt_iff : d < e ↔ d.monthIndex < e.monthIndex ∨
    d.monthIndex = e.monthIndex ∧ d.day < e.day := by
  rcases Int.lt_trichotomy d.monthIndex e.monthIndex with h | h | h
  · exact iff_of_true (lt_of_monthIndex_lt h) (.inl h)
  · rw [dayNumber_lt_iff, d.dayNumber_eq, e.dayNumber_eq, h]
    omega
  · have later := lt_of_monthIndex_lt h
    rw [dayNumber_lt_iff] at later ⊢
    omega

theorem le_iff : d ≤ e ↔ d.monthIndex < e.monthIndex ∨
    d.monthIndex = e.monthIndex ∧ d.day ≤ e.day := by
  have turned : d ≤ e ↔ ¬ e < d := Int.not_lt.symm
  rw [turned, lt_iff]
  omega

theorem eq_of_monthIndex (month : d.monthIndex = e.monthIndex) (day : d.day = e.day) : d = e := by
  obtain ⟨year, m, day, _, hm, _⟩ := d
  obtain ⟨year', m', day', _, hm', _⟩ := e
  simp only [monthIndex] at month day
  obtain rfl : year = year' := by omega
  obtain rfl : m = m' := by omega
  subst day
  rfl

end Date

/-! ## Runs of months -/

/-- The days before a month in a closed form, with the months of a year counted from March. -/
theorem daysBeforeMonth_march (year : Int) {m : Nat} (hm : m < 12) :
    daysBeforeMonth (12 * year + 2 + m) =
      30 * (12 * year + 2 + m) + 5 * year + leapDays year + (3 * m + 2) / 5 - 366 := by
  by_cases early : m < 10
  · have month : 12 * year + 2 + m = 12 * year + (m + 2 : Nat) := by omega
    have leap := leapDays_eq year
    rw [month, daysBeforeMonth_eq year (by omega), daysBeforeYear_eq, leap]
    interval_cases m <;> simp [monthLengths] <;> split <;> omega
  · -- January and February are the last months of the year that begins in March.
    have month : 12 * year + 2 + m = 12 * (year + 1) + (m - 10 : Nat) := by omega
    have this_year : year + 1 - 1 = year := by omega
    rw [month, daysBeforeMonth_eq (year + 1) (by omega), daysBeforeYear_eq, this_year]
    interval_cases m
    · simp
      omega
    · simp [monthLengths]
      omega

/-- The lengths of the months from March on. The last of them is the only one that is shorter than
thirty days. -/
theorem monthLength_march (year : Int) {m : Nat} (hm : m < 12) :
    (m < 11 → (monthLength (12 * year + 2 + m) : Int) =
      30 + (3 * (m + 1) + 2) / 5 - (3 * m + 2) / 5) ∧
    (m = 11 → monthLength (12 * year + 2 + m) ≤ 29) := by
  have next := daysBeforeMonth_succ (12 * year + 2 + m)
  rw [daysBeforeMonth_march year hm] at next
  constructor
  · intro h
    have month : 12 * year + 2 + m + 1 = 12 * year + 2 + (m + 1 : Nat) := by omega
    rw [month, daysBeforeMonth_march year (by omega)] at next
    omega
  · intro h
    have month : 12 * year + 2 + m + 1 = 12 * (year + 1) + 2 + (0 : Nat) := by omega
    have this_year : year + 1 - 1 = year := by omega
    have leap := leapDays_eq (year + 1)
    rw [month, daysBeforeMonth_march (year + 1) (by omega), leap, this_year] at next
    split at next <;> omega

/-- **Four months or more** are at least thirty days each, also when the day is cut to the last of
a shorter month. -/
theorem thirty_mul_le {i : Int} {n day : Nat} (hn : 4 ≤ n) (hday : day ≤ monthLength i) :
    daysBeforeMonth i + day + 30 * n ≤
      daysBeforeMonth (i + n) + (min day (monthLength (i + n)) : Nat) := by
  obtain ⟨year, m, hm, hi⟩ := exists_year_month (i - 2)
  obtain ⟨year', m', hm', hi'⟩ := exists_year_month (i + n - 2)
  have first : 12 * year + 2 + m = i := by omega
  have last : 12 * year' + 2 + m' = i + n := by omega
  have start := daysBeforeMonth_march year hm
  have stop := daysBeforeMonth_march year' hm'
  obtain ⟨length, february⟩ := monthLength_march year hm
  obtain ⟨length', -⟩ := monthLength_march year' hm'
  rw [first] at start length february
  rw [last] at stop length'
  have leap := @leapDays_mono year year' (by omega)
  have long := monthLength_mem i
  have short := monthLength_mem (i + n)
  -- Five days for each year that is passed make up for the excess at its beginning.
  have years : year' = year ∨ year' = year + 1 ∨ year + 2 ≤ year' := by omega
  rcases Nat.le_total day (monthLength (i + n)) with h | h
  · rw [Nat.min_eq_left h]
    rcases years with same | next | later <;> omega
  · rw [Nat.min_eq_right h]
    rcases years with same | next | later <;> omega

end ContractDocs.Calendar
