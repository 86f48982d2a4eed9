/-
The span of the calendar: its first and its last date, and how many months can
pass between two dates at all.

After each date but the last there is a next one (`Date.exists_tomorrow`), so
every number of days up to the last date passes from the first one to some
date. `DurationPolicy.exists_elapsedMonths_iff`: of either kind of month, any
number up to that of the whole calendar passes between two dates, and no
greater one.
-/
import ContractDocs.Proofs.DurationLimits

namespace ContractDocs

namespace Calendar.Date

/-! ## The ends of the calendar -/

def first : Date := ⟨minYear, 1, 1, by decide, by decide, by decide⟩

def second : Date := ⟨minYear, 1, 2, by decide, by decide, by decide⟩

def last : Date := ⟨maxYear, 12, 31, by decide, by decide, by decide⟩

theorem first_le (d : Date) : first ≤ d := by
  have year := d.year_mem
  have month := d.month_mem
  have day := d.day_mem
  rw [le_iff]
  simp only [monthIndex, first]
  omega

theorem le_last (d : Date) : d ≤ last := by
  have year := d.year_mem
  have month := d.month_mem
  have day := d.day_le
  have longest := (monthLength_mem d.monthIndex).2
  rw [le_iff]
  simp only [monthIndex, last] at *
  omega

/-! ## The days between -/

/-- The first day of the same month. -/
def firstOfMonth (d : Date) : Date :=
  ⟨d.year, d.month, 1, d.year_mem, d.month_mem, le_rfl, d.day_mem.1.trans d.day_mem.2⟩

theorem exists_tomorrow {d : Date} (h : d < last) : ∃ e : Date, e.dayNumber = d.dayNumber + 1 := by
  by_cases inside : d.day < daysInMonth d.year d.month
  · -- The next day of the same month.
    let e : Date := ⟨d.year, d.month, d.day + 1, d.year_mem, d.month_mem, by omega, inside⟩
    have month : e.monthIndex = d.monthIndex := rfl
    have day : e.day = d.day + 1 := rfl
    refine ⟨e, ?_⟩
    rw [e.dayNumber_eq, d.dayNumber_eq, month, day]
    push_cast
    omega
  · -- The first day of the next month.
    rw [← monthLength_monthIndex] at inside
    have longest := last.day_le
    have full : d.day = monthLength d.monthIndex := le_antisymm d.day_le (not_lt.1 inside)
    have later : d.firstOfMonth.monthIndex + 1 ≤ last.monthIndex := by
      have month : d.firstOfMonth.monthIndex = d.monthIndex := rfl
      rcases lt_iff.1 h with less | ⟨same, day⟩
      · omega
      · rw [← same] at longest
        omega
    obtain ⟨e, next⟩ := exists_monthsLater (n := 1) later
    have month : e.monthIndex = d.monthIndex + 1 := next.month
    have day : e.day = 1 := by
      rw [next.day]
      exact min_eq_left (e.day_mem.1.trans e.day_mem.2)
    refine ⟨e, ?_⟩
    rw [e.dayNumber_eq, d.dayNumber_eq, month, day, daysBeforeMonth_succ, full]
    push_cast
    omega

/-- Up to the end of the calendar, every number of days later is some date. -/
theorem exists_daysLater {d : Date} {n : Nat} (h : d.dayNumber + n ≤ last.dayNumber) :
    ∃ e : Date, e.dayNumber = d.dayNumber + n := by
  induction n with
  | zero => exact ⟨d, (add_zero _).symm⟩
  | succ n ih =>
    push_cast at h
    obtain ⟨e, he⟩ := ih (by omega)
    obtain ⟨next, hnext⟩ := exists_tomorrow (d := e) (dayNumber_lt_iff.2 (by omega))
    exact ⟨next, by push_cast; omega⟩

end Calendar.Date

/-! ## The months between -/

open Calendar

/-- The months of the whole calendar. -/
def DurationPolicy.longest (p : DurationPolicy) : Int := p.elapsedMonths Date.first Date.last

theorem DurationPolicy.elapsedMonths_le_longest (p : DurationPolicy) (first last : Date) :
    p.elapsedMonths first last ≤ p.longest :=
  p.elapsedMonths_mono first.first_le last.le_last

theorem DurationPolicy.elapsedMonths_second (p : DurationPolicy) :
    p.elapsedMonths Date.first Date.second = 0 := by cases p <;> decide

theorem DurationPolicy.longest_nonneg (p : DurationPolicy) : 0 ≤ p.longest :=
  p.elapsedMonths_second ▸ p.elapsedMonths_le_longest Date.first Date.second

namespace Calendar

theorem exists_thirtyDayMonths {n : Nat} (positive : 0 < n)
    (h : n ≤ thirtyDayMonths Date.first Date.last) :
    ∃ e, Date.first < e ∧ thirtyDayMonths Date.first e = n := by
  have order := Date.last.first_le
  rw [Date.dayNumber_le_iff] at order
  rw [thirtyDayMonths, Int.tdiv_eq_ediv_of_nonneg (by omega)] at h
  obtain ⟨e, he⟩ := Date.exists_daysLater (d := Date.first) (n := 30 * n) (by push_cast; omega)
  push_cast at he
  refine ⟨e, Date.dayNumber_lt_iff.2 (by omega), ?_⟩
  rw [thirtyDayMonths, Int.tdiv_eq_ediv_of_nonneg (by omega)]
  omega

theorem exists_calendarMonths {n : Nat} (positive : 0 < n)
    (h : n ≤ calendarMonths Date.first Date.last) :
    ∃ e, Date.first < e ∧ calendarMonths Date.first e = n := by
  obtain ⟨-, d, whole, -⟩ := (calendarMonths_of_le Date.last.first_le).1
  have room : Date.first.monthIndex + n ≤ Date.last.monthIndex := by
    have month := whole.month
    have within := Date.le_iff.1 d.le_last
    omega
  obtain ⟨e, later⟩ := Date.exists_monthsLater room
  have month := later.month
  have greatest := calendarMonths_of_le e.first_le
  obtain ⟨-, d', fits, order⟩ := greatest.1
  refine ⟨e, Date.lt_iff.2 (.inl (by omega)), le_antisymm ?_ ?_⟩
  · have month' := fits.month
    rw [Date.le_iff] at order
    omega
  · exact greatest.2 ⟨by omega, e, later, Int.le_refl _⟩

end Calendar

/-- **Any number of months** up to those of the whole calendar passes between
two dates, and no greater number does. -/
theorem DurationPolicy.exists_elapsedMonths_iff (p : DurationPolicy) (n : Nat) :
    (∃ first last, first < last ∧ p.elapsedMonths first last = n) ↔ (n : Int) ≤ p.longest := by
  constructor
  · rintro ⟨first, last, -, months⟩
    exact months ▸ p.elapsedMonths_le_longest first last
  · intro h
    refine ⟨Date.first, ?_⟩
    rcases Nat.eq_zero_or_pos n with rfl | positive
    · exact ⟨Date.second, by decide, p.elapsedMonths_second⟩
    · cases p with
      | thirtyDayMonths => exact exists_thirtyDayMonths positive h
      | calendarMonths => exact exists_calendarMonths positive h

example : DurationPolicy.calendarMonths.longest = 6291431 ∧
    DurationPolicy.thirtyDayMonths.longest = 6383050 := by decide +kernel

end ContractDocs
