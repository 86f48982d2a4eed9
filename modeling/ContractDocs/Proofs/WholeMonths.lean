/-
Whole months between two dates: as many as can be added to the first without
going beyond the second.

The estimate from the months alone is right or one too great, for any fewer
months end in an earlier month (`overshoots_of_lt`). So months are taken off
at most once, and no date on the way is outside the calendar, whose last year
is not passed before the second date is.
-/
import ContractDocs.Proofs.DayNumbers

namespace ContractDocs.Calendar

/-! ## Adding months -/

namespace Date

variable {d d' e e' : Date} {n : Int}

/-- So many months after `d`, on the same day of the month or on the last day of a month that is
shorter. -/
structure MonthsLater (d : Date) (n : Int) (e : Date) : Prop where
  month : e.monthIndex = d.monthIndex + n
  day : e.day = min d.day (daysInMonth e.year e.month)

theorem MonthsLater.zero (d : Date) : d.MonthsLater 0 d where
  month := by omega
  day := (Nat.min_eq_left d.day_mem.2).symm

/-- Adding months keeps the order of dates. -/
theorem MonthsLater.mono (hd : d ≤ d') (h : d.MonthsLater n e) (h' : d'.MonthsLater n e') :
    e ≤ e' := by
  have day := h.day
  have day' := h'.day
  rw [← monthLength_monthIndex] at day day'
  have month := h.month
  have month' := h'.month
  rw [le_iff] at hd ⊢
  rcases hd with earlier | ⟨same, order⟩
  · exact .inl (by omega)
  · have target : e.monthIndex = e'.monthIndex := by omega
    rw [target] at day
    exact .inr ⟨target, by omega⟩

theorem of?_eq_some_iff {year : Int} {month day : Nat} :
    of? year month day = some e ↔ e.year = year ∧ e.month = month ∧ e.day = day := by
  unfold of?
  constructor
  · intro h
    split at h
    · cases h
      exact ⟨rfl, rfl, rfl⟩
    · cases h
  · rintro ⟨rfl, rfl, rfl⟩
    exact dif_pos ⟨e.year_mem, e.month_mem, e.day_mem⟩

theorem addMonths?_eq (d : Date) (n : Nat) :
    d.addMonths? n = of? ((d.monthIndex + n) / 12) (((d.monthIndex + n) % 12).toNat + 1)
      (min d.day (monthLength (d.monthIndex + n))) := by
  have total : d.year * 12 + (d.month - 1 : Nat) + n = d.monthIndex + n := by
    have := d.month_mem
    unfold monthIndex
    omega
  rw [addMonths?, total, monthLength]

theorem addMonths?_eq_some_iff {n : Nat} : d.addMonths? n = some e ↔ d.MonthsLater n e := by
  have index : e.monthIndex = d.monthIndex + n ↔
      e.year = (d.monthIndex + n) / 12 ∧ e.month = ((d.monthIndex + n) % 12).toNat + 1 := by
    have quotient := e.div_monthIndex
    have := e.month_mem
    unfold monthIndex at quotient ⊢
    omega
  rw [addMonths?_eq, of?_eq_some_iff, ← and_assoc, ← index]
  constructor
  · rintro ⟨month, day⟩
    exact ⟨month, by rw [day, ← monthLength_monthIndex, month]⟩
  · rintro ⟨month, day⟩
    exact ⟨month, by rw [day, ← monthLength_monthIndex, month]⟩

/-- Months can be added as long as they do not lead beyond the month of some date. -/
theorem exists_monthsLater {last : Date} {n : Nat} (h : d.monthIndex + n ≤ last.monthIndex) :
    ∃ e, d.MonthsLater n e := by
  have first := d.year_mem
  have bound := last.year_mem
  have index := d.div_monthIndex
  have index' := last.div_monthIndex
  have length := (monthLength_mem (d.monthIndex + n)).1
  have day := d.day_mem
  simp only [← addMonths?_eq_some_iff, addMonths?_eq]
  unfold of?
  unfold monthLength at length ⊢
  exact ⟨_, dif_pos ⟨by omega, by omega, by omega⟩⟩

end Date

/-! ## Taking months off -/

variable {first last : Date}

theorem overshoots_eq_false_iff {n : Nat} :
    overshoots first last n = false ↔ ∃ d, first.MonthsLater n d ∧ d ≤ last := by
  simp only [← Date.addMonths?_eq_some_iff]
  unfold overshoots
  cases first.addMonths? n with
  | none => simp
  | some d => simp [Date.dayNumber_lt_iff, Date.dayNumber_le_iff]

/-- Months that end before the month of the second date do not go beyond it. -/
theorem overshoots_of_lt {n : Nat} (h : first.monthIndex + n < last.monthIndex) :
    overshoots first last n = false := by
  obtain ⟨d, later⟩ := Date.exists_monthsLater (by omega : first.monthIndex + n ≤ last.monthIndex)
  have month := later.month
  exact overshoots_eq_false_iff.2 ⟨d, later, Date.le_iff.2 (.inl (by omega))⟩

theorem backOff_eq_self {n : Nat} (h : overshoots first last n = false) :
    backOff first last n = n := by
  cases n with
  | zero => rfl
  | succ n => rw [backOff, h, if_neg Bool.false_ne_true]

theorem monthDifference_eq (first last : Date) :
    monthDifference first last = last.monthIndex - first.monthIndex := by
  simp only [monthDifference, Date.monthIndex]
  omega

theorem monthDifference_nonneg (h : first ≤ last) : 0 ≤ monthDifference first last := by
  rw [monthDifference_eq]
  rcases Date.le_iff.1 h with month | ⟨month, -⟩ <;> omega

/-- The estimate, or one month less when the estimate goes beyond the second date. -/
theorem calendarMonthsForward_cases (h : first ≤ last) :
    (overshoots first last (monthDifference first last).toNat = false ∧
      (calendarMonthsForward first last : Int) = monthDifference first last) ∨
    (overshoots first last (monthDifference first last).toNat = true ∧
      (calendarMonthsForward first last : Int) + 1 = monthDifference first last) := by
  obtain ⟨n, hn⟩ := Int.eq_ofNat_of_zero_le (monthDifference_nonneg h)
  have index := monthDifference_eq first last
  rw [calendarMonthsForward, hn, Int.toNat_natCast]
  cases passes : overshoots first last n with
  | false => exact .inl ⟨rfl, by rw [backOff_eq_self passes]⟩
  | true =>
    cases n with
    | zero =>
      -- No month at all is never too many.
      have none : overshoots first last 0 = false :=
        overshoots_eq_false_iff.2 ⟨first, .zero first, h⟩
      exact absurd (none.symm.trans passes) Bool.false_ne_true
    | succ n =>
      have fewer : overshoots first last n = false := overshoots_of_lt (by omega)
      rw [backOff, passes, if_pos rfl, backOff_eq_self fewer]
      exact .inr ⟨rfl, by omega⟩

/-- The months that can be added to the first date without going beyond the second. -/
def fittingMonths (first last : Date) : Set Int :=
  {n | 0 ≤ n ∧ ∃ d, first.MonthsLater n d ∧ d ≤ last}

theorem isGreatest_calendarMonthsForward (h : first ≤ last) :
    IsGreatest (fittingMonths first last) (calendarMonthsForward first last) := by
  have index := monthDifference_eq first last
  obtain ⟨n, hn⟩ := Int.eq_ofNat_of_zero_le (monthDifference_nonneg h)
  have most : ∀ k ∈ fittingMonths first last, k ≤ monthDifference first last := by
    rintro k ⟨-, d, later, order⟩
    have month := later.month
    rcases Date.le_iff.1 order with earlier | ⟨same, -⟩ <;> omega
  rcases calendarMonthsForward_cases h with ⟨passes, result⟩ | ⟨fails, result⟩
  · rw [hn, Int.toNat_natCast] at passes
    rw [result]
    exact ⟨⟨by omega, hn ▸ overshoots_eq_false_iff.1 passes⟩, most⟩
  · have fewer : overshoots first last (calendarMonthsForward first last) = false :=
      overshoots_of_lt (by omega)
    refine ⟨⟨by omega, overshoots_eq_false_iff.1 fewer⟩, fun k hk => ?_⟩
    have le := most k hk
    by_cases same : k = monthDifference first last
    · obtain ⟨-, d, later, order⟩ := hk
      rw [same, hn] at later
      rw [hn, Int.toNat_natCast, overshoots_eq_false_iff.2 ⟨d, later, order⟩] at fails
      cases fails
    · omega

theorem calendarMonths_eq_forward (h : first ≤ last) :
    calendarMonths first last = calendarMonthsForward first last :=
  if_neg (Int.not_lt.2 h)

theorem calendarMonths_of_lt (h : last < first) :
    calendarMonths first last = -calendarMonths last first := by
  rw [calendarMonths_eq_forward (Int.le_of_lt h), calendarMonths, if_pos h]

/-- The whole numbers that thirty-two bits with a sign can hold. -/
def FitsWord (n : Int) : Prop := -2147483648 ≤ n ∧ n < 2147483648

/-- How the months from one date to a later one are counted. -/
structure Counted (first last : Date) : Prop where
  greatest : IsGreatest (fittingMonths first last) (calendarMonths first last)
  /-- The count begins with months that are not negative. -/
  nonneg : 0 ≤ monthDifference first last
  /-- Each time months are taken off it is one, and it happens once at most. -/
  once : monthDifference first last ≤ calendarMonths first last + 1
  /-- None of the dates that are tried is outside the calendar. -/
  tried : ∀ n : Nat, n ≤ monthDifference first last → ∃ d, first.addMonths? n = some d
  /-- Nothing that is added or subtracted on the way is too large. -/
  years : FitsWord (last.year - first.year)
  months : ∀ n : Nat, n ≤ monthDifference first last →
    FitsWord n ∧ FitsWord (first.monthIndex + n)

/-- **Whole months are counted exactly**: as many as fit between the dates,
and as many below zero when the second date is the earlier one. -/
theorem calendarMonths_counted (first last : Date) :
    (first ≤ last → Counted first last) ∧
      (last < first → calendarMonths first last = -calendarMonths last first) := by
  constructor
  · intro h
    have forward := calendarMonths_eq_forward h
    have nonneg := monthDifference_nonneg h
    have index := monthDifference_eq first last
    have startYear := first.year_mem
    have endYear := last.year_mem
    have startIndex := first.div_monthIndex
    have endIndex := last.div_monthIndex
    unfold minYear maxYear at startYear endYear
    refine ⟨forward ▸ isGreatest_calendarMonthsForward h, nonneg, ?_, ?_, ?_, ?_⟩
    · rw [forward]
      rcases calendarMonthsForward_cases h with ⟨-, result⟩ | ⟨-, result⟩ <;> omega
    · intro n hn
      simp only [Date.addMonths?_eq_some_iff]
      exact Date.exists_monthsLater (by omega : first.monthIndex + n ≤ last.monthIndex)
    · unfold FitsWord
      omega
    · intro n hn
      unfold FitsWord
      omega
  · exact calendarMonths_of_lt

/-- The last of January in a leap year. -/
def lastOfJanuary : Date := (Date.of? 2024 1 31).get rfl

/-- The day before the leap day. -/
def dayBeforeLeapDay : Date := (Date.of? 2024 2 28).get rfl

/-- The estimate is one month, which ends on the leap day and so does not fit. -/
theorem calendarMonths_counted_lastOfJanuary :
    lastOfJanuary ≤ dayBeforeLeapDay ∧ Counted lastOfJanuary dayBeforeLeapDay ∧
      monthDifference lastOfJanuary dayBeforeLeapDay = 1 ∧
      calendarMonths lastOfJanuary dayBeforeLeapDay = 0 ∧ lastOfJanuary < dayBeforeLeapDay ∧
      calendarMonths dayBeforeLeapDay lastOfJanuary =
        -calendarMonths lastOfJanuary dayBeforeLeapDay := by
  have le : lastOfJanuary ≤ dayBeforeLeapDay := by decide
  have lt : lastOfJanuary < dayBeforeLeapDay := by decide
  exact ⟨le, (calendarMonths_counted _ _).1 le, by decide, by decide, lt,
    (calendarMonths_counted _ _).2 lt⟩

end ContractDocs.Calendar
