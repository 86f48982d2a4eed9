/-
Limits of duration: what the two ways to count months have in common, and what
that says of the findings about the duration of a contract.

Months of both kinds grow with the distance of the dates, also across the
point where the dates change places. From four on, calendar months are no more
than months of thirty days (`calendarMonths_le_thirtyDayMonths`); below, they
can be one more, as between the ends of January and April.
-/
import Mathlib.Data.List.Basic
import ContractDocs.Proofs.Findings
import ContractDocs.Proofs.WholeMonths

namespace ContractDocs

open Calendar

/-! ## Longer and shorter -/

namespace Calendar

variable {first first' last last' : Date}

/-- What fits between two dates fits between dates that are further apart. -/
theorem fittingMonths_mono (hf : first' ≤ first) (hl : last ≤ last') :
    fittingMonths first last ⊆ fittingMonths first' last' := by
  rintro n ⟨nonneg, d, later, order⟩
  obtain ⟨n, rfl⟩ := Int.eq_ofNat_of_zero_le nonneg
  have order' : d ≤ last' := Int.le_trans order hl
  have room : first'.monthIndex + n ≤ last'.monthIndex := by
    have month := later.month
    rw [Date.le_iff] at hf order'
    omega
  obtain ⟨d', later'⟩ := Date.exists_monthsLater room
  exact ⟨nonneg, d', later', Int.le_trans (later'.mono hf later) order'⟩

theorem calendarMonths_of_le (h : first ≤ last) :
    IsGreatest (fittingMonths first last) (calendarMonths first last) :=
  calendarMonths_eq_forward h ▸ isGreatest_calendarMonthsForward h

theorem calendarMonths_nonneg (h : first ≤ last) : 0 ≤ calendarMonths first last :=
  (calendarMonths_of_le h).1.1

theorem calendarMonths_self (d : Date) : calendarMonths d d = 0 := by
  obtain ⟨⟨nonneg, e, later, order⟩, -⟩ := calendarMonths_of_le (Int.le_refl d.dayNumber)
  have month := later.month
  rw [Date.le_iff] at order
  omega

theorem calendarMonths_neg (first last : Date) :
    calendarMonths first last = -calendarMonths last first := by
  rcases Int.lt_trichotomy first.dayNumber last.dayNumber with h | h | h
  · have turned := calendarMonths_of_lt h
    omega
  · have same : first = last := by
      have order := Date.le_iff.1 (Int.le_of_eq h : first ≤ last)
      have order' := Date.le_iff.1 (Int.le_of_eq h.symm : last ≤ first)
      exact Date.eq_of_monthIndex (by omega) (by omega)
    rw [same, calendarMonths_self]
    rfl
  · exact calendarMonths_of_lt h

theorem calendarMonths_mono (hf : first' ≤ first) (hl : last ≤ last') :
    calendarMonths first last ≤ calendarMonths first' last' := by
  by_cases forward : first ≤ last
  · have forward' : first' ≤ last' := Int.le_trans hf (Int.le_trans forward hl)
    exact (calendarMonths_of_le forward).mono (calendarMonths_of_le forward')
      (fittingMonths_mono hf hl)
  · have backward : last ≤ first := Int.le_of_lt (Int.not_le.1 forward)
    rw [calendarMonths_neg first last, calendarMonths_neg first' last']
    by_cases forward' : first' ≤ last'
    · have := calendarMonths_nonneg backward
      have := calendarMonths_nonneg forward'
      have := calendarMonths_neg first' last'
      omega
    · -- Both pairs are the wrong way round: turned, the second is the closer one.
      have backward' : last' ≤ first' := Int.le_of_lt (Int.not_le.1 forward')
      exact Int.neg_le_neg ((calendarMonths_of_le backward').mono (calendarMonths_of_le backward)
        (fittingMonths_mono hl hf))

theorem thirtyDayMonths_neg (first last : Date) :
    thirtyDayMonths first last = -thirtyDayMonths last first := by
  rw [thirtyDayMonths, thirtyDayMonths, ← Int.neg_tdiv, Int.neg_sub]

theorem thirtyDayMonths_mono (hf : first' ≤ first) (hl : last ≤ last') :
    thirtyDayMonths first last ≤ thirtyDayMonths first' last' :=
  Int.tdiv_le_tdiv (by decide) (Int.sub_le_sub hl hf)

/-! ## Months of both kinds -/

/-- Four months or more take thirty days each. -/
theorem le_thirtyDayMonths {n : Int} (hn : 4 ≤ n) (h : n ∈ fittingMonths first last) :
    n ≤ thirtyDayMonths first last := by
  obtain ⟨nonneg, d, later, order⟩ := h
  obtain ⟨n, rfl⟩ := Int.eq_ofNat_of_zero_le nonneg
  have run := thirty_mul_le (n := n) (by omega) first.day_le
  rw [← later.month, Date.monthLength_monthIndex, ← later.day, ← Date.dayNumber_eq,
    ← Date.dayNumber_eq] at run
  rw [Date.dayNumber_le_iff] at order
  rw [thirtyDayMonths, Int.tdiv_eq_ediv_of_nonneg (by omega)]
  omega

theorem calendarMonths_le_thirtyDayMonths (h : first ≤ last) (four : 4 ≤ calendarMonths first last) :
    calendarMonths first last ≤ thirtyDayMonths first last :=
  le_thirtyDayMonths four (calendarMonths_of_le h).1

end Calendar

theorem DurationPolicy.elapsedMonths_neg (p : DurationPolicy) (first last : Date) :
    p.elapsedMonths first last = -p.elapsedMonths last first := by
  cases p with
  | thirtyDayMonths => exact Calendar.thirtyDayMonths_neg first last
  | calendarMonths => exact Calendar.calendarMonths_neg first last

theorem DurationPolicy.elapsedMonths_mono (p : DurationPolicy) {first first' last last' : Date}
    (hf : first' ≤ first) (hl : last ≤ last') :
    p.elapsedMonths first last ≤ p.elapsedMonths first' last' := by
  cases p with
  | thirtyDayMonths => exact Calendar.thirtyDayMonths_mono hf hl
  | calendarMonths => exact Calendar.calendarMonths_mono hf hl

/-! ## Rejections -/

/-- A finding of the check rejects the record. -/
def Validation.RejectedBy (v : Validation) (c : RuleCheck) : Prop :=
  ∃ f ∈ v.errors, f.check? = some c

instance (v : Validation) (c : RuleCheck) : Decidable (v.RejectedBy c) :=
  inferInstanceAs (Decidable (∃ f ∈ v.errors, f.check? = some c))

theorem Record.HasDate.unique {r : Record} {formats : DateFormats} {f : Field} {d e : Date}
    (h : r.HasDate formats f d) (h' : r.HasDate formats f e) : d = e := by
  rw [← get?_date_eq_some_iff] at h h'
  exact Option.some.inj (h.symm.trans h')

namespace ContractType

variable {t : ContractType} {rules : DateRules} {r : Record}

/-- A limit of duration rejects a record for its two dates. -/
theorem rejectedBy_duration_iff {c : RuleCheck} (hc : c = .maxDuration ∨ c = .minDuration) :
    (t.validate rules r).RejectedBy c ↔ ∃ first last, r.HasDate rules.formats .startDate first ∧
      r.HasDate rules.formats .endDate last ∧
        ∃ f, t.FindsTerm rules.policy first last f ∧ f.check? = some c := by
  constructor
  · rintro ⟨f, mem, check⟩
    cases mem_findings_iff.1 (List.mem_of_mem_filter mem) with
    | term start stop finds => exact ⟨_, _, start, stop, f, finds, check⟩
    | _ => rcases hc with rfl | rfl <;> cases check
  · rintro ⟨first, last, start, stop, f, finds, check⟩
    have rejects : f.rejects = true := by cases finds <;> rfl
    have found := mem_findings_iff.2 (.term start stop finds)
    exact ⟨f, List.mem_filter.2 ⟨found, rejects⟩, check⟩

variable {policy : DurationPolicy} {first last : Date}

theorem exists_tooLong_iff :
    (∃ f, t.FindsTerm policy first last f ∧ f.check? = some .maxDuration) ↔ first < last ∧
      ∃ max, t.constraints.maxDurationMonths = some max ∧
        (max.toNat : Int) < policy.elapsedMonths first last := by
  constructor
  · rintro ⟨f, finds, check⟩
    cases finds with
    | tooLong order limit beyond => exact ⟨order, _, limit, beyond⟩
    | endNotAfterStart | tooShort => cases check
  · rintro ⟨order, max, limit, beyond⟩
    exact ⟨_, .tooLong order limit beyond, rfl⟩

theorem exists_tooShort_iff :
    (∃ f, t.FindsTerm policy first last f ∧ f.check? = some .minDuration) ↔ first < last ∧
      ∃ min, t.constraints.minDurationMonths = some min ∧
        policy.elapsedMonths first last < (min.toNat : Int) := by
  constructor
  · rintro ⟨f, finds, check⟩
    cases finds with
    | tooShort order limit beyond => exact ⟨order, _, limit, beyond⟩
    | endNotAfterStart | tooLong => cases check
  · rintro ⟨order, min, limit, beyond⟩
    exact ⟨_, .tooShort order limit beyond, rfl⟩

end ContractType

/-- **Months grow with the distance of the dates**, whichever date is the
first, and change their sign when the dates change places. So a contract that
is made longer stays too long, and does not become too short. -/
theorem elapsedMonths_monotone :
    (∀ (p : DurationPolicy) (first first' last last' : Date), first' ≤ first → last ≤ last' →
      p.elapsedMonths first last ≤ p.elapsedMonths first' last') ∧
    (∀ (p : DurationPolicy) (first last : Date),
      p.elapsedMonths first last = -p.elapsedMonths last first) ∧
    ∀ (t : ContractType) (rules : DateRules) (r r' : Record) (first first' last last' : Date),
      r.HasDate rules.formats .startDate first → r.HasDate rules.formats .endDate last →
      r'.HasDate rules.formats .startDate first' → r'.HasDate rules.formats .endDate last' →
      first < last → first' ≤ first → last ≤ last' →
        ((t.validate rules r).RejectedBy .maxDuration →
          (t.validate rules r').RejectedBy .maxDuration) ∧
        ((t.validate rules r').RejectedBy .minDuration →
          (t.validate rules r).RejectedBy .minDuration) := by
  refine ⟨fun p _ _ _ _ => p.elapsedMonths_mono, DurationPolicy.elapsedMonths_neg, ?_⟩
  intro t rules r r' first first' last last' start stop start' stop' order hf hl
  have longer := rules.policy.elapsedMonths_mono hf hl
  have order' : first' < last' := Int.lt_of_le_of_lt hf (Int.lt_of_lt_of_le order hl)
  simp only [ContractType.rejectedBy_duration_iff (.inl rfl),
    ContractType.rejectedBy_duration_iff (.inr rfl), ContractType.exists_tooLong_iff,
    ContractType.exists_tooShort_iff]
  constructor
  · rintro ⟨d, e, hd, he, -, max, limit, beyond⟩
    obtain rfl := start.unique hd
    obtain rfl := stop.unique he
    exact ⟨first', last', start', stop', order', max, limit, Int.lt_of_lt_of_le beyond longer⟩
  · rintro ⟨d, e, hd, he, -, min, limit, beyond⟩
    obtain rfl := start'.unique hd
    obtain rfl := stop'.unique he
    exact ⟨first, last, start, stop, order, min, limit, Int.lt_of_le_of_lt longer beyond⟩

/-- From two to four months. -/
def seasonal : ContractType :=
  { ContractType.new "seasonal" "Seasonal" "employment" with
    constraints := Constraints.unlimited.withDuration (some 2) (some 4) }

/-- A contract from the last of October. -/
def untilDay (text : String) : Record :=
  (Dict.empty.insert Field.startDate.name (.string "2022-10-31")).insert Field.endDate.name
    (.string text)

def lastOfOctober : Date := (Date.of? 2022 10 31).get rfl

def lastOfNovember : Date := (Date.of? 2022 11 30).get rfl

def lastOfMarch : Date := (Date.of? 2023 3 31).get rfl

def lastOfApril : Date := (Date.of? 2023 4 30).get rfl

/-- The fifth month after October is one too many, and so is the sixth; what is too short until
March would be too short until November. -/
theorem elapsedMonths_monotone_october :
    lastOfNovember ≤ lastOfMarch ∧ lastOfMarch ≤ lastOfApril ∧ lastOfOctober < lastOfNovember ∧
      DurationPolicy.calendarMonths.elapsedMonths lastOfOctober lastOfMarch ≤
        DurationPolicy.calendarMonths.elapsedMonths lastOfOctober lastOfApril ∧
      DurationPolicy.calendarMonths.elapsedMonths lastOfMarch lastOfOctober =
        -DurationPolicy.calendarMonths.elapsedMonths lastOfOctober lastOfMarch ∧
      (seasonal.validate ⟨.calendarMonths, .standard⟩ (untilDay "2023-03-31")).RejectedBy
        .maxDuration ∧
      (seasonal.validate ⟨.calendarMonths, .standard⟩ (untilDay "2023-04-30")).RejectedBy
        .maxDuration ∧
      ((seasonal.validate ⟨.calendarMonths, .standard⟩ (untilDay "2023-03-31")).RejectedBy
          .minDuration →
        (seasonal.validate ⟨.calendarMonths, .standard⟩ (untilDay "2022-11-30")).RejectedBy
          .minDuration) := by
  have earlier : lastOfNovember ≤ lastOfMarch := by decide
  have later : lastOfMarch ≤ lastOfApril := by decide
  have order : lastOfOctober < lastOfNovember := by decide
  have order' : lastOfOctober < lastOfMarch := by decide
  have same : lastOfOctober ≤ lastOfOctober := by decide
  have start : ∀ text, (untilDay text).HasDate .standard .startDate lastOfOctober := by
    intro text
    exact ⟨.string "2022-10-31", rfl, rfl⟩
  have november : (untilDay "2022-11-30").HasDate .standard .endDate lastOfNovember := ⟨_, rfl, rfl⟩
  have march : (untilDay "2023-03-31").HasDate .standard .endDate lastOfMarch := ⟨_, rfl, rfl⟩
  have april : (untilDay "2023-04-30").HasDate .standard .endDate lastOfApril := ⟨_, rfl, rfl⟩
  have rejected : (seasonal.validate ⟨.calendarMonths, .standard⟩
      (untilDay "2023-03-31")).RejectedBy .maxDuration := by decide
  have longer := elapsedMonths_monotone.2.2 seasonal ⟨.calendarMonths, .standard⟩ _ _ _ _ _ _
    (start _) march (start _) april order' same later
  have shorter := elapsedMonths_monotone.2.2 seasonal ⟨.calendarMonths, .standard⟩ _ _ _ _ _ _
    (start _) november (start _) march order same earlier
  exact ⟨earlier, later, order, elapsedMonths_monotone.1 _ _ _ _ _ same later,
    elapsedMonths_monotone.2.1 _ _ _, rejected, longer.1 rejected, shorter.2⟩

/-- **Calendar months keep a limit of three months or more** that months of
thirty days keep, so changing from these to those rejects no contract for
being too long. -/
theorem calendarMonths_keep_limit :
    (∀ (first last : Date) (max : Int), first < last → 3 ≤ max →
      thirtyDayMonths first last ≤ max → calendarMonths first last ≤ max) ∧
    ∀ (t : ContractType) (formats : DateFormats) (r : Record) (max : UInt32),
      t.constraints.maxDurationMonths = some max → 3 ≤ max.toNat →
        ¬ (t.validate ⟨.thirtyDayMonths, formats⟩ r).RejectedBy .maxDuration →
        ¬ (t.validate ⟨.calendarMonths, formats⟩ r).RejectedBy .maxDuration := by
  have keep : ∀ (first last : Date) (max : Int), first < last → 3 ≤ max →
      thirtyDayMonths first last ≤ max → calendarMonths first last ≤ max := by
    intro first last max order three within
    by_contra beyond
    have := calendarMonths_le_thirtyDayMonths (Int.le_of_lt order) (by omega)
    omega
  refine ⟨keep, fun t formats r max limit three within => ?_⟩
  simp only [ContractType.rejectedBy_duration_iff (.inl rfl), ContractType.exists_tooLong_iff] at *
  rintro ⟨first, last, start, stop, order, max', limit', beyond⟩
  obtain rfl := Option.some.inj (limit.symm.trans limit')
  refine within ⟨first, last, start, stop, order, max, limit, ?_⟩
  by_contra less
  exact absurd beyond (Int.not_lt.2 (keep first last max.toNat order (by omega) (Int.not_lt.1 less)))

/-- 120 days after the last of October. -/
def lastOfFebruary : Date := (Date.of? 2023 2 28).get rfl

/-- Four months of both kinds, and no day to spare. -/
theorem calendarMonths_keep_limit_february :
    lastOfOctober < lastOfFebruary ∧ thirtyDayMonths lastOfOctober lastOfFebruary ≤ 4 ∧
      calendarMonths lastOfOctober lastOfFebruary ≤ 4 ∧
      seasonal.constraints.maxDurationMonths = some 4 ∧
      ¬ (seasonal.validate ⟨.thirtyDayMonths, .standard⟩ (untilDay "2023-02-28")).RejectedBy
        .maxDuration ∧
      ¬ (seasonal.validate ⟨.calendarMonths, .standard⟩ (untilDay "2023-02-28")).RejectedBy
        .maxDuration := by
  have order : lastOfOctober < lastOfFebruary := by decide
  have within : thirtyDayMonths lastOfOctober lastOfFebruary ≤ 4 := by decide
  have accepted : ¬ (seasonal.validate ⟨.thirtyDayMonths, .standard⟩
      (untilDay "2023-02-28")).RejectedBy .maxDuration := by decide
  exact ⟨order, within, calendarMonths_keep_limit.1 _ _ _ order (by decide) within, rfl, accepted,
    calendarMonths_keep_limit.2 seasonal .standard _ 4 rfl (by decide) accepted⟩

/-- A limit of two months is too low: there are 89 days from the last of January to the last of
April. -/
example : ∃ first last : Date, thirtyDayMonths first last = 2 ∧ calendarMonths first last = 3 :=
  ⟨(Date.of? 2023 1 31).get rfl, (Date.of? 2023 4 30).get rfl, by decide⟩

end ContractDocs
