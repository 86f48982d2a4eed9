/-
Findings: when each of them is made, said of the record and the limits of the
type and not of the order in which the rules are taken.

`mem_findings_iff`: the validation makes the findings that there are to make,
and no others. A proof about some kind of finding starts from there and does
not open the groups of rules again.
-/
import ContractDocs.Proofs.Legality

namespace ContractDocs.ContractType

open Calendar

/-- The fields that are read as numbers. -/
def numericFields : List Field := [.salary, .weeklyHours, .probationMonths, .noticeDays]

/-- What there is to say of a contract with both dates. -/
inductive FindsTerm (t : ContractType) (policy : DurationPolicy) (first last : Date) :
    Finding → Prop
  | endNotAfterStart (order : last ≤ first) : FindsTerm t policy first last .endNotAfterStart
  | tooLong {max : UInt32} (order : first < last)
    (limit : t.constraints.maxDurationMonths = some max)
    (beyond : (max.toNat : Int) < policy.elapsedMonths first last) :
    FindsTerm t policy first last (.tooLong (policy.elapsedMonths first last) max t.name)
  | tooShort {min : UInt32} (order : first < last)
    (limit : t.constraints.minDurationMonths = some min)
    (beyond : policy.elapsedMonths first last < (min.toNat : Int)) :
    FindsTerm t policy first last (.tooShort (policy.elapsedMonths first last) min t.name)

/-- What there is to say of a record of the type: each finding with the reason for it. -/
inductive Finds (t : ContractType) (rules : DateRules) (r : Record) : Finding → Prop
  | missing {field : String} (required : field ∈ t.requiredFields) (absent : ¬ r.Provides field) :
    Finds t rules r (.missing field t.name)
  | startNotADate (invalid : ¬ r.DateIfAny rules.formats .startDate) :
    Finds t rules r (.notADate .startDate)
  | endNotADate (invalid : ¬ r.DateIfAny rules.formats .endDate) :
    Finds t rules r (.notADate .endDate)
  | term {first last : Date} {f : Finding} (start : r.HasDate rules.formats .startDate first)
    (stop : r.HasDate rules.formats .endDate last)
    (finds : t.FindsTerm rules.policy first last f) : Finds t rules r f
  | notANumber {field : Field} (numeric : field ∈ numericFields)
    (invalid : ¬ r.NumberIfAny field) : Finds t rules r (.notANumber field)
  | salaryDisallowed {amount : Float} (salary : r.HasNumber .salary amount)
    (disallowed : t.constraints.allowsSalary = false) (positive : 0 < amount) :
    Finds t rules r (.salaryDisallowed amount t.name)
  | belowMinimumWage {amount floor : Float} {currency : Json}
    (salary : r.HasNumber .salary amount) (paidIn : r.field? .currency = some currency)
    (limit : t.constraints.minimumWage.get? (currencyCode currency) = some floor)
    (below : amount < floor) :
    Finds t rules r (.belowMinimumWage amount floor (currencyCode currency))
  | tooManyHours {hours max : Float} (hasHours : r.HasNumber .weeklyHours hours)
    (limit : t.constraints.maxWeeklyHours = some max) (beyond : max < hours) :
    Finds t rules r (.tooManyHours hours max t.name)
  | probationDisallowed {months : Float} (probation : r.HasNumber .probationMonths months)
    (disallowed : t.constraints.allowsProbation = false) (positive : 0 < months) :
    Finds t rules r (.probationDisallowed t.name)
  | probationTooLong {months : Float} {max : UInt32}
    (probation : r.HasNumber .probationMonths months)
    (allowed : t.constraints.allowsProbation = true)
    (limit : t.constraints.maxProbationMonths = some max) (beyond : max.toFloat < months) :
    Finds t rules r (.probationTooLong months max t.name)
  | noticeTooShort {days : Float} {min : UInt32} (notice : r.HasNumber .noticeDays days)
    (limit : t.constraints.minNoticeDays = some min) (beyond : days < min.toFloat) :
    Finds t rules r (.noticeTooShort days min t.name)
  | noticeTooLong {days : Float} {max : UInt32} (notice : r.HasNumber .noticeDays days)
    (limit : t.constraints.maxNoticeDays = some max) (beyond : max.toFloat < days) :
    Finds t rules r (.noticeTooLong days max t.name)
  | remoteWorkDisallowed {location : Json} (place : r.field? .workLocation = some location)
    (disallowed : t.constraints.allowsRemoteWork = false) (remote : isRemote location = true) :
    Finds t rules r (.remoteWorkDisallowed t.name)

/-! ## The groups of rules -/

theorem mem_unreadable {f complaint : Finding} {reading : Reading α} :
    f ∈ unreadable complaint reading ↔ reading.isInvalid = true ∧ f = complaint := by
  rw [unreadable]
  split
  · next h => simp [h]
  · next h => simp [h]

theorem mem_beyond {limit : Option β} {isBeyond : β → Bool} {complaint : β → Finding}
    {f : Finding} : f ∈ beyond limit isBeyond complaint ↔
      ∃ b, limit = some b ∧ isBeyond b = true ∧ f = complaint b := by
  cases limit with
  | none => simp [beyond]
  | some b =>
    rw [beyond]
    split
    · next h => simp [h]
    · next h => simp [h]

variable {t : ContractType} {rules : DateRules} {r : Record} {f : Finding}

theorem mem_numberFindings {field : Field} {numberRules : Float → List Finding} :
    f ∈ numberFindings r field numberRules ↔
      (¬ r.NumberIfAny field ∧ f = .notANumber field) ∨
        ∃ x, r.HasNumber field x ∧ f ∈ numberRules x := by
  simp only [numberFindings, List.mem_append, mem_unreadable, ← Record.get?_quantity_eq_some_iff,
    ← Record.isInvalid_quantity_eq_false_iff, Bool.not_eq_false]
  cases (r.quantity field.name).get? with
  | none => simp
  | some x => simp

theorem mem_requiredFindings :
    f ∈ t.requiredFindings r ↔
      ∃ field ∈ t.requiredFields, ¬ r.Provides field ∧ f = .missing field t.name := by
  simp only [requiredFindings, List.mem_map, List.mem_filter, Option.isNone_iff_eq_none,
    Record.present?_eq_none_iff, and_assoc, @eq_comm _ f]

theorem mem_durationFindings {policy : DurationPolicy} {first last : Date} :
    f ∈ t.durationFindings policy first last ↔ t.FindsTerm policy first last f := by
  rw [durationFindings]
  split
  · next order =>
    rw [List.mem_singleton]
    constructor
    · rintro rfl
      exact .endNotAfterStart order
    · rintro (_ | ⟨ordered, -, -⟩ | ⟨ordered, -, -⟩)
      · rfl
      · exact absurd order (Int.not_le.2 ordered)
      · exact absurd order (Int.not_le.2 ordered)
  · next order =>
    have ordered : first < last := Int.not_le.1 order
    simp only [List.mem_append, mem_beyond, decide_eq_true_eq]
    constructor
    · rintro (⟨max, limit, beyond, rfl⟩ | ⟨min, limit, beyond, rfl⟩)
      · exact .tooLong ordered limit beyond
      · exact .tooShort ordered limit beyond
    · rintro (turned | ⟨-, limit, beyond⟩ | ⟨-, limit, beyond⟩)
      · exact absurd turned order
      · exact .inl ⟨_, limit, beyond, rfl⟩
      · exact .inr ⟨_, limit, beyond, rfl⟩

theorem mem_dateFindings :
    f ∈ t.dateFindings rules r ↔
      (¬ r.DateIfAny rules.formats .startDate ∧ f = .notADate .startDate) ∨
      (¬ r.DateIfAny rules.formats .endDate ∧ f = .notADate .endDate) ∨
      ∃ first last, r.HasDate rules.formats .startDate first ∧
        r.HasDate rules.formats .endDate last ∧ t.FindsTerm rules.policy first last f := by
  simp only [dateFindings, List.mem_append, mem_unreadable, or_assoc,
    ← Record.isInvalid_date_eq_false_iff, Bool.not_eq_false, ← Record.get?_date_eq_some_iff,
    ← mem_durationFindings]
  cases (r.date rules.formats Field.startDate.name).get? with
  | none => simp
  | some first =>
    cases (r.date rules.formats Field.endDate.name).get? with
    | none => simp
    | some last => simp

theorem mem_wageFindings {amount : Float} {currency : Json} :
    f ∈ t.wageFindings amount currency ↔
      ∃ floor, t.constraints.minimumWage.get? (currencyCode currency) = some floor ∧
        amount < floor ∧ f = .belowMinimumWage amount floor (currencyCode currency) := by
  simp only [wageFindings, mem_beyond, decide_eq_true_eq]

theorem mem_salaryRules {currency : Option Json} {amount : Float} :
    f ∈ t.salaryRules currency amount ↔
      (t.constraints.allowsSalary = false ∧ 0 < amount ∧ f = .salaryDisallowed amount t.name) ∨
      ∃ v, currency = some v ∧ f ∈ t.wageFindings amount v := by
  unfold salaryRules
  rw [List.mem_append]
  refine or_congr ?_ ?_
  · split
    · next h => simp_all
    · next h => simp_all
  · cases currency with
    | none => simp
    | some v => simp

theorem mem_hoursFindings :
    f ∈ t.hoursFindings r ↔
      (¬ r.NumberIfAny .weeklyHours ∧ f = .notANumber .weeklyHours) ∨
      ∃ hours, r.HasNumber .weeklyHours hours ∧ ∃ max, t.constraints.maxWeeklyHours = some max ∧
        max < hours ∧ f = .tooManyHours hours max t.name := by
  simp only [hoursFindings, mem_numberFindings, mem_beyond, decide_eq_true_eq]

theorem mem_probationFindings :
    f ∈ t.probationFindings r ↔
      (¬ r.NumberIfAny .probationMonths ∧ f = .notANumber .probationMonths) ∨
      ∃ months, r.HasNumber .probationMonths months ∧
        ((t.constraints.allowsProbation = false ∧ 0 < months ∧ f = .probationDisallowed t.name) ∨
          t.constraints.allowsProbation = true ∧ ∃ max,
            t.constraints.maxProbationMonths = some max ∧ max.toFloat < months ∧
              f = .probationTooLong months max t.name) := by
  rw [probationFindings, mem_numberFindings]
  refine or_congr_right (exists_congr fun months => and_congr_right fun _ => ?_)
  cases t.constraints.allowsProbation with
  | false => simp
  | true => simp [mem_beyond]

theorem mem_noticeFindings :
    f ∈ t.noticeFindings r ↔
      (¬ r.NumberIfAny .noticeDays ∧ f = .notANumber .noticeDays) ∨
      ∃ days, r.HasNumber .noticeDays days ∧
        ((∃ min, t.constraints.minNoticeDays = some min ∧ days < min.toFloat ∧
            f = .noticeTooShort days min t.name) ∨
          ∃ max, t.constraints.maxNoticeDays = some max ∧ max.toFloat < days ∧
            f = .noticeTooLong days max t.name) := by
  simp only [noticeFindings, mem_numberFindings, List.mem_append, mem_beyond, decide_eq_true_eq]

theorem mem_remoteWorkFindings :
    f ∈ t.remoteWorkFindings r ↔
      ∃ location, r.field? .workLocation = some location ∧
        t.constraints.allowsRemoteWork = false ∧ isRemote location = true ∧
          f = .remoteWorkDisallowed t.name := by
  rw [remoteWorkFindings]
  cases r.field? .workLocation with
  | none => simp
  | some location =>
    dsimp only
    split
    · next h => simp_all
    · next h => simp_all

/-! ## All findings -/

theorem finds_of_mem_findings (h : f ∈ (t.validate rules r).findings) : t.Finds rules r f := by
  simp only [validate, List.mem_append] at h
  rcases h with (((((required | dates) | salary) | hours) | probation) | notice) | remote
  · obtain ⟨field, hf, absent, rfl⟩ := mem_requiredFindings.1 required
    exact .missing hf absent
  · rcases mem_dateFindings.1 dates with ⟨invalid, rfl⟩ | ⟨invalid, rfl⟩ | ⟨first, last, h⟩
    · exact .startNotADate invalid
    · exact .endNotADate invalid
    · exact .term h.1 h.2.1 h.2.2
  · rcases mem_numberFindings.1 salary with ⟨invalid, rfl⟩ | ⟨amount, hamount, h⟩
    · exact .notANumber (by decide) invalid
    · rcases mem_salaryRules.1 h with ⟨disallowed, positive, rfl⟩ | ⟨v, hv, h⟩
      · exact .salaryDisallowed hamount disallowed positive
      · obtain ⟨floor, limit, below, rfl⟩ := mem_wageFindings.1 h
        exact .belowMinimumWage hamount hv limit below
  · rcases mem_hoursFindings.1 hours with ⟨invalid, rfl⟩ | ⟨x, hx, max, limit, beyond, rfl⟩
    · exact .notANumber (by decide) invalid
    · exact .tooManyHours hx limit beyond
  · rcases mem_probationFindings.1 probation with
      ⟨invalid, rfl⟩ | ⟨x, hx, ⟨disallowed, positive, rfl⟩ | ⟨allowed, max, limit, beyond, rfl⟩⟩
    · exact .notANumber (by decide) invalid
    · exact .probationDisallowed hx disallowed positive
    · exact .probationTooLong hx allowed limit beyond
  · rcases mem_noticeFindings.1 notice with
      ⟨invalid, rfl⟩ | ⟨x, hx, ⟨min, limit, beyond, rfl⟩ | ⟨max, limit, beyond, rfl⟩⟩
    · exact .notANumber (by decide) invalid
    · exact .noticeTooShort hx limit beyond
    · exact .noticeTooLong hx limit beyond
  · obtain ⟨location, place, disallowed, isRemote, rfl⟩ := mem_remoteWorkFindings.1 remote
    exact .remoteWorkDisallowed place disallowed isRemote

theorem mem_findings_of_finds (h : t.Finds rules r f) : f ∈ (t.validate rules r).findings := by
  simp only [validate, List.mem_append, mem_requiredFindings, mem_dateFindings, salaryFindings,
    mem_numberFindings, mem_salaryRules, mem_wageFindings, mem_hoursFindings,
    mem_probationFindings, mem_noticeFindings, mem_remoteWorkFindings]
  cases h with
  | notANumber numeric invalid =>
    -- Each of the four fields has a group of its own.
    simp only [numericFields, List.mem_cons, List.not_mem_nil, or_false] at numeric
    rcases numeric with rfl | rfl | rfl | rfl <;> simp [invalid]
  | _ => grind

/-- **The findings** about a record are those that there are to make. -/
theorem mem_findings_iff : f ∈ (t.validate rules r).findings ↔ t.Finds rules r f :=
  ⟨finds_of_mem_findings, mem_findings_of_finds⟩

end ContractDocs.ContractType
