/-
Legality: which records a contract type allows, said of the record and the
limits and not of the findings.

`isValid_iff_legal`: the validation passes exactly the legal records.
`Legal.congr`: a record's legality depends on which required fields are there,
on the values of six fields, and on the limits that reject. So whatever else a
record or a type says, the warnings included, makes no difference.
-/
import ContractDocs.Validation

namespace ContractDocs

open Calendar

/-! ## What a record says -/

namespace Record

/-- The field is there, with a value that is not blank. -/
def Provides (r : Record) (field : String) : Prop :=
  ∃ v, r.get? field = some v ∧ v.isBlank = false

/-- The field holds a date. -/
def HasDate (r : Record) (formats : DateFormats) (f : Field) (d : Date) : Prop :=
  ∃ v, r.field? f = some v ∧ formats.parse v.display = .ok d

/-- The field holds a number. -/
def HasNumber (r : Record) (f : Field) (x : Float) : Prop :=
  ∃ v, r.field? f = some v ∧ v.quantity? = some x

/-- What the field holds is a date, if it is there. -/
def DateIfAny (r : Record) (formats : DateFormats) (f : Field) : Prop :=
  r.Provides f.name → ∃ d, r.HasDate formats f d

/-- What the field holds is a finite number, if it is there. -/
def NumberIfAny (r : Record) (f : Field) : Prop :=
  r.Provides f.name → ∃ x, r.HasNumber f x ∧ x.isFinite = true

theorem present?_eq_some_iff {r : Record} {field : String} {v : Json} :
    r.present? field = some v ↔ r.get? field = some v ∧ v.isBlank = false := by
  simp [present?, Option.filter_eq_some_iff]

theorem provides_iff {r : Record} {field : String} :
    r.Provides field ↔ ∃ v, r.present? field = some v := by
  simp only [Provides, present?_eq_some_iff]

theorem present?_eq_none_iff {r : Record} {field : String} :
    r.present? field = none ↔ ¬ r.Provides field := by
  rw [provides_iff, Option.eq_none_iff_forall_ne_some, not_exists]

end Record

theorem Decimal.isFinite_of_quantity? {cs : List Char} {x : Float}
    (h : Decimal.quantity? cs = some x) : x.isFinite = true := by
  have finite : ∀ {ds}, Decimal.finite? ds = some x → x.isFinite = true := fun h =>
    (Option.filter_eq_some_iff.1 h).2
  rw [Decimal.quantity?] at h
  split at h
  · split at h
    · exact finite h
    · cases h
  · exact finite h

/-- A value never reads as an infinity or as no number. -/
theorem Json.isFinite_of_quantity? {v : Json} {x : Float} (h : v.quantity? = some x) :
    x.isFinite = true := by
  cases v with
  | number n =>
    rw [quantity?] at h
    exact (Option.filter_eq_some_iff.1 h).2
  | string s => exact Decimal.isFinite_of_quantity? h
  | null | bool | array | object => cases h

namespace Reading

theorem get?_ofPresent (read : Json → Option α) (o : Option Json) :
    (ofPresent read o).get? = o.bind read := by
  cases o with
  | none => rfl
  | some v =>
    simp only [ofPresent, Option.bind_some]
    cases read v <;> rfl

theorem isInvalid_ofPresent_eq_false_iff {read : Json → Option α} {o : Option Json} :
    (ofPresent read o).isInvalid = false ↔ ∀ v, o = some v → ∃ a, read v = some a := by
  cases o with
  | none => simp [ofPresent, isInvalid]
  | some v =>
    simp only [ofPresent, Option.some.injEq, forall_eq']
    cases read v <;> simp [isInvalid]

end Reading

namespace Record

theorem get?_date_eq_some_iff {r : Record} {formats : DateFormats} {f : Field} {d : Date} :
    (r.date formats f.name).get? = some d ↔ r.HasDate formats f d := by
  simp only [date, Reading.get?_ofPresent, Option.bind_eq_some_iff, HasDate, field?]
  refine exists_congr fun v => and_congr_right fun _ => ?_
  cases formats.parse v.display <;> simp [Except.toOption]

theorem isInvalid_date_eq_false_iff {r : Record} {formats : DateFormats} {f : Field} :
    (r.date formats f.name).isInvalid = false ↔ r.DateIfAny formats f := by
  rw [date, Reading.isInvalid_ofPresent_eq_false_iff, DateIfAny, provides_iff]
  constructor
  · rintro h ⟨v, hv⟩
    obtain ⟨d, hd⟩ := h v hv
    exact ⟨d, get?_date_eq_some_iff.1 (by simp [date, Reading.get?_ofPresent, hv, hd])⟩
  · intro h v hv
    obtain ⟨d, w, hw, hd⟩ := h ⟨v, hv⟩
    rw [field?, hv, Option.some.injEq] at hw
    subst hw
    exact ⟨d, by simp [hd, Except.toOption]⟩

theorem get?_quantity_eq_some_iff {r : Record} {f : Field} {x : Float} :
    (r.quantity f.name).get? = some x ↔ r.HasNumber f x := by
  simp only [quantity, Reading.get?_ofPresent, Option.bind_eq_some_iff, HasNumber, field?]

theorem isInvalid_quantity_eq_false_iff {r : Record} {f : Field} :
    (r.quantity f.name).isInvalid = false ↔ r.NumberIfAny f := by
  rw [quantity, Reading.isInvalid_ofPresent_eq_false_iff, NumberIfAny, provides_iff]
  constructor
  · rintro h ⟨v, hv⟩
    obtain ⟨x, hx⟩ := h v hv
    exact ⟨x, ⟨v, hv, hx⟩, Json.isFinite_of_quantity? hx⟩
  · intro h v hv
    obtain ⟨x, ⟨w, hw, hx⟩, -⟩ := h ⟨v, hv⟩
    rw [field?, hv, Option.some.injEq] at hw
    subst hw
    exact ⟨x, hx⟩

end Record

/-! ## Legal records -/

/-- What a type asks of a contract with both dates. -/
structure ContractType.LegalTerm (t : ContractType) (policy : DurationPolicy) (first last : Date) :
    Prop where
  order : first < last
  longest : ∀ max, t.constraints.maxDurationMonths = some max →
    policy.elapsedMonths first last ≤ max.toNat
  shortest : ∀ min, t.constraints.minDurationMonths = some min →
    (min.toNat : Int) ≤ policy.elapsedMonths first last

/-- What a type asks of a record. A value does not exceed a limit when it is
not greater. -/
structure ContractType.Legal (t : ContractType) (rules : DateRules) (r : Record) : Prop where
  required : ∀ field ∈ t.requiredFields, r.Provides field
  startDate : r.DateIfAny rules.formats .startDate
  endDate : r.DateIfAny rules.formats .endDate
  term : ∀ first last, r.HasDate rules.formats .startDate first →
    r.HasDate rules.formats .endDate last → t.LegalTerm rules.policy first last
  salary : r.NumberIfAny .salary
  weeklyHours : r.NumberIfAny .weeklyHours
  probation : r.NumberIfAny .probationMonths
  notice : r.NumberIfAny .noticeDays
  maxHours : ∀ hours max, r.HasNumber .weeklyHours hours →
    t.constraints.maxWeeklyHours = some max → ¬ max < hours
  noProbation : ∀ months, r.HasNumber .probationMonths months →
    t.constraints.allowsProbation = false → ¬ 0 < months
  maxProbation : ∀ months max, r.HasNumber .probationMonths months →
    t.constraints.allowsProbation = true → t.constraints.maxProbationMonths = some max →
      ¬ max.toFloat < months
  minNotice : ∀ days min, r.HasNumber .noticeDays days →
    t.constraints.minNoticeDays = some min → ¬ days < min.toFloat
  maxNotice : ∀ days max, r.HasNumber .noticeDays days →
    t.constraints.maxNoticeDays = some max → ¬ max.toFloat < days

/-! ## Findings that only warn -/

/-- No finding rejects the record. -/
def Harmless (fs : List Finding) : Prop := ∀ f ∈ fs, f.isWarning = true

theorem Validation.isValid_iff_harmless {v : Validation} :
    v.isValid = true ↔ Harmless v.findings := by
  simp [isValid, errors, Harmless, Finding.rejects]

theorem harmless_nil : Harmless [] := by simp [Harmless]

theorem harmless_append {fs gs : List Finding} :
    Harmless (fs ++ gs) ↔ Harmless fs ∧ Harmless gs := by
  simp only [Harmless, List.mem_append, or_imp, forall_and]

theorem harmless_singleton {f : Finding} : Harmless [f] ↔ f.isWarning = true := by
  simp [Harmless]

namespace ContractType

theorem harmless_unreadable (complaint : Finding) (hc : complaint.isWarning = false)
    {reading : Reading α} :
    Harmless (unreadable complaint reading) ↔ reading.isInvalid = false := by
  rw [unreadable]
  split
  · next h => simp [harmless_singleton, hc, h]
  · next h => simp [harmless_nil, h]

theorem harmless_beyond {limit : Option β} {isBeyond : β → Bool} {complaint : β → Finding}
    (hc : ∀ b, (complaint b).isWarning = false) :
    Harmless (beyond limit isBeyond complaint) ↔
      ∀ b, limit = some b → isBeyond b = false := by
  cases limit with
  | none => simp [beyond, harmless_nil]
  | some b =>
    simp only [beyond, Option.some.injEq, forall_eq']
    split
    · next h => simp [harmless_singleton, hc, h]
    · next h => simpa [harmless_nil] using h

theorem harmless_numberFindings {r : Record} {f : Field} {rules : Float → List Finding} :
    Harmless (numberFindings r f rules) ↔
      r.NumberIfAny f ∧ ∀ x, r.HasNumber f x → Harmless (rules x) := by
  simp only [numberFindings, harmless_append, harmless_unreadable (.notANumber f) rfl,
    Record.isInvalid_quantity_eq_false_iff]
  refine and_congr_right fun _ => ?_
  simp only [← Record.get?_quantity_eq_some_iff]
  cases (r.quantity f.name).get? with
  | none => simp [harmless_nil]
  | some x => simp

theorem harmless_requiredFindings {t : ContractType} {r : Record} :
    Harmless (t.requiredFindings r) ↔ ∀ field ∈ t.requiredFields, r.Provides field := by
  simp only [Harmless, requiredFindings, List.mem_map, List.mem_filter, Option.isNone_iff_eq_none,
    Record.present?_eq_none_iff]
  constructor
  · intro h field hf
    by_cases hn : r.Provides field
    · exact hn
    · exact absurd (h _ ⟨field, ⟨hf, hn⟩, rfl⟩) (by simp [Finding.isWarning])
  · rintro h _ ⟨field, ⟨hf, hn⟩, rfl⟩
    exact absurd (h field hf) hn

theorem harmless_durationFindings {t : ContractType} {policy : DurationPolicy} {first last : Date} :
    Harmless (t.durationFindings policy first last) ↔ t.LegalTerm policy first last := by
  rw [durationFindings]
  split
  · next h =>
    refine iff_of_false (by simp [harmless_singleton, Finding.isWarning]) fun hl => ?_
    exact absurd h (Int.not_le.2 hl.order)
  · next h =>
    rw [harmless_append, harmless_beyond (by simp [Finding.isWarning]),
      harmless_beyond (by simp [Finding.isWarning])]
    simp only [decide_eq_false_iff_not, Int.not_lt]
    constructor
    · rintro ⟨hmax, hmin⟩
      exact ⟨Int.not_le.1 h, hmax, hmin⟩
    · rintro ⟨-, hmax, hmin⟩
      exact ⟨hmax, hmin⟩

theorem harmless_dateFindings {t : ContractType} {rules : DateRules} {r : Record} :
    Harmless (t.dateFindings rules r) ↔
      r.DateIfAny rules.formats .startDate ∧ r.DateIfAny rules.formats .endDate ∧
        ∀ first last, r.HasDate rules.formats .startDate first →
          r.HasDate rules.formats .endDate last → t.LegalTerm rules.policy first last := by
  simp only [dateFindings, harmless_append, and_assoc,
    harmless_unreadable (.notADate _) rfl, Record.isInvalid_date_eq_false_iff]
  refine and_congr_right fun _ => and_congr_right fun _ => ?_
  simp only [← Record.get?_date_eq_some_iff, ← harmless_durationFindings]
  cases (r.date rules.formats Field.startDate.name).get? with
  | none => simp [harmless_nil]
  | some first =>
    cases (r.date rules.formats Field.endDate.name).get? with
    | none => simp [harmless_nil]
    | some last => simp

/-- A salary is only warned about. -/
theorem harmless_salaryFindings {t : ContractType} {r : Record} :
    Harmless (t.salaryFindings r) ↔ r.NumberIfAny .salary := by
  rw [salaryFindings, harmless_numberFindings]
  refine and_iff_left fun amount _ => ?_
  unfold salaryRules
  refine harmless_append.2 ⟨?_, ?_⟩
  · split
    · exact harmless_singleton.2 rfl
    · exact harmless_nil
  · cases r.field? .currency with
    | none => exact harmless_nil
    | some currency =>
      simp only [wageFindings, beyond]
      cases t.constraints.minimumWage.get? (currencyCode currency) with
      | none => exact harmless_nil
      | some floor =>
        dsimp only
        split
        · exact harmless_singleton.2 rfl
        · exact harmless_nil

theorem harmless_hoursFindings {t : ContractType} {r : Record} :
    Harmless (t.hoursFindings r) ↔ r.NumberIfAny .weeklyHours ∧
      ∀ hours, r.HasNumber .weeklyHours hours →
        ∀ max, t.constraints.maxWeeklyHours = some max → ¬ max < hours := by
  rw [hoursFindings, harmless_numberFindings]
  refine and_congr_right fun _ => forall₂_congr fun hours _ => ?_
  rw [harmless_beyond (fun _ => rfl)]
  simp only [decide_eq_false_iff_not]

theorem harmless_probationFindings {t : ContractType} {r : Record} :
    Harmless (t.probationFindings r) ↔ r.NumberIfAny .probationMonths ∧
      ∀ months, r.HasNumber .probationMonths months →
        (t.constraints.allowsProbation = false → ¬ 0 < months) ∧
        (t.constraints.allowsProbation = true →
          ∀ max, t.constraints.maxProbationMonths = some max → ¬ max.toFloat < months) := by
  rw [probationFindings, harmless_numberFindings]
  refine and_congr_right fun _ => forall₂_congr fun months _ => ?_
  cases t.constraints.allowsProbation with
  | false =>
    simp only [Bool.not_false, if_true, true_implies, Bool.false_eq_true, false_implies, and_true]
    split
    · next h => simp [harmless_singleton, Finding.isWarning, h]
    · next h => simp [harmless_nil, h]
  | true =>
    simp only [Bool.not_true, Bool.false_eq_true, if_false, Bool.true_eq_false, false_implies,
      true_implies, true_and]
    rw [harmless_beyond (fun _ => rfl)]
    simp only [decide_eq_false_iff_not]

theorem harmless_noticeFindings {t : ContractType} {r : Record} :
    Harmless (t.noticeFindings r) ↔ r.NumberIfAny .noticeDays ∧
      ∀ days, r.HasNumber .noticeDays days →
        (∀ min, t.constraints.minNoticeDays = some min → ¬ days < min.toFloat) ∧
        (∀ max, t.constraints.maxNoticeDays = some max → ¬ max.toFloat < days) := by
  rw [noticeFindings, harmless_numberFindings]
  refine and_congr_right fun _ => forall₂_congr fun days _ => ?_
  rw [harmless_append, harmless_beyond (fun _ => rfl), harmless_beyond (fun _ => rfl)]
  simp only [decide_eq_false_iff_not]

theorem harmless_remoteWorkFindings (t : ContractType) (r : Record) :
    Harmless (t.remoteWorkFindings r) := by
  rw [remoteWorkFindings]
  cases r.field? .workLocation with
  | none => exact harmless_nil
  | some location =>
    dsimp only
    split
    · exact harmless_singleton.2 rfl
    · exact harmless_nil

/-! ## The validation passes the legal records -/

theorem isValid_iff_legal {t : ContractType} {rules : DateRules} {r : Record} :
    (t.validate rules r).isValid = true ↔ t.Legal rules r := by
  rw [Validation.isValid_iff_harmless]
  simp only [validate, harmless_append, harmless_requiredFindings, harmless_dateFindings,
    harmless_salaryFindings, harmless_hoursFindings, harmless_probationFindings,
    harmless_noticeFindings, harmless_remoteWorkFindings, and_true]
  constructor
  · rintro ⟨⟨⟨⟨⟨hr, hs, he, ht⟩, hsal⟩, hh, hmh⟩, hp, hmp⟩, hn, hmn⟩
    exact {
      required := hr
      startDate := hs
      endDate := he
      term := ht
      salary := hsal
      weeklyHours := hh
      probation := hp
      notice := hn
      maxHours := fun hours max hx => hmh hours hx max
      noProbation := fun months hx => (hmp months hx).1
      maxProbation := fun months max hx ha => (hmp months hx).2 ha max
      minNotice := fun days min hx => (hmn days hx).1 min
      maxNotice := fun days max hx => (hmn days hx).2 max }
  · intro h
    exact ⟨⟨⟨⟨⟨h.required, h.startDate, h.endDate, h.term⟩, h.salary⟩, h.weeklyHours,
      fun hours hx max => h.maxHours hours max hx⟩, h.probation,
      fun months hx => ⟨h.noProbation months hx, fun ha max => h.maxProbation months max hx ha⟩⟩,
      h.notice, fun days hx => ⟨fun min => h.minNotice days min hx,
        fun max => h.maxNotice days max hx⟩⟩

/-! ## What legality depends on -/

/-- Two types that ask the same fields and set the same limits, those aside
that only warn. -/
structure SameDemands (t t' : ContractType) : Prop where
  required : t.requiredFields = t'.requiredFields
  maxDuration : t.constraints.maxDurationMonths = t'.constraints.maxDurationMonths
  minDuration : t.constraints.minDurationMonths = t'.constraints.minDurationMonths
  probation : t.constraints.allowsProbation = t'.constraints.allowsProbation
  maxHours : t.constraints.maxWeeklyHours = t'.constraints.maxWeeklyHours
  maxProbation : t.constraints.maxProbationMonths = t'.constraints.maxProbationMonths
  minNotice : t.constraints.minNoticeDays = t'.constraints.minNoticeDays
  maxNotice : t.constraints.maxNoticeDays = t'.constraints.maxNoticeDays

/-- The fields whose values decide legality. -/
def decisiveFields : List Field :=
  [.startDate, .endDate, .salary, .weeklyHours, .probationMonths, .noticeDays]

/-- Two records that provide the same required fields and the same values of
the decisive ones. -/
structure SameEvidence (t : ContractType) (r r' : Record) : Prop where
  required : ∀ field ∈ t.requiredFields, (r.Provides field ↔ r'.Provides field)
  values : ∀ f ∈ decisiveFields, r.field? f = r'.field? f

theorem SameDemands.symm {t t' : ContractType} (h : t.SameDemands t') : t'.SameDemands t :=
  ⟨h.required.symm, h.maxDuration.symm, h.minDuration.symm, h.probation.symm, h.maxHours.symm,
    h.maxProbation.symm, h.minNotice.symm, h.maxNotice.symm⟩

theorem SameEvidence.symm {t t' : ContractType} {r r' : Record} (ht : t.SameDemands t')
    (h : t.SameEvidence r r') : t'.SameEvidence r' r :=
  ⟨fun field hf => (h.required field (ht.required ▸ hf)).symm, fun f hf => (h.values f hf).symm⟩

end ContractType

namespace Record

variable {r r' : Record} {formats : DateFormats} {f : Field}

theorem hasDate_congr (h : r.field? f = r'.field? f) {d : Date} :
    r.HasDate formats f d ↔ r'.HasDate formats f d := by
  rw [HasDate, HasDate, h]

theorem hasNumber_congr (h : r.field? f = r'.field? f) {x : Float} :
    r.HasNumber f x ↔ r'.HasNumber f x := by
  rw [HasNumber, HasNumber, h]

theorem provides_congr (h : r.field? f = r'.field? f) :
    r.Provides f.name ↔ r'.Provides f.name := by
  rw [field?, field?] at h
  rw [provides_iff, provides_iff, h]

theorem dateIfAny_congr (h : r.field? f = r'.field? f) :
    r.DateIfAny formats f ↔ r'.DateIfAny formats f := by
  simp only [DateIfAny, provides_congr h, hasDate_congr h]

theorem numberIfAny_congr (h : r.field? f = r'.field? f) :
    r.NumberIfAny f ↔ r'.NumberIfAny f := by
  simp only [NumberIfAny, provides_congr h, hasNumber_congr h]

end Record

namespace ContractType

theorem Legal.congr {t t' : ContractType} {rules : DateRules} {r r' : Record}
    (ht : t.SameDemands t') (hr : t.SameEvidence r r') (h : t.Legal rules r) :
    t'.Legal rules r' := by
  have hs := hr.values .startDate (by decide)
  have he := hr.values .endDate (by decide)
  have hh := hr.values .weeklyHours (by decide)
  have hp := hr.values .probationMonths (by decide)
  have hn := hr.values .noticeDays (by decide)
  exact {
    required := fun field hf =>
      have hf' : field ∈ t.requiredFields := ht.required ▸ hf
      (hr.required field hf').1 (h.required field hf')
    startDate := (Record.dateIfAny_congr hs).1 h.startDate
    endDate := (Record.dateIfAny_congr he).1 h.endDate
    term := fun first last hf hl =>
      have term := h.term first last
        ((Record.hasDate_congr hs).2 hf) ((Record.hasDate_congr he).2 hl)
      ⟨term.order, ht.maxDuration ▸ term.longest, ht.minDuration ▸ term.shortest⟩
    salary := (Record.numberIfAny_congr (hr.values .salary (by decide))).1 h.salary
    weeklyHours := (Record.numberIfAny_congr hh).1 h.weeklyHours
    probation := (Record.numberIfAny_congr hp).1 h.probation
    notice := (Record.numberIfAny_congr hn).1 h.notice
    maxHours := fun hours max hx hm =>
      h.maxHours hours max ((Record.hasNumber_congr hh).2 hx) (ht.maxHours ▸ hm)
    noProbation := fun months hx ha =>
      h.noProbation months ((Record.hasNumber_congr hp).2 hx) (ht.probation ▸ ha)
    maxProbation := fun months max hx ha hm =>
      h.maxProbation months max ((Record.hasNumber_congr hp).2 hx) (ht.probation ▸ ha)
        (ht.maxProbation ▸ hm)
    minNotice := fun days min hx hm =>
      h.minNotice days min ((Record.hasNumber_congr hn).2 hx) (ht.minNotice ▸ hm)
    maxNotice := fun days max hx hm =>
      h.maxNotice days max ((Record.hasNumber_congr hn).2 hx) (ht.maxNotice ▸ hm) }

/-- **The validation decides legality.** A record is valid exactly when it is
legal for the type, and a type with the same demands finds the same of a
record with the same evidence: no other field has a say, and no rule that only
warns. -/
theorem validate_decides (t : ContractType) (rules : DateRules) (r : Record) :
    ((t.validate rules r).isValid = true ↔ t.Legal rules r) ∧
      ∀ t' r', t.SameDemands t' → t.SameEvidence r r' →
        (t'.validate rules r').isValid = (t.validate rules r).isValid := by
  refine ⟨isValid_iff_legal, fun t' r' ht hr => ?_⟩
  rw [Bool.eq_iff_iff, isValid_iff_legal, isValid_iff_legal]
  exact ⟨Legal.congr ht.symm (hr.symm ht), Legal.congr ht hr⟩

end ContractType

end ContractDocs
