/-
Rule coverage: what a coverage report says of a type, and what the validation
does to the records of the type. The report is made of the rules and limits
alone, the findings of a record; both speak of the same checks.

`enforces_of_finds`: a check that makes a finding is switched on by the type.
`Finding.isLimit_iff`: the checks that must be documented are those that
reject by a limit. So a limit that rejects a record is cited by a rule, or the
report says that it is not.
-/
import ContractDocs.Proofs.Consistency
import ContractDocs.Proofs.Findings

namespace ContractDocs

/-- The finding rejects by a limit on the duration, the hours, the probation or the notice. -/
def Finding.isLimit : Finding → Bool
  | .tooLong _ _ _ | .tooShort _ _ _ | .tooManyHours _ _ _ | .probationDisallowed _
  | .probationTooLong _ _ _ | .noticeTooShort _ _ _ | .noticeTooLong _ _ _ => true
  | _ => false

/-- The finding says that something could not be read, and comes from no rule. -/
def Finding.isUnreadable : Finding → Bool
  | .notADate _ | .notANumber _ => true
  | _ => false

theorem Finding.rejects_of_isLimit {f : Finding} (h : f.isLimit = true) : f.rejects = true := by
  cases f <;> first | rfl | cases h

/-- The checks that must be documented are those of the limits. -/
theorem Finding.isLimit_iff {f : Finding} :
    f.isLimit = true ↔ ∃ c ∈ CoverageReport.mustDocument, f.check? = some c := by
  cases f <;> simp [isLimit, check?, CoverageReport.mustDocument]

namespace ContractType

variable {t : ContractType} {rules : DateRules} {r : Record} {f : Finding} {c : RuleCheck}

/-- A business rule of the type cites the check. -/
def Cites (t : ContractType) (c : RuleCheck) : Prop := ∃ rule ∈ t.rules, rule.enforcedBy = some c

theorem isDocumented_iff : CoverageReport.isDocumented t c = true ↔ t.Cites c := by
  simp [CoverageReport.isDocumented, Cites]

/-! ## Checks that make findings -/

theorem enforces_of_findsTerm {policy : DurationPolicy} {first last : Calendar.Date}
    (h : t.FindsTerm policy first last f) (hc : f.check? = some c) : t.enforces c = true := by
  cases h with
  | endNotAfterStart order =>
    obtain rfl := Option.some.inj hc
    rfl
  | tooLong order limit beyond =>
    obtain rfl := Option.some.inj hc
    rw [enforces, limit, Option.isSome_some]
  | tooShort order limit beyond =>
    obtain rfl := Option.some.inj hc
    rw [enforces, limit, Option.isSome_some]

/-- A check that makes a finding is switched on. -/
theorem enforces_of_finds (h : t.Finds rules r f) (hc : f.check? = some c) :
    t.enforces c = true := by
  cases h with
  | term start stop finds => exact enforces_of_findsTerm finds hc
  | startNotADate | endNotADate | notANumber => cases hc
  | missing required absent =>
    obtain rfl := Option.some.inj hc
    simpa [enforces] using List.ne_nil_of_mem required
  | belowMinimumWage salary paidIn limit below =>
    obtain rfl := Option.some.inj hc
    have entry := Dict.get?_eq_some_iff.1 limit
    simpa [enforces, Dict.isEmpty] using List.ne_nil_of_mem entry
  | salaryDisallowed salary disallowed positive
  | probationDisallowed probation disallowed positive
  | remoteWorkDisallowed place disallowed remote =>
    obtain rfl := Option.some.inj hc
    rw [enforces, disallowed, Bool.not_false]
  | tooManyHours hours limit beyond =>
    obtain rfl := Option.some.inj hc
    rw [enforces, limit, Option.isSome_some]
  | probationTooLong probation allowed limit beyond =>
    obtain rfl := Option.some.inj hc
    rw [enforces, allowed, limit, Option.isSome_some, Bool.and_true]
  | noticeTooShort notice limit beyond =>
    obtain rfl := Option.some.inj hc
    rw [enforces, limit, Option.isSome_some, Bool.true_or]
  | noticeTooLong notice limit beyond =>
    obtain rfl := Option.some.inj hc
    rw [enforces, limit, Option.isSome_some, Bool.or_true]

/-- A finding about a record comes from a check that is switched on, unless something could not be
read. -/
theorem isUnreadable_or_enforces (h : t.Finds rules r f) :
    f.isUnreadable = true ∨ ∃ c, f.check? = some c ∧ t.enforces c = true := by
  cases hc : f.check? with
  | some c => exact .inr ⟨c, rfl, enforces_of_finds h hc⟩
  | none =>
    refine .inl ?_
    cases h with
    | term start stop finds => cases finds <;> cases hc
    | startNotADate | endNotADate | notANumber => rfl
    | _ => cases hc

/-! ## Limits and the rules that cite them -/

/-- A check that must be documented is cited, or the report complains that it is not. -/
theorem cites_or_mem_undocumented (hc : c ∈ CoverageReport.mustDocument)
    (enforced : t.enforces c = true) : t.Cites c ∨ c ∈ (CoverageReport.of t).undocumented := by
  by_cases cited : t.Cites c
  · exact .inl cited
  · have uncited : CoverageReport.isDocumented t c = false := by
      rw [← Bool.not_eq_true, isDocumented_iff]
      exact cited
    refine .inr (List.mem_filter.2 ⟨hc, ?_⟩)
    rw [enforced, uncited]
    rfl

theorem exists_check_of_isLimit (h : t.Finds rules r f) (hl : f.isLimit = true) :
    ∃ c, f.check? = some c ∧ (t.Cites c ∨ c ∈ (CoverageReport.of t).undocumented) := by
  obtain ⟨c, hc, check⟩ := Finding.isLimit_iff.1 hl
  exact ⟨c, check, cites_or_mem_undocumented hc (enforces_of_finds h check)⟩

theorem undocumented_of_isClean (h : (CoverageReport.of t).isClean = true) :
    (CoverageReport.of t).undocumented = [] := by
  simp only [CoverageReport.isClean, Bool.and_eq_true, List.isEmpty_iff] at h
  exact h.2

end ContractType

namespace Registry

variable {reg : Registry} {rules : DateRules} {typeId : String} {r : Record} {f : Finding}

/-- A limit that rejects a record is a limit of a type of the registry. -/
theorem finds_of_isLimit (h : f ∈ (reg.validate rules typeId r).errors) (hl : f.isLimit = true) :
    ∃ t, reg.types.get? typeId = some t ∧ t.Finds rules r f := by
  rw [Validation.errors, List.mem_filter, validate] at h
  cases ht : reg.types.get? typeId with
  | none =>
    rw [ht, List.mem_singleton] at h
    rw [h.1] at hl
    cases hl
  | some t =>
    rw [ht] at h
    exact ⟨t, rfl, ContractType.mem_findings_iff.1 h.1⟩

/-- Under strict coverage the rules of a type cite every limit that rejects a record. -/
theorem cites_of_build {c : Catalog} (hb : c.build true = .ok reg)
    (h : f ∈ (reg.validate rules typeId r).errors) (hl : f.isLimit = true) :
    ∃ t check, reg.types.get? typeId = some t ∧ f.check? = some check ∧ t.Cites check := by
  obtain ⟨t, ht, finds⟩ := finds_of_isLimit h hl
  obtain ⟨check, hcheck, cited | undocumented⟩ := ContractType.exists_check_of_isLimit finds hl
  · exact ⟨t, check, ht, hcheck, cited⟩
  · have listed := ((Catalog.holds_of_build hb).type_iff typeId t).1 ht
    have clean := (Catalog.build_eq_ok_iff.1 hb).1.coverage rfl t listed.1
    rw [ContractType.undocumented_of_isClean clean] at undocumented
    cases undocumented

end Registry

/-- **The coverage report describes the validation.** What the validation says
of a record comes from a check that the type switches on, unless something
could not be read; a limit that rejects the record is cited by a rule of the
type or listed as undocumented; and when a registry is built under strict
coverage, every limit that rejects a record is cited. -/
theorem coverage_describes_findings :
    (∀ (t : ContractType) (rules : DateRules) (r : Record),
      ∀ f ∈ (t.validate rules r).findings,
        (f.isUnreadable = true ∨ ∃ check, f.check? = some check) ∧
        (∀ check, f.check? = some check → t.enforces check = true) ∧
        (f.isLimit = true → f.rejects = true ∧ ∃ check, f.check? = some check ∧
          (t.Cites check ∨ check ∈ (CoverageReport.of t).undocumented))) ∧
    ∀ (c : Catalog) (reg : Registry), c.build true = .ok reg →
      ∀ (rules : DateRules) (typeId : String) (r : Record),
        ∀ f ∈ (reg.validate rules typeId r).errors, f.isLimit = true →
          ∃ t check, reg.types.get? typeId = some t ∧ f.check? = some check ∧ t.Cites check := by
  refine ⟨fun t rules r f hf => ⟨?_, ?_, ?_⟩, fun c reg hb rules typeId r f => ?_⟩
  · have finds := ContractType.mem_findings_iff.1 hf
    exact (ContractType.isUnreadable_or_enforces finds).imp_right fun ⟨c, hc, _⟩ => ⟨c, hc⟩
  · intro check hc
    exact ContractType.enforces_of_finds (ContractType.mem_findings_iff.1 hf) hc
  · intro hl
    have finds := ContractType.mem_findings_iff.1 hf
    exact ⟨Finding.rejects_of_isLimit hl, ContractType.exists_check_of_isLimit finds hl⟩
  · exact Registry.cites_of_build hb

/-- Work of at most 25 hours a week, as a rule says. -/
def shortWeeks : Catalog where
  contractTypes := [{ ContractType.new "part-time" "Part-Time" "employment" with
    rules := [.enforced "No more than 25 hours per week" .maxWeeklyHours]
    constraints := { Constraints.unlimited with maxWeeklyHours := some 25 } }]
  templates := []

def longWeek : Record := Dict.empty.insert Field.weeklyHours.name (.int 30)

/-- Thirty hours are rejected, and a rule cites the limit. -/
theorem coverage_describes_findings_longWeek :
    shortWeeks.build true = .ok shortWeeks.registry ∧
      .tooManyHours 30 25 "Part-Time" ∈ (shortWeeks.registry.validate
        Settings.standard.dateRules "part-time" longWeek).errors ∧
      (Finding.tooManyHours 30 25 "Part-Time").isLimit = true ∧
      ∃ t check, shortWeeks.registry.types.get? "part-time" = some t ∧
        (Finding.tooManyHours 30 25 "Part-Time").check? = some check ∧ t.Cites check := by
  have built : shortWeeks.build true = .ok shortWeeks.registry := by rfl
  have rejected : .tooManyHours 30 25 "Part-Time" ∈ (shortWeeks.registry.validate
      Settings.standard.dateRules "part-time" longWeek).errors := by decide
  exact ⟨built, rejected, rfl,
    coverage_describes_findings.2 _ _ built _ _ _ _ rejected rfl⟩

end ContractDocs
