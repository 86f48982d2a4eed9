/-
Wage floors: which of the floors that a type sets are applied, and to which
records.

A floor is looked up by the currency of the record, in upper case and without
the white space at its ends. So a floor that is set under a name of that form
is applied to every record that is paid in the currency, however the record
writes it, and a floor under any other name to none.

`wage_mem_warnings`: when a record is warned about its wage.
-/
import ContractDocs.Proofs.Capitals
import ContractDocs.Proofs.Findings

namespace ContractDocs

open Calendar

/-! ## The warning -/

namespace ContractType

/-- **A record is warned about its wage** exactly when there is a floor under
the code of its currency and its salary is below it. -/
theorem wage_mem_warnings {t : ContractType} {rules : DateRules} {r : Record}
    {amount floor : Float} {code : String} :
    .belowMinimumWage amount floor code ∈ (t.validate rules r).warnings ↔
      r.HasNumber .salary amount ∧ amount < floor ∧
        t.constraints.minimumWage.get? code = some floor ∧
        ∃ v, r.field? .currency = some v ∧ currencyCode v = code := by
  have warned : .belowMinimumWage amount floor code ∈ (t.validate rules r).warnings ↔
      t.Finds rules r (.belowMinimumWage amount floor code) := by
    rw [Validation.warnings, List.mem_filter, ← mem_findings_iff]
    exact and_iff_left rfl
  rw [warned]
  constructor
  · intro h
    cases h with
    | term start stop finds => cases finds
    | belowMinimumWage salary paidIn limit below => exact ⟨salary, below, limit, _, paidIn, rfl⟩
  · rintro ⟨salary, below, limit, v, paidIn, rfl⟩
    exact .belowMinimumWage salary paidIn limit below

end ContractType

/-! ## The floors that are applied -/

/-- The code of a currency: its name in upper case, without white space at its ends. -/
def codeOf (currency : String) : String := Text.upper (Text.trim currency)

/-- The currency of the record is this one, up to the case of letters and white space at the
ends. -/
def Record.PaidIn (r : Record) (currency : String) : Prop :=
  ∃ v, r.field? .currency = some v ∧ codeOf v.display = codeOf currency

namespace ContractType

/-- The floor is applied to every record that is paid in the currency. -/
def Applies (t : ContractType) (currency : String) (floor : Float) : Prop :=
  ∀ rules r amount, r.PaidIn currency → r.HasNumber .salary amount → amount < floor →
    .belowMinimumWage amount floor (codeOf currency) ∈ (t.validate rules r).warnings

/-- The type with a floor under a name that is taken as it is. -/
def withFloor (t : ContractType) (name : String) (floor : Float) : ContractType :=
  { t with constraints := { t.constraints with
    minimumWage := t.constraints.minimumWage.insert name floor } }

theorem applies_of_get? {t : ContractType} {currency : String} {floor : Float}
    (h : t.constraints.minimumWage.get? (codeOf currency) = some floor) :
    t.Applies currency floor := by
  rintro rules r amount ⟨v, hv, hcode⟩ hamount hlt
  exact wage_mem_warnings.2 ⟨hamount, hlt, h, v, hv, hcode⟩

theorem validate_withFloor {name : String} (h : codeOf name ≠ name) (t : ContractType)
    (floor : Float) (rules : DateRules) (r : Record) :
    (t.withFloor name floor).validate rules r = t.validate rules r := by
  -- A code is its own code, so no currency has this name for its code.
  have other : ∀ v, currencyCode v ≠ name := by
    rintro v rfl
    exact h (Text.upper_trim_upper_trim v.display)
  have same : (t.withFloor name floor).wageFindings = t.wageFindings := by
    funext amount v
    rw [wageFindings, withFloor, Dict.get?_insert_other _ _ (other v), wageFindings]
  have salary : (t.withFloor name floor).salaryFindings r = t.salaryFindings r := by
    simp only [salaryFindings]
    congr 1
    funext amount
    simp only [salaryRules, same]
    rfl
  simp only [validate, salary]
  rfl

/-- **A floor is applied to every record paid in its currency** when it is set
under the code of the currency; one that is set under any other name changes
nothing. Of the floors that `withMinimumWage` sets, these are the ones in a
currency without white space at its ends. -/
theorem wage_floors_apply (t : ContractType) (currency : String) (floor : Float) :
    (t.constraints.minimumWage.get? (codeOf currency) = some floor → t.Applies currency floor) ∧
    (codeOf currency ≠ currency → ∀ rules r,
      (t.withFloor currency floor).validate rules r = t.validate rules r) ∧
    let set := { t with constraints := t.constraints.withMinimumWage currency floor }
    (Text.trim currency = currency → set.Applies currency floor) ∧
    (Text.trim currency ≠ currency → ∀ rules r, set.validate rules r = t.validate rules r) := by
  refine ⟨applies_of_get?, fun h rules r => validate_withFloor h t floor rules r, fun h => ?_,
    fun h rules r => ?_⟩
  · refine applies_of_get? ?_
    rw [codeOf, h]
    exact Dict.get?_insert_self _ _ _
  · refine validate_withFloor ?_ t floor rules r
    exact fun code => h (Text.upper_trim_upper_iff.1 code)

/-- A floor of 325 rials that the setter puts under their code. -/
def withRialFloor : ContractType :=
  { ContractType.new "monthly" "Monthly" "wages" with
    constraints := Constraints.unlimited.withMinimumWage "omr" 325 }

/-- A salary of 300 rials, with white space around the currency. -/
def shortOfFloor : Record :=
  .ofList [("basic_salary", .int 300), ("currency", .string " omr ")]

theorem paidIn_shortOfFloor : shortOfFloor.PaidIn "omr" := ⟨.string " omr ", rfl, by decide⟩

theorem hasNumber_shortOfFloor : shortOfFloor.HasNumber .salary 300 := ⟨.int 300, rfl, by decide⟩

theorem wage_floors_apply_shortOfFloor :
    Text.trim "omr" = "omr" ∧ shortOfFloor.PaidIn "omr" ∧ shortOfFloor.HasNumber .salary 300 ∧
      (300 : Float) < 325 ∧
      .belowMinimumWage 300 325 "OMR" ∈
        (withRialFloor.validate Settings.standard.dateRules shortOfFloor).warnings := by
  have trimmed : Text.trim "omr" = "omr" := by decide
  have below : (300 : Float) < 325 := by decide
  obtain ⟨-, -, setter, -⟩ := wage_floors_apply (.new "monthly" "Monthly" "wages") "omr" 325
  exact ⟨trimmed, paidIn_shortOfFloor, hasNumber_shortOfFloor, below,
    setter trimmed _ _ _ paidIn_shortOfFloor hasNumber_shortOfFloor below⟩

/-- A catalog's floor of 325 rials under a name in lower case. -/
def lowerCaseFloor : Json :=
  .object [("category", .string "wages"),
    ("constraints", .object [("minimum_wage", .object [("omr", .int 325)])]),
    ("id", .string "monthly"), ("name", .string "Monthly")]

/-- A floor that a catalog writes under a name in lower case is not applied. -/
theorem not_applies_lowerCaseFloor : ∃ t floor,
    Json.Decode.contractType lowerCaseFloor = .ok t ∧
      t.constraints.minimumWage.get? "omr" = some floor ∧
      shortOfFloor.PaidIn "omr" ∧ shortOfFloor.HasNumber .salary 300 ∧ 300 < floor ∧
      (t.validate Settings.standard.dateRules shortOfFloor).warnings = [] := by
  refine ⟨_, _, rfl, rfl, paidIn_shortOfFloor, hasNumber_shortOfFloor, ?_, ?_⟩ <;> decide

end ContractType

end ContractDocs
