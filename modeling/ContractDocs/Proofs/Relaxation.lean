/-
Relaxation: a type that asks for less of its records. What is not limited is
limited least, so a limit may be lifted or taken away, but not set anew.

`Legal.relaxed`: what was legal stays so, one demand after the other. The
probation has two limits in one, whether there may be any and how long: where
it becomes allowed a longest one may be set at once, since the records so far
have none (`not_beyond_of_not_pos`). A maximum of hours may also be set anew if
it is not a number, as no hours are above that (`Decimal.not_lt_of_isNaN`).
-/
import ContractDocs.Proofs.Legality
import ContractDocs.Proofs.NumberOrder

namespace ContractDocs

/-- A maximum is lifted: there is none now, or there was one that was not larger. -/
def Lifted [LE β] (old new : Option β) : Prop := ∀ b, new = some b → ∃ a, old = some a ∧ a ≤ b

/-- A minimum is lowered: there is none now, or there was one that was not smaller. -/
def Lowered [LE β] (old new : Option β) : Prop := ∀ b, new = some b → ∃ a, old = some a ∧ b ≤ a

/-- The second type is no stricter than the first. -/
structure ContractType.RelaxedTo (t t' : ContractType) : Prop where
  required : t'.requiredFields ⊆ t.requiredFields
  maxDuration : Lifted t.constraints.maxDurationMonths t'.constraints.maxDurationMonths
  minDuration : Lowered t.constraints.minDurationMonths t'.constraints.minDurationMonths
  /-- A maximum that is not a number bounds nothing, whatever there was before. -/
  maxHours : (∃ max, t'.constraints.maxWeeklyHours = some max ∧ max.isNaN = true) ∨
    Lifted t.constraints.maxWeeklyHours t'.constraints.maxWeeklyHours
  probation : t.constraints.allowsProbation = true → t'.constraints.allowsProbation = true
  /-- A longest probation may be set where there was none to be. -/
  maxProbation : t'.constraints.allowsProbation = true →
    t.constraints.allowsProbation = false ∨
      Lifted t.constraints.maxProbationMonths t'.constraints.maxProbationMonths
  minNotice : Lowered t.constraints.minNoticeDays t'.constraints.minNoticeDays
  maxNotice : Lifted t.constraints.maxNoticeDays t'.constraints.maxNoticeDays

namespace Lifted

open Decimal

theorem not_lt {old new : Option Float} (h : Lifted old new) {x : Float}
    (within : ∀ a, old = some a → ¬ a < x) {b : Float} (hb : new = some b) : ¬ b < x := by
  obtain ⟨a, ha, le⟩ := h b hb
  exact fun beyond => within a ha (lt_of_le_of_lt le beyond)

theorem not_toFloat_lt {old new : Option UInt32} (h : Lifted old new) {x : Float}
    (within : ∀ a, old = some a → ¬ a.toFloat < x) {b : UInt32} (hb : new = some b) :
    ¬ b.toFloat < x := by
  obtain ⟨a, ha, le⟩ := h b hb
  exact fun beyond => within a ha (lt_of_le_of_lt (toFloat_le_toFloat le) beyond)

end Lifted

theorem Lowered.not_lt_toFloat {old new : Option UInt32} (h : Lowered old new) {x : Float}
    (within : ∀ a, old = some a → ¬ x < a.toFloat) {b : UInt32} (hb : new = some b) :
    ¬ x < b.toFloat := by
  obtain ⟨a, ha, le⟩ := h b hb
  exact fun beyond => within a ha (Decimal.lt_of_lt_of_le beyond (Decimal.toFloat_le_toFloat le))

/-- What is not positive is within every limit. -/
theorem not_beyond_of_not_pos {x : Float} (h : ¬ 0 < x) (max : UInt32) : ¬ max.toFloat < x :=
  fun beyond => h (Decimal.lt_of_le_of_lt (Decimal.zero_le_toFloat max) beyond)

namespace ContractType

variable {t t' : ContractType} {rules : DateRules} {r : Record}

theorem LegalTerm.relaxed {policy : DurationPolicy} {first last : Calendar.Date}
    (h : t.RelaxedTo t') (legal : t.LegalTerm policy first last) :
    t'.LegalTerm policy first last := by
  refine ⟨legal.order, fun max' hmax' => ?_, fun min' hmin' => ?_⟩
  · obtain ⟨max, hmax, le⟩ := h.maxDuration max' hmax'
    have within := legal.longest max hmax
    have le : max.toNat ≤ max'.toNat := le
    omega
  · obtain ⟨min, hmin, le⟩ := h.minDuration min' hmin'
    have within := legal.shortest min hmin
    have le : min'.toNat ≤ min.toNat := le
    omega

theorem Legal.maxHours_relaxed (h : t.RelaxedTo t') (legal : t.Legal rules r) {hours max : Float}
    (has : r.HasNumber .weeklyHours hours) (limit : t'.constraints.maxWeeklyHours = some max) :
    ¬ max < hours := by
  rcases h.maxHours with ⟨max', limit', unbounded⟩ | lifted
  · obtain rfl := Option.some.inj (limit.symm.trans limit')
    exact Decimal.not_lt_of_isNaN unbounded
  · exact lifted.not_lt (fun a => legal.maxHours hours a has) limit

theorem Legal.maxProbation_relaxed (h : t.RelaxedTo t') (legal : t.Legal rules r) {months : Float}
    {max : UInt32} (has : r.HasNumber .probationMonths months)
    (allowed : t'.constraints.allowsProbation = true)
    (limit : t'.constraints.maxProbationMonths = some max) : ¬ max.toFloat < months := by
  cases before : t.constraints.allowsProbation with
  | false => exact not_beyond_of_not_pos (legal.noProbation months has before) max
  | true =>
    have lifted := (h.maxProbation allowed).resolve_left (by simp [before])
    exact lifted.not_toFloat_lt (fun a => legal.maxProbation months a has before) limit

/-- What is legal stays so when less is asked for. -/
theorem Legal.relaxed (h : t.RelaxedTo t') (legal : t.Legal rules r) : t'.Legal rules r where
  required field hf := legal.required field (h.required hf)
  startDate := legal.startDate
  endDate := legal.endDate
  term first last start stop := (legal.term first last start stop).relaxed h
  salary := legal.salary
  weeklyHours := legal.weeklyHours
  probation := legal.probation
  notice := legal.notice
  maxHours _ _ has limit := legal.maxHours_relaxed h has limit
  noProbation months has disallowed := by
    refine legal.noProbation months has (Bool.eq_false_iff.2 fun allowed => ?_)
    rw [h.probation allowed] at disallowed
    cases disallowed
  maxProbation _ _ has allowed limit := legal.maxProbation_relaxed h has allowed limit
  minNotice days min has limit :=
    h.minNotice.not_lt_toFloat (fun a => legal.minNotice days a has) limit
  maxNotice days max has limit :=
    h.maxNotice.not_toFloat_lt (fun a => legal.maxNotice days a has) limit

end ContractType

/-- Every type of the first registry is in the second one, and no stricter there. -/
def Registry.RelaxedTo (reg reg' : Registry) : Prop :=
  ∀ typeId t, reg.types.get? typeId = some t →
    ∃ t', reg'.types.get? typeId = some t' ∧ t.RelaxedTo t'

/-- **Relaxing rejects nothing** that was accepted: a record that is valid for a
type is valid for one that is no stricter, under all settings, and so it is
when the registry is replaced by one with such types. -/
theorem valid_when_relaxed :
    (∀ (t t' : ContractType), t.RelaxedTo t' → ∀ (rules : DateRules) (r : Record),
      (t.validate rules r).isValid = true → (t'.validate rules r).isValid = true) ∧
    ∀ (reg reg' : Registry), reg.RelaxedTo reg' →
      ∀ (rules : DateRules) (typeId : String) (r : Record),
        (reg.validate rules typeId r).isValid = true →
          (reg'.validate rules typeId r).isValid = true := by
  have type (t t' : ContractType) (h : t.RelaxedTo t') (rules : DateRules) (r : Record)
      (valid : (t.validate rules r).isValid = true) : (t'.validate rules r).isValid = true :=
    ContractType.isValid_iff_legal.2 ((ContractType.isValid_iff_legal.1 valid).relaxed h)
  refine ⟨type, fun reg reg' h rules typeId r valid => ?_⟩
  rw [Registry.validate] at valid
  cases found : reg.types.get? typeId with
  | none =>
    rw [found] at valid
    cases valid
  | some t =>
    rw [found] at valid
    obtain ⟨t', found', relaxed⟩ := h typeId t found
    rw [Registry.validate, found']
    exact type t t' relaxed rules r valid

/-- Shifts of at most 40 hours a week, for people who know the work. -/
def skilledShifts : ContractType :=
  { ContractType.new "shifts" "Shifts" "employment" with
    requiredFields := ["badge"]
    constraints := { Constraints.unlimited with
      allowsProbation := false
      maxWeeklyHours := some 40
      minNoticeDays := some 30 } }

/-- The same with up to 45 hours, and for beginners, who are on probation for three months. -/
def openShifts : ContractType :=
  { ContractType.new "shifts" "Shifts" "employment" with
    constraints := { Constraints.unlimited with
      maxProbationMonths := some 3
      maxWeeklyHours := some 45
      minNoticeDays := some 14 } }

theorem skilledShifts_relaxedTo : skilledShifts.RelaxedTo openShifts where
  required := by simp [openShifts, ContractType.new]
  maxDuration := nofun
  minDuration := nofun
  maxHours := by
    refine .inr ?_
    rintro _ ⟨⟩
    exact ⟨40, rfl, by decide⟩
  probation := nofun
  maxProbation _ := .inl rfl
  minNotice := by
    rintro _ ⟨⟩
    exact ⟨30, rfl, by decide⟩
  maxNotice := nofun

def skilledShift : Record :=
  ((Dict.empty.insert "badge" (.string "7")).insert Field.weeklyHours.name (.int 40)).insert
    Field.probationMonths.name (.int 0)

theorem valid_when_relaxed_shifts :
    skilledShifts.RelaxedTo openShifts ∧
      (skilledShifts.validate Settings.standard.dateRules skilledShift).isValid = true ∧
      (openShifts.validate Settings.standard.dateRules skilledShift).isValid = true := by
  have valid : (skilledShifts.validate Settings.standard.dateRules skilledShift).isValid = true := by
    decide +kernel
  exact ⟨skilledShifts_relaxedTo, valid,
    valid_when_relaxed.1 _ _ skilledShifts_relaxedTo _ _ valid⟩

end ContractDocs
