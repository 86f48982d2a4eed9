/-
Validation: what a contract type's rules and limits say about a record.

The findings come group by group in a fixed order: required fields, dates and
duration, salary and minimum wage, working hours, probation, notice, remote
work. Each group reads only its own fields.
-/
import ContractDocs.Registry
import ContractDocs.Settings
import ContractDocs.Validation.Finding
import ContractDocs.Validation.Report

namespace ContractDocs

open Calendar

/-- The findings about a record, in the order of the rules. -/
structure Validation where
  findings : List Finding
  deriving DecidableEq

namespace Validation

/-- The findings that reject the record. -/
def errors (v : Validation) : List Finding := v.findings.filter Finding.rejects

def warnings (v : Validation) : List Finding := v.findings.filter Finding.isWarning

/-- Nothing rejects the record. -/
def isValid (v : Validation) : Bool := v.errors.isEmpty

/-- The findings in words. -/
def report (v : Validation) : ValidationReport :=
  ⟨v.errors.map Finding.text, v.warnings.map Finding.text⟩

end Validation

/-- How dates are read and months are counted. -/
structure DateRules where
  policy : DurationPolicy
  formats : DateFormats

def Settings.dateRules (s : Settings) : DateRules := ⟨s.durationPolicy, s.dateFormats⟩

namespace Record

/-- The field as a date. -/
def date (r : Record) (formats : DateFormats) (field : String) : Reading Date :=
  .ofPresent (fun v => (formats.parse v.display).toOption) (r.present? field)

/-- The value of a field that the validation reads. -/
def field? (r : Record) (f : Field) : Option Json := r.present? f.name

end Record

namespace ContractType

/-! ## The groups of rules -/

/-- Required fields that are absent, in the order of the type. -/
def requiredFindings (t : ContractType) (r : Record) : List Finding :=
  (t.requiredFields.filter fun field => (r.present? field).isNone).map fun field =>
    .missing field t.name

/-- A complaint about what is there and could not be read. -/
def unreadable (complaint : Finding) (reading : Reading α) : List Finding :=
  if reading.isInvalid then [complaint] else []

/-- The complaint, if the limit is set and the value is beyond it. -/
def beyond (limit : Option β) (isBeyond : β → Bool) (complaint : β → Finding) : List Finding :=
  match limit with
  | some b => if isBeyond b then [complaint b] else []
  | none => []

/-- Order and duration of a contract with both dates. -/
def durationFindings (t : ContractType) (policy : DurationPolicy) (first last : Date) :
    List Finding :=
  if last ≤ first then [.endNotAfterStart]
  else
    let months := policy.elapsedMonths first last
    beyond t.constraints.maxDurationMonths (fun max => (max.toNat : Int) < months)
        (fun max => .tooLong months max t.name)
      ++ beyond t.constraints.minDurationMonths (fun min => months < (min.toNat : Int))
        (fun min => .tooShort months min t.name)

def dateFindings (t : ContractType) (rules : DateRules) (r : Record) : List Finding :=
  let first := r.date rules.formats Field.startDate.name
  let last := r.date rules.formats Field.endDate.name
  unreadable (.notADate .startDate) first ++ unreadable (.notADate .endDate) last
    ++ match first.get?, last.get? with
      | some first, some last => t.durationFindings rules.policy first last
      | _, _ => []

/-- The currency as wage floors name it: without white space at its ends, in upper case. -/
def currencyCode (v : Json) : String := Text.upper (Text.trim v.display)

/-- A wage below the floor of its currency. -/
def wageFindings (t : ContractType) (amount : Float) (currency : Json) : List Finding :=
  let code := currencyCode currency
  beyond (t.constraints.minimumWage.get? code) (fun floor => amount < floor)
    (fun floor => .belowMinimumWage amount floor code)

/-- The findings about a field that holds a number: that it does not, or what the rules say of it. -/
def numberFindings (r : Record) (f : Field) (rules : Float → List Finding) : List Finding :=
  let reading := r.quantity f.name
  unreadable (.notANumber f) reading
    ++ match reading.get? with
      | none => []
      | some x => rules x

/-- What the rules say of a salary. -/
def salaryRules (t : ContractType) (currency : Option Json) (amount : Float) : List Finding :=
  (if !t.constraints.allowsSalary && 0 < amount then [.salaryDisallowed amount t.name] else [])
    ++ match currency with
      | some currency => t.wageFindings amount currency
      | none => []

def salaryFindings (t : ContractType) (r : Record) : List Finding :=
  numberFindings r .salary (t.salaryRules (r.field? .currency))

def hoursFindings (t : ContractType) (r : Record) : List Finding :=
  numberFindings r .weeklyHours fun hours =>
    beyond t.constraints.maxWeeklyHours (fun max => max < hours)
      (fun max => .tooManyHours hours max t.name)

def probationFindings (t : ContractType) (r : Record) : List Finding :=
  numberFindings r .probationMonths fun months =>
    if !t.constraints.allowsProbation then
      if 0 < months then [.probationDisallowed t.name] else []
    else
      beyond t.constraints.maxProbationMonths (fun max => max.toFloat < months)
        (fun max => .probationTooLong months max t.name)

def noticeFindings (t : ContractType) (r : Record) : List Finding :=
  numberFindings r .noticeDays fun days =>
    beyond t.constraints.minNoticeDays (fun min => days < min.toFloat)
        (fun min => .noticeTooShort days min t.name)
      ++ beyond t.constraints.maxNoticeDays (fun max => max.toFloat < days)
        (fun max => .noticeTooLong days max t.name)

/-- Is the place of work given as `remote`, in any case of the ASCII letters? -/
def isRemote (v : Json) : Bool := (Text.trim v.display).toList.map Char.toLower = "remote".toList

def remoteWorkFindings (t : ContractType) (r : Record) : List Finding :=
  match r.field? .workLocation with
  | some location =>
    if !t.constraints.allowsRemoteWork && isRemote location then [.remoteWorkDisallowed t.name]
    else []
  | none => []

/-- Validates a record against the type. -/
def validate (t : ContractType) (rules : DateRules) (r : Record) : Validation :=
  ⟨t.requiredFindings r ++ t.dateFindings rules r ++ t.salaryFindings r ++ t.hoursFindings r
    ++ t.probationFindings r ++ t.noticeFindings r ++ t.remoteWorkFindings r⟩

end ContractType

/-- Validates a record against a type of the registry. -/
def Registry.validate (reg : Registry) (rules : DateRules) (typeId : String) (r : Record) :
    Validation :=
  match reg.types.get? typeId with
  | some t => t.validate rules r
  | none => ⟨[.unknownType]⟩

end ContractDocs
