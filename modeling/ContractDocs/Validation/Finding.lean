/-
Findings: what the validation says about a record. A finding either rejects
the record or only warns.
-/
import ContractDocs.ContractType

namespace ContractDocs

/-- The fields that the validation reads itself, besides those that a type requires. -/
inductive Field
  | startDate
  | endDate
  | salary
  | currency
  | weeklyHours
  | probationMonths
  | noticeDays
  | workLocation
  deriving DecidableEq

/-- The name of the field in records. -/
def Field.name : Field → String
  | .startDate => "contract_start_date"
  | .endDate => "contract_end_date"
  | .salary => "basic_salary"
  | .currency => "currency"
  | .weeklyHours => "working_hours_per_week"
  | .probationMonths => "probation_period_months"
  | .noticeDays => "notice_period_days"
  | .workLocation => "work_location"

/-- What is said about a record. Limits come with the value that is beyond them, and most findings
with the name of the contract type. -/
inductive Finding
  | unknownType
  | missing (field typeName : String)
  | notADate (field : Field)
  | notANumber (field : Field)
  | endNotAfterStart
  | tooLong (months : Int) (max : UInt32) (typeName : String)
  | tooShort (months : Int) (min : UInt32) (typeName : String)
  | salaryDisallowed (amount : Float) (typeName : String)
  | belowMinimumWage (amount floor : Float) (currency : String)
  | tooManyHours (hours max : Float) (typeName : String)
  | probationDisallowed (typeName : String)
  | probationTooLong (months : Float) (max : UInt32) (typeName : String)
  | noticeTooShort (days : Float) (min : UInt32) (typeName : String)
  | noticeTooLong (days : Float) (max : UInt32) (typeName : String)
  | remoteWorkDisallowed (typeName : String)
  deriving DecidableEq

namespace Finding

/-- A warning is advice and rejects nothing. -/
def isWarning : Finding → Bool
  | .salaryDisallowed _ _ | .belowMinimumWage _ _ _ | .remoteWorkDisallowed _ => true
  | _ => false

/-- Does the finding reject the record? -/
def rejects (f : Finding) : Bool := !f.isWarning

/-- The check that a finding comes from; what cannot be read at all comes from none. -/
def check? : Finding → Option RuleCheck
  | .unknownType | .notADate _ | .notANumber _ => none
  | .missing _ _ => some .requiredFields
  | .endNotAfterStart => some .dateOrder
  | .tooLong _ _ _ => some .maxDuration
  | .tooShort _ _ _ => some .minDuration
  | .salaryDisallowed _ _ => some .salaryDisallowed
  | .belowMinimumWage _ _ _ => some .minimumWage
  | .tooManyHours _ _ _ => some .maxWeeklyHours
  | .probationDisallowed _ => some .probationDisallowed
  | .probationTooLong _ _ _ => some .maxProbation
  | .noticeTooShort _ _ _ | .noticeTooLong _ _ _ => some .noticeBounds
  | .remoteWorkDisallowed _ => some .remoteWorkDisallowed

def intText (n : Int) : String := String.ofList (Json.intChars n)

def limitText (n : UInt32) : String := intText n.toNat

/-- The finding in words. -/
def text : Finding → String
  | .unknownType => "unknown contract type"
  | .missing field typeName => field ++ " is required for " ++ typeName
  | .notADate field => field.name ++ " is not a valid date"
  | .notANumber field => field.name ++ " is not a valid number"
  | .endNotAfterStart => Field.endDate.name ++ " must be after " ++ Field.startDate.name
  | .tooLong months max typeName =>
    "Contract duration of " ++ intText months ++ " months exceeds the maximum of "
      ++ limitText max ++ " months for " ++ typeName
  | .tooShort months min typeName =>
    "Contract duration of " ++ intText months ++ " months is below the minimum of "
      ++ limitText min ++ " months for " ++ typeName
  | .salaryDisallowed amount typeName =>
    Field.salary.name ++ " of " ++ Decimal.displayText amount ++ " is set but " ++ typeName
      ++ " does not provide for a salary"
  | .belowMinimumWage amount floor currency =>
    Field.salary.name ++ " of " ++ Decimal.displayText amount ++ " " ++ currency
      ++ " is below the minimum wage of " ++ Decimal.displayText floor ++ " " ++ currency
  | .tooManyHours hours max typeName =>
    Field.weeklyHours.name ++ " of " ++ Decimal.displayText hours ++ " exceeds the maximum of "
      ++ Decimal.displayText max ++ " hours for " ++ typeName
  | .probationDisallowed typeName => typeName ++ " does not allow a probation period"
  | .probationTooLong months max typeName =>
    Field.probationMonths.name ++ " of " ++ Decimal.displayText months
      ++ " exceeds the maximum of " ++ limitText max ++ " months for " ++ typeName
  | .noticeTooShort days min typeName =>
    Field.noticeDays.name ++ " of " ++ Decimal.displayText days ++ " is below the minimum of "
      ++ limitText min ++ " days for " ++ typeName
  | .noticeTooLong days max typeName =>
    Field.noticeDays.name ++ " of " ++ Decimal.displayText days ++ " exceeds the maximum of "
      ++ limitText max ++ " days for " ++ typeName
  | .remoteWorkDisallowed typeName =>
    typeName ++ " does not allow remote work but " ++ Field.workLocation.name ++ " is remote"

end Finding

end ContractDocs
