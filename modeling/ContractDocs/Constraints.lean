/-
Constraints: the limits of a contract type that the validation enforces. What
is not set is not limited.
-/
import ContractDocs.Binding.Codec

namespace ContractDocs

/-- The limits of a contract type. -/
structure Constraints where
  maxDurationMonths : Option UInt32
  minDurationMonths : Option UInt32
  allowsSalary : Bool
  allowsProbation : Bool
  allowsRemoteWork : Bool
  maxWeeklyHours : Option Float
  maxProbationMonths : Option UInt32
  minNoticeDays : Option UInt32
  maxNoticeDays : Option UInt32
  /-- The least monthly wage in a currency. -/
  minimumWage : Dict Float
  deriving DecidableEq

namespace Constraints

/-- No limit at all. -/
def unlimited : Constraints := ⟨none, none, true, true, true, none, none, none, none, .empty⟩

instance : Inhabited Constraints := ⟨unlimited⟩

def withDuration (c : Constraints) (min max : Option UInt32) : Constraints :=
  { c with minDurationMonths := min, maxDurationMonths := max }

def withNotice (c : Constraints) (min max : Option UInt32) : Constraints :=
  { c with minNoticeDays := min, maxNoticeDays := max }

/-- Sets the least wage in a currency, which is named in upper case. -/
def withMinimumWage (c : Constraints) (currency : String) (amount : Float) : Constraints :=
  { c with minimumWage := c.minimumWage.insert (Text.upper currency) amount }

def toJson (c : Constraints) : Json :=
  let limit (n : Option UInt32) : Json := (n.map fun n => .int n.toNat).getD .null
  .object [("max_duration_months", limit c.maxDurationMonths),
    ("min_duration_months", limit c.minDurationMonths),
    ("allows_salary", .bool c.allowsSalary),
    ("allows_probation", .bool c.allowsProbation),
    ("allows_remote_work", .bool c.allowsRemoteWork),
    ("max_weekly_hours", (c.maxWeeklyHours.map .ofFloat).getD .null),
    ("max_probation_months", limit c.maxProbationMonths),
    ("min_notice_days", limit c.minNoticeDays),
    ("max_notice_days", limit c.maxNoticeDays),
    ("minimum_wage", .ofDict (c.minimumWage.map .ofFloat))]

end Constraints

namespace Json.Decode

def constraints : Decoder Constraints := fun v => do
  let limit := option uint32
  let m ← members (closedRecord "ContractConstraints"
    [("max_duration_months", check limit), ("min_duration_months", check limit),
      ("allows_salary", check boolean), ("allows_probation", check boolean),
      ("allows_remote_work", check boolean), ("max_weekly_hours", check (option number)),
      ("max_probation_months", check limit), ("min_notice_days", check limit),
      ("max_notice_days", check limit), ("minimum_wage", check (dict number))]) v
  return {
    maxDurationMonths := ← m.orElse "max_duration_months" limit none
    minDurationMonths := ← m.orElse "min_duration_months" limit none
    allowsSalary := ← m.orElse "allows_salary" boolean true
    allowsProbation := ← m.orElse "allows_probation" boolean true
    allowsRemoteWork := ← m.orElse "allows_remote_work" boolean true
    maxWeeklyHours := ← m.orElse "max_weekly_hours" (option number) none
    maxProbationMonths := ← m.orElse "max_probation_months" limit none
    minNoticeDays := ← m.orElse "min_notice_days" limit none
    maxNoticeDays := ← m.orElse "max_notice_days" limit none
    minimumWage := ← m.orElse "minimum_wage" (dict number) .empty
  }

end Json.Decode

end ContractDocs
