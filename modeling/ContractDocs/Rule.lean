/-
Business rules: what legal reviewers read, and which check of the validation
enforces it.
-/
import ContractDocs.Binding.Codec

namespace ContractDocs

/-- A check that the validation makes. -/
inductive RuleCheck
  | requiredFields
  | dateOrder
  | maxDuration
  | minDuration
  | salaryDisallowed
  | minimumWage
  | maxWeeklyHours
  | maxProbation
  | probationDisallowed
  | noticeBounds
  | remoteWorkDisallowed
  deriving DecidableEq

namespace RuleCheck

/-- Every check with its name. -/
def named : List (String × RuleCheck) :=
  [("required_fields", .requiredFields), ("date_order", .dateOrder),
    ("max_duration", .maxDuration), ("min_duration", .minDuration),
    ("salary_disallowed", .salaryDisallowed), ("minimum_wage", .minimumWage),
    ("max_weekly_hours", .maxWeeklyHours), ("max_probation", .maxProbation),
    ("probation_disallowed", .probationDisallowed), ("notice_bounds", .noticeBounds),
    ("remote_work_disallowed", .remoteWorkDisallowed)]

def name : RuleCheck → String
  | .requiredFields => "required_fields"
  | .dateOrder => "date_order"
  | .maxDuration => "max_duration"
  | .minDuration => "min_duration"
  | .salaryDisallowed => "salary_disallowed"
  | .minimumWage => "minimum_wage"
  | .maxWeeklyHours => "max_weekly_hours"
  | .maxProbation => "max_probation"
  | .probationDisallowed => "probation_disallowed"
  | .noticeBounds => "notice_bounds"
  | .remoteWorkDisallowed => "remote_work_disallowed"

def toJson (c : RuleCheck) : Json := .string c.name

end RuleCheck

/-- A rule in words, with the check that enforces it if there is one. -/
structure BusinessRule where
  statement : String
  enforcedBy : Option RuleCheck
  deriving DecidableEq

/-- A rule that a check enforces. -/
def BusinessRule.enforced (statement : String) (c : RuleCheck) : BusinessRule := ⟨statement, some c⟩

/-- A rule that is only written down. -/
def BusinessRule.documented (statement : String) : BusinessRule := ⟨statement, none⟩

def BusinessRule.toJson (r : BusinessRule) : Json :=
  .present [("statement", some (.string r.statement)),
    ("enforced_by", r.enforcedBy.map RuleCheck.toJson)]

namespace Json.Decode

def ruleCheck : Decoder RuleCheck := choice RuleCheck.named

def businessRule : Decoder BusinessRule := fun v => do
  let m ← members (closedRecord "BusinessRule"
    [("statement", check string), ("enforced_by", check (option ruleCheck))]) v
  return ⟨← m.need "statement" string, ← m.orElse "enforced_by" (option ruleCheck) none⟩

end Json.Decode

end ContractDocs
