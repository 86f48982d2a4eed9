/-
Coverage: do the documented rules of a contract type and the checks that its
limits switch on agree?

They agree when every rule is enforced by a check, no rule cites a check that
is switched off, and every check that rejects records by a limit is cited by
a rule.
-/
import ContractDocs.ContractType

namespace ContractDocs

/-- Do the fields and limits of the type switch the check on? -/
def ContractType.enforces (t : ContractType) : RuleCheck → Bool
  | .requiredFields => !t.requiredFields.isEmpty
  | .dateOrder => true
  | .maxDuration => t.constraints.maxDurationMonths.isSome
  | .minDuration => t.constraints.minDurationMonths.isSome
  | .salaryDisallowed => !t.constraints.allowsSalary
  | .minimumWage => !t.constraints.minimumWage.isEmpty
  | .maxWeeklyHours => t.constraints.maxWeeklyHours.isSome
  | .maxProbation => t.constraints.allowsProbation && t.constraints.maxProbationMonths.isSome
  | .probationDisallowed => !t.constraints.allowsProbation
  | .noticeBounds => t.constraints.minNoticeDays.isSome || t.constraints.maxNoticeDays.isSome
  | .remoteWorkDisallowed => !t.constraints.allowsRemoteWork

/-- What a type's rules and checks disagree about. -/
structure CoverageReport where
  typeId : String
  /-- Rules that no check enforces. -/
  unenforced : List String
  /-- Rules that cite a check which is switched off. -/
  unbacked : List String
  /-- Rejecting checks that no rule cites. -/
  undocumented : List RuleCheck
  deriving DecidableEq

namespace CoverageReport

/-- The checks that reject records by a limit, which a rule must document. -/
def mustDocument : List RuleCheck :=
  [.maxDuration, .minDuration, .maxWeeklyHours, .maxProbation, .probationDisallowed, .noticeBounds]

def isUnenforced (r : BusinessRule) : Bool := r.enforcedBy.isNone

def isUnbacked (t : ContractType) (r : BusinessRule) : Bool :=
  match r.enforcedBy with
  | some c => !t.enforces c
  | none => false

/-- Does a rule of the type cite the check? -/
def isDocumented (t : ContractType) (c : RuleCheck) : Bool :=
  t.rules.any fun r => r.enforcedBy == some c

/-- The report of a contract type. -/
def of (t : ContractType) : CoverageReport where
  typeId := t.id
  unenforced := (t.rules.filter isUnenforced).map (·.statement)
  unbacked := (t.rules.filter (isUnbacked t)).map (·.statement)
  undocumented := mustDocument.filter fun c => t.enforces c && !isDocumented t c

/-- Rules and checks agree. -/
def isClean (r : CoverageReport) : Bool :=
  r.unenforced.isEmpty && r.unbacked.isEmpty && r.undocumented.isEmpty

/-- One line for each disagreement. -/
def findings (r : CoverageReport) : List String :=
  (r.unenforced.map fun s => "rule '" ++ s ++ "' is not enforced by any check")
    ++ (r.unbacked.map fun s =>
      "rule '" ++ s ++ "' cites a check whose constraint is not configured")
    ++ (r.undocumented.map fun c =>
      c.name ++ " is enforced but no business rule documents it")

def toJson (r : CoverageReport) : Json :=
  .object [("type_id", .string r.typeId), ("unenforced_rules", .array (r.unenforced.map .string)),
    ("unbacked_rules", .array (r.unbacked.map .string)),
    ("undocumented_checks", .array (r.undocumented.map RuleCheck.toJson))]

end CoverageReport

end ContractDocs
