/-
Expectations of a validation, and what is said when one is not met.
-/
import ContractDocs.Text.Quoted
import ContractDocs.Validation.Report

namespace ContractDocs

/-- What a validation is expected to find. -/
inductive Expectation
  | valid
  | invalid
  /-- Some error contains a text. -/
  | error (needle : String)
  /-- Some warning contains a text. -/
  | warning (needle : String)
  /-- The numbers of errors and warnings. -/
  | counts (errors warnings : Nat)
  deriving DecidableEq

namespace Expectation

def isMet (v : ValidationReport) : Expectation → Bool
  | .valid => v.isValid
  | .invalid => !v.isValid
  | .error needle => v.hasErrorContaining needle
  | .warning needle => v.hasWarningContaining needle
  | .counts errors warnings => v.errors.length == errors && v.warnings.length == warnings

/-- Two numbers in parentheses. -/
def pairText (m n : Nat) : String := "(" ++ toString m ++ ", " ++ toString n ++ ")"

/-- What is said when the expectation is not met. -/
def complaint (v : ValidationReport) : Expectation → String
  | .valid => "Expected a valid record, got errors: " ++ Text.quoteList v.errors
  | .invalid => "Expected an invalid record, but validation passed"
  | .error needle =>
    "Expected an error containing '" ++ needle ++ "', got: " ++ Text.quoteList v.errors
  | .warning needle =>
    "Expected a warning containing '" ++ needle ++ "', got: " ++ Text.quoteList v.warnings
  | .counts errors warnings =>
    "assertion `left == right` failed: Unexpected findings. Errors: " ++ Text.quoteList v.errors
      ++ " Warnings: " ++ Text.quoteList v.warnings
      ++ "\n  left: " ++ pairText v.errors.length v.warnings.length
      ++ "\n right: " ++ pairText errors warnings

/-- The complaint about a report, unless the expectation is met. -/
def complaint? (e : Expectation) (v : ValidationReport) : Option String :=
  if e.isMet v then none else some (e.complaint v)

end Expectation

end ContractDocs
