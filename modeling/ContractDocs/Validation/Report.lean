/-
Validation reports: the texts of errors and warnings, as callers see them.
-/
import ContractDocs.Json.Basic
import ContractDocs.Text.Search

namespace ContractDocs

/-- The texts of the findings about a record. -/
structure ValidationReport where
  errors : List String
  warnings : List String
  deriving DecidableEq

namespace ValidationReport

/-- Nothing rejects the record. -/
def isValid (v : ValidationReport) : Bool := v.errors.isEmpty

/-- Does an error contain a text? -/
def hasErrorContaining (v : ValidationReport) (needle : String) : Bool :=
  v.errors.any fun text => Text.contains text needle

/-- Does a warning contain a text? -/
def hasWarningContaining (v : ValidationReport) (needle : String) : Bool :=
  v.warnings.any fun text => Text.contains text needle

def toJson (v : ValidationReport) : Json :=
  .object [("is_valid", .bool v.isValid), ("errors", .array (v.errors.map .string)),
    ("warnings", .array (v.warnings.map .string))]

end ValidationReport

end ContractDocs
