/-
Compile errors: why no document can be made of a record, with stable codes and
a coarse class that tells bad requests from bad catalogs.
-/
import ContractDocs.Binding

namespace ContractDocs

/-- Why something could not be compiled for a record. -/
inductive CompileError
  | unknownContractType (typeId : String)
  | noTemplateLinked (typeId : String)
  | templateNotFound (templateId : String)
  /-- A field that the template requires is missing from the record. -/
  | missingRequiredField (templateId variableName field : String)
  | transformFailed (variableName : String) (error : BindingError)
  deriving DecidableEq

namespace CompileError

def message : CompileError → String
  | .unknownContractType typeId => "unknown contract type '" ++ typeId ++ "'"
  | .noTemplateLinked typeId => "no template linked to contract type '" ++ typeId ++ "'"
  | .templateNotFound templateId => "template not found: '" ++ templateId ++ "'"
  | .missingRequiredField templateId name field =>
    "consistency check failed: template '" ++ templateId ++ "' requires field '" ++ field
      ++ "' for variable '" ++ name ++ "' but the record does not provide it"
  | .transformFailed name e => "cannot compute variable '" ++ name ++ "': " ++ e.message

/-- The stable code of the error. -/
def code : CompileError → String
  | .unknownContractType _ => "CONTRACT-LOOKUP-TYPE"
  | .noTemplateLinked _ => "CONTRACT-LOOKUP-NO_TEMPLATE"
  | .templateNotFound _ => "CONTRACT-LOOKUP-TEMPLATE"
  | .missingRequiredField _ _ _ => "CONTRACT-COMPILE-INCONSISTENT"
  | .transformFailed _ _ => "CONTRACT-COMPILE-TRANSFORM"

end CompileError

/-- What is at fault in an error: the catalog, the request, or the record. -/
inductive ErrorClass
  | configuration
  | notFound
  | inconsistency
  | transform
  deriving DecidableEq

def ErrorClass.name : ErrorClass → String
  | .configuration => "configuration"
  | .notFound => "not_found"
  | .inconsistency => "inconsistency"
  | .transform => "transform"

namespace CompileError

/-- What is at fault. -/
def errorClass : CompileError → ErrorClass
  | .unknownContractType _ | .noTemplateLinked _ => .notFound
  | .templateNotFound _ => .configuration
  | .missingRequiredField _ _ _ => .inconsistency
  | .transformFailed _ _ => .transform

/-- The code and the message in one line. -/
def display (e : CompileError) : String := "[" ++ e.code ++ "] " ++ e.message

/-- The report of the error to a caller. -/
def toJson (e : CompileError) : Json :=
  .object [("code", .string e.code), ("class", .string e.errorClass.name),
    ("message", .string e.message)]

end CompileError

end ContractDocs
