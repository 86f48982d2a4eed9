/-
Configuration errors: why a catalog or the settings cannot be used. They are
found before any record is seen.
-/
import ContractDocs.Coverage

namespace ContractDocs

/-- Why a text could not be loaded. -/
inductive LoadFailure
  | notJson
  /-- The root of a catalog is not an object. -/
  | wrongRoot (found : Json)
  | undecodable (e : Json.DecodeError)
  | noSuchFile

/-- The kind of a JSON value. -/
def Json.kind : Json → String
  | .null => "null"
  | .bool _ => "a boolean"
  | .number _ => "a number"
  | .string _ => "a string"
  | .array _ => "an array"
  | .object _ => "an object"

def LoadFailure.message : LoadFailure → String
  | .notJson => "invalid JSON"
  | .wrongRoot found =>
    "catalog root must be an object with contract_types and templates, found " ++ found.kind
  | .undecodable e => e.message
  | .noSuchFile => "No such file or directory (os error 2)"

/-- What a catalog holds. -/
inductive EntryKind
  | contractType
  | template
  deriving DecidableEq

def EntryKind.text : EntryKind → String
  | .contractType => "contract type"
  | .template => "template"

/-- Why a catalog or the settings cannot be used. -/
inductive ConfigError
  | duplicateType (id : String)
  | duplicateTemplate (id : String)
  | emptyIdentifier (kind : EntryKind)
  /-- A field is listed twice by the entry with the id `owner`. -/
  | fieldOverlap (owner field : String)
  /-- A type has a template that is not in the catalog. -/
  | danglingTemplate (typeId templateId : String)
  /-- A binding reads a field that neither the template nor a type linked to it has. -/
  | unknownBindingField (templateId variableName field : String)
  | malformedBinding (templateId variableName : String) (problem : BindingProblem)
  /-- A storage pattern has a placeholder without a binding. -/
  | unknownStorageVariable (templateId variableName : String)
  /-- Rules and checks disagree, and the settings do not allow that. -/
  | ruleDrift (report : CoverageReport)
  /-- A text from `source` could not be loaded. -/
  | unloadable (source : String) (failure : LoadFailure)

namespace ConfigError

def message : ConfigError → String
  | .duplicateType id => "duplicate contract type id '" ++ id ++ "'"
  | .duplicateTemplate id => "duplicate template id '" ++ id ++ "'"
  | .emptyIdentifier kind => kind.text ++ " id cannot be empty or whitespace-only"
  | .fieldOverlap owner field =>
    owner ++ " lists field '" ++ field ++ "' more than once across required and optional fields"
  | .danglingTemplate typeId templateId =>
    "contract type '" ++ typeId ++ "' links to unknown template '" ++ templateId ++ "'"
  | .unknownBindingField templateId name field =>
    "template '" ++ templateId ++ "' binds '" ++ name ++ "' to unknown field '" ++ field ++ "'"
  | .malformedBinding templateId name problem =>
    "template '" ++ templateId ++ "' has a malformed binding for '" ++ name ++ "': "
      ++ problem.message
  | .unknownStorageVariable templateId name =>
    "template '" ++ templateId ++ "' storage pattern references unbound variable '" ++ name ++ "'"
  | .ruleDrift report =>
    "contract type '" ++ report.typeId ++ "' has business rule drift: "
      ++ "; ".intercalate report.findings
  | .unloadable source failure => "failed to load " ++ source ++ ": " ++ failure.message

/-- The stable code of the error. -/
def code : ConfigError → String
  | .duplicateType _ | .duplicateTemplate _ => "CONTRACT-CFG-DUPLICATE"
  | .emptyIdentifier _ => "CONTRACT-CFG-EMPTY_ID"
  | .fieldOverlap _ _ => "CONTRACT-CFG-FIELD_OVERLAP"
  | .danglingTemplate _ _ => "CONTRACT-CFG-DANGLING_TEMPLATE"
  | .unknownBindingField _ _ _ | .malformedBinding _ _ _ => "CONTRACT-CFG-BINDING"
  | .unknownStorageVariable _ _ => "CONTRACT-CFG-STORAGE"
  | .ruleDrift _ => "CONTRACT-CFG-RULE_DRIFT"
  | .unloadable _ _ => "CONTRACT-CFG-CATALOG"

end ConfigError

end ContractDocs
