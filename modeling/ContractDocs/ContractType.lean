/-
Contract types: which fields a record of the type has, which rules and limits
apply to it, and which values it has unless others are given.
-/
import ContractDocs.Constraints
import ContractDocs.Rule

namespace ContractDocs

/-- A type of contract. -/
structure ContractType where
  id : String
  /-- The name in findings. -/
  name : String
  description : String
  category : String
  requiredFields : List String
  optionalFields : List String
  rules : List BusinessRule
  constraints : Constraints
  /-- The values of fields that a record leaves out. -/
  defaults : Dict Json
  /-- The template of its documents, by id. -/
  templateId : Option String

namespace ContractType

/-- A type without fields, rules and limits. -/
def new (id name category : String) : ContractType :=
  ⟨id, name, "", category, [], [], [], .unlimited, .empty, none⟩

/-- Appends a rule. -/
def withRule (t : ContractType) (r : BusinessRule) : ContractType :=
  { t with rules := t.rules ++ [r] }

def withDefault (t : ContractType) (field : String) (v : Json) : ContractType :=
  { t with defaults := t.defaults.insert field v }

/-- Is the field one of the type, required or not? -/
def recognizes (t : ContractType) (field : String) : Bool :=
  t.requiredFields.contains field || t.optionalFields.contains field

/-- Puts a default into a field that is missing or blank. -/
def fillField (filled : Record × List String) (default : String × Json) : Record × List String :=
  let (r, names) := filled
  let (field, v) := default
  if (r.present? field).isSome then (r, names) else (r.insert field v, names ++ [field])

/-- Fills the fields that are missing or blank from the defaults; gives their names too, in
order. -/
def applyDefaults (t : ContractType) (r : Record) : Record × List String :=
  t.defaults.entries.foldl fillField (r, [])

def toJson (t : ContractType) : Json :=
  .present [("id", some (.string t.id)), ("name", some (.string t.name)),
    ("description", some (.string t.description)), ("category", some (.string t.category)),
    ("required_fields", some (.array (t.requiredFields.map .string))),
    ("optional_fields", some (.array (t.optionalFields.map .string))),
    ("business_rules", some (.array (t.rules.map BusinessRule.toJson))),
    ("constraints", some t.constraints.toJson), ("default_values", some (.ofDict t.defaults)),
    ("linked_template_id", t.templateId.map .string)]

end ContractType

namespace Json.Decode

def contractType : Decoder ContractType := fun v => do
  let m ← members (closedRecord "ContractTypeConfig"
    [("id", check string), ("name", check string), ("description", check string),
      ("category", check string), ("required_fields", check (list string)),
      ("optional_fields", check (list string)), ("business_rules", check (list businessRule)),
      ("constraints", check constraints), ("default_values", check (dict value)),
      ("linked_template_id", check (option string))]) v
  return {
    id := ← m.need "id" string
    name := ← m.need "name" string
    description := ← m.orElse "description" string ""
    category := ← m.need "category" string
    requiredFields := ← m.orElse "required_fields" (list string) []
    optionalFields := ← m.orElse "optional_fields" (list string) []
    rules := ← m.orElse "business_rules" (list businessRule) []
    constraints := ← m.orElse "constraints" constraints .unlimited
    defaults := ← m.orElse "default_values" (dict value) .empty
    templateId := ← m.orElse "linked_template_id" (option string) none
  }

end Json.Decode

end ContractDocs
