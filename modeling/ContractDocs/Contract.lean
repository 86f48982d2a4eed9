/-
Contracts as they are stored, and filters that select some of them.
-/
import ContractDocs.Json.Decode
import ContractDocs.Record

namespace ContractDocs

/-- A record with its id and its contract type. -/
structure Contract where
  id : String
  contractType : String
  fields : Record

/-- Selects contracts by their type and by the values of fields. -/
structure ContractFilter where
  contractType : Option String
  fieldEquals : Dict Json

namespace Contract

/-- The field that says what came of the contract's document. -/
def statusField : String := "document_status"

/-- The field with the fingerprint of the payload that was accepted. -/
def fingerprintField : String := "document_fingerprint"

def toJson (c : Contract) : Json :=
  .object [("id", .string c.id), ("contract_type", .string c.contractType),
    ("fields", .ofDict c.fields)]

end Contract

namespace ContractFilter

/-- Selects every contract. -/
def all : ContractFilter := ⟨none, .empty⟩

/-- Selects further by the value of a field. -/
def withField (f : ContractFilter) (field : String) (v : Json) : ContractFilter :=
  { f with fieldEquals := f.fieldEquals.insert field v }

/-- Does the field have the value? Nothing is the same as an absent field. -/
def fieldIs (r : Record) (field : String) (v : Json) : Bool :=
  match r.get? field with
  | some w => w.same v
  | none => false

/-- Is the contract selected? -/
def selects (f : ContractFilter) (c : Contract) : Bool :=
  (match f.contractType with
    | some t => t == c.contractType
    | none => true)
    && f.fieldEquals.entries.all fun (field, v) => fieldIs c.fields field v

def toJson (f : ContractFilter) : Json :=
  .object ((f.contractType.map fun t => ("contract_type", Json.string t)).toList
    ++ [("field_equals", .ofDict f.fieldEquals)])

end ContractFilter

namespace Json.Decode

def contract : Decoder Contract := fun v => do
  let m ← members (openRecord "StoredContract"
    [("id", check string), ("contract_type", check string), ("fields", check (dict value))]) v
  return ⟨← m.need "id" string, ← m.need "contract_type" string, ← m.need "fields" (dict value)⟩

def contractFilter : Decoder ContractFilter := fun v => do
  let m ← members (openRecord "RecordFilter"
    [("contract_type", check (option string)), ("field_equals", check (dict value))]) v
  return ⟨← m.orElse "contract_type" (option string) none,
    ← m.orElse "field_equals" (dict value) .empty⟩

end Json.Decode

end ContractDocs
