/-
Payloads: what the rendering service is sent to make a document.

A payload has one text, with the members in the order of the structure and
objects inside it in the order of their names. The fingerprint is taken of
that text, so equal payloads have equal fingerprints.
-/
import ContractDocs.Digest.Hex
import ContractDocs.Digest.Sha256
import ContractDocs.Registry
import ContractDocs.Variables

namespace ContractDocs

/-- The body of a request to the rendering service. -/
structure Payload where
  contractType : String
  /-- The template's id in the rendering service. -/
  templateRef : String
  outputFormat : OutputFormat
  /-- The values of the variables. -/
  values : Variables
  /-- Where the document is to be stored. -/
  storageHint : Option String

namespace Payload

def toJson (p : Payload) : Json :=
  .present [("contract_type", some (.string p.contractType)),
    ("template_id", some (.string p.templateRef)),
    ("output_format", some p.outputFormat.toJson),
    ("variables", some (.ofDict p.values)),
    ("storage_hint", p.storageHint.map .string)]

/-- The text that is sent. -/
def body (p : Payload) : String := p.toJson.text

/-- The number of bytes of the digest that the fingerprint shows. -/
def fingerprintSize : Nat := 16

/-- The first bytes of the SHA-256 digest of the text, in hexadecimal. -/
def fingerprint (p : Payload) : String :=
  Digest.hex ((Digest.sha256 p.body.toUTF8.data.toList).take fingerprintSize)

/-- The value of a variable. -/
def value? (p : Payload) (name : String) : Option Json := p.values.get? name

end Payload

namespace Json.Decode

def payload : Decoder Payload := fun v => do
  let m ← members (openRecord "WebhookPayload"
    [("contract_type", check string), ("template_id", check string),
      ("output_format", check outputFormat), ("variables", check (dict value)),
      ("storage_hint", check (option string))]) v
  return {
    contractType := ← m.need "contract_type" string
    templateRef := ← m.need "template_id" string
    outputFormat := ← m.need "output_format" outputFormat
    values := ← m.need "variables" (dict value)
    storageHint := ← m.orElse "storage_hint" (option string) none
  }

end Json.Decode

/-- The payload that a template makes of a record. -/
def Template.payload (t : Template) (formats : DateFormats) (typeId : String) (r : Record) :
    Except CompileError Payload := do
  let values ← t.bind formats r
  return ⟨typeId, t.externalRef, t.outputFormat, values, t.storage.map fun p => p.render values⟩

/-- The payload of a record of a contract type. -/
def Registry.payload (reg : Registry) (formats : DateFormats) (typeId : String) (r : Record) :
    Except CompileError Payload := do
  (← reg.linkedTemplate typeId).payload formats typeId r

end ContractDocs
