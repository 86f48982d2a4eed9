/-
Blueprints: the stages in which a workflow runner makes the documents of a
template. The stages are the same for all templates; what they work with is
the template's.
-/
import ContractDocs.Registry

namespace ContractDocs

/-- A stage and what it works with. -/
inductive Stage
  /-- Takes in the payload. -/
  | webhookReceive (templateId : String)
  /-- Loads the record. -/
  | fetchRecord
  /-- Fills the template. -/
  | renderTemplate (templateRef : String) (outputFormat : OutputFormat) (bindings : Dict Binding)
  /-- Writes the files. -/
  | exportDocument (outputFormat : OutputFormat)
  /-- Stores the files. -/
  | storeArtifact (outputFormat : OutputFormat) (naming : Option StoragePattern)
  /-- Notes on the record that its document is there. -/
  | patchRecord

namespace Stage

/-- The name of the stage's kind. -/
def kind : Stage → String
  | .webhookReceive _ => "webhook_receive"
  | .fetchRecord => "fetch_record"
  | .renderTemplate _ _ _ => "render_template"
  | .exportDocument _ => "export_document"
  | .storeArtifact _ _ => "store_artifact"
  | .patchRecord => "patch_record"

/-- The members of a payload. -/
def acceptedMembers : List String :=
  ["contract_type", "template_id", "output_format", "variables", "storage_hint"]

/-- The status of a record whose document is there. -/
def generatedStatus : String := "generated"

/-- What the stage works with, by name. -/
def parameters : Stage → Dict Json
  | .webhookReceive templateId =>
    .ofList [("template_id", .string templateId),
      ("accepts", .array (acceptedMembers.map .string))]
  | .fetchRecord => .ofList [("source", .string "contract_store"), ("lookup", .string "by_id")]
  | .renderTemplate templateRef outputFormat bindings =>
    .ofList [("template_ref", .string templateRef), ("output_format", outputFormat.toJson),
      ("bindings", (Json.ofDict (bindings.map Binding.toJson)).sorted)]
  | .exportDocument outputFormat =>
    .ofList [("formats", .array (outputFormat.exports.map .string))]
  | .storeArtifact outputFormat naming =>
    let fixed : Dict Json :=
      .ofList [("destination", .string "document_storage"), ("output_format", outputFormat.toJson)]
    match naming with
    | none => fixed
    | some p => fixed.insert "naming" p.toJson.sorted
  | .patchRecord =>
    .ofList [("target", .string "contract_store"),
      ("set", .object [("document_status", .string generatedStatus)])]

/-- The stage at a position, counted from one. -/
def toJson (order : Nat) (s : Stage) : Json :=
  .object [("order", .int order), ("kind", .string s.kind), ("parameters", .ofDict s.parameters)]

end Stage

/-- The stages of a template, in their order. -/
structure Blueprint where
  name : String
  stages : List Stage

namespace Blueprint

/-- The kinds of the stages, in their order. -/
def kinds (b : Blueprint) : List String := b.stages.map Stage.kind

/-- The stage of a kind. -/
def stage? (b : Blueprint) (kind : String) : Option Stage := b.stages.find? fun s => s.kind == kind

def toJson (b : Blueprint) : Json :=
  .object [("name", .string b.name),
    ("stages", .array ((b.stages.zipIdx 1).map fun (s, order) => s.toJson order))]

end Blueprint

/-- The blueprint of a template; the suffix, if it is not empty, follows the name. -/
def Template.blueprint (t : Template) (suffix : String) : Blueprint where
  name := if suffix.isEmpty then t.name else t.name ++ " " ++ suffix
  stages := [.webhookReceive t.id, .fetchRecord,
    .renderTemplate t.externalRef t.outputFormat t.bindings, .exportDocument t.outputFormat,
    .storeArtifact t.outputFormat t.storage, .patchRecord]

/-- The blueprint of the template with an id. -/
def Registry.blueprint (reg : Registry) (suffix templateId : String) :
    Except CompileError Blueprint :=
  (reg.template templateId).map fun t => t.blueprint suffix

/-- The blueprint of the template of a contract type. -/
def Registry.blueprintForType (reg : Registry) (suffix typeId : String) :
    Except CompileError Blueprint :=
  (reg.linkedTemplate typeId).map fun t => t.blueprint suffix

end ContractDocs
