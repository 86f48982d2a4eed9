/-
Templates of documents: the variables a document needs and how they are bound
to the fields of a record, the formats it is written in and where it goes.
-/
import ContractDocs.Binding.Codec
import ContractDocs.StoragePattern

namespace ContractDocs

/-- The formats of a document. -/
inductive OutputFormat
  | pdf
  | docx
  | both
  deriving DecidableEq

namespace OutputFormat

/-- Every choice of formats with its name. -/
def named : List (String × OutputFormat) := [("pdf", .pdf), ("docx", .docx), ("both", .both)]

def name : OutputFormat → String
  | .pdf => "pdf"
  | .docx => "docx"
  | .both => "both"

/-- The files to write. -/
def exports : OutputFormat → List String
  | .pdf => ["pdf"]
  | .docx => ["docx"]
  | .both => ["pdf", "docx"]

def toJson (f : OutputFormat) : Json := .string f.name

end OutputFormat

/-- A template of documents. -/
structure Template where
  id : String
  name : String
  category : String
  /-- The template's id in the rendering service. -/
  externalRef : String
  /-- What the placeholders stand for, for readers. -/
  placeholders : Dict String
  requiredFields : List String
  optionalFields : List String
  /-- The variables and where they come from. -/
  bindings : Dict Binding
  outputFormat : OutputFormat
  storage : Option StoragePattern

namespace Template

/-- A template without fields and variables. -/
def new (id name category externalRef : String) : Template :=
  ⟨id, name, category, externalRef, .empty, [], [], .empty, .pdf, none⟩

/-- A variable's placeholder in the text of the template: the name in double braces. -/
def placeholder (name : String) : String :=
  StoragePattern.placeholder (StoragePattern.placeholder name)

/-- Binds a variable and describes its placeholder. -/
def withBinding (t : Template) (name : String) (b : Binding) (description : String) : Template :=
  { t with
    placeholders := t.placeholders.insert (placeholder name) description
    bindings := t.bindings.insert name b }

/-- Binds several variables, each with its description. -/
def withBindings (t : Template) (bs : List (String × Binding × String)) : Template :=
  bs.foldl (fun t (name, b, description) => t.withBinding name b description) t

/-- Is a document impossible without the field? -/
def requires (t : Template) (field : String) : Bool := t.requiredFields.contains field

/-- Is the field one of the template, required or not? -/
def recognizes (t : Template) (field : String) : Bool :=
  t.requires field || t.optionalFields.contains field

def toJson (t : Template) : Json :=
  .present [("id", some (.string t.id)), ("name", some (.string t.name)),
    ("category", some (.string t.category)),
    ("external_template_ref", some (.string t.externalRef)),
    ("placeholders", some (.ofDict (t.placeholders.map .string))),
    ("required_fields", some (.array (t.requiredFields.map .string))),
    ("optional_fields", some (.array (t.optionalFields.map .string))),
    ("variable_bindings", some (.ofDict (t.bindings.map Binding.toJson))),
    ("output_format", some t.outputFormat.toJson),
    ("storage_pattern", t.storage.map StoragePattern.toJson)]

end Template

namespace Json.Decode

def outputFormat : Decoder OutputFormat := choice OutputFormat.named

def template : Decoder Template := fun v => do
  let m ← members (closedRecord "TemplateConfig"
    [("id", check string), ("name", check string), ("category", check string),
      ("external_template_ref", check string), ("placeholders", check (dict string)),
      ("required_fields", check (list string)), ("optional_fields", check (list string)),
      ("variable_bindings", check (dict binding)), ("output_format", check outputFormat),
      ("storage_pattern", check (option storagePattern))]) v
  return {
    id := ← m.need "id" string
    name := ← m.need "name" string
    category := ← m.need "category" string
    externalRef := ← m.need "external_template_ref" string
    placeholders := ← m.orElse "placeholders" (dict string) .empty
    requiredFields := ← m.orElse "required_fields" (list string) []
    optionalFields := ← m.orElse "optional_fields" (list string) []
    bindings := ← m.orElse "variable_bindings" (dict binding) .empty
    outputFormat := ← m.orElse "output_format" outputFormat .pdf
    storage := ← m.orElse "storage_pattern" (option storagePattern) none
  }

end Json.Decode

end ContractDocs
