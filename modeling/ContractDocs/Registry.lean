/-
Registries: consistent catalogs. `Catalog.build` checks a catalog once, so
that whatever is looked up later fits together.
-/
import ContractDocs.Catalog
import ContractDocs.CompileError

namespace ContractDocs

/-- Consistent contract types and templates by id. -/
structure Registry where
  types : Dict ContractType
  templates : Dict Template
  /-- One report for every type, in the order of the ids. -/
  coverage : List CoverageReport

namespace Catalog

/-- The first element that has come before. -/
def firstRepeated (seen : List String) : List String → Option String
  | [] => none
  | s :: rest => if seen.contains s then some s else firstRepeated (s :: seen) rest

def checkId (kind : EntryKind) (id : String) : Except ConfigError Unit :=
  if Text.isBlankText id then .error (.emptyIdentifier kind) else .ok ()

/-- No field is listed twice. -/
def checkFields (owner : String) (required optional : List String) : Except ConfigError Unit :=
  match firstRepeated [] (required ++ optional) with
  | some field => .error (.fieldOverlap owner field)
  | none => .ok ()

/-- No binding has a problem of its own. -/
def checkBindings (t : Template) : Except ConfigError Unit :=
  match t.bindings.entries.findSome? fun (name, b) => b.problem?.map fun p => (name, p) with
  | some (name, p) => .error (.malformedBinding t.id name p)
  | none => .ok ()

/-- Every placeholder of the storage pattern is bound. -/
def checkStorage (t : Template) : Except ConfigError Unit :=
  match t.storage with
  | none => .ok ()
  | some p =>
    match p.placeholderNames.find? fun name => !t.bindings.contains name with
    | some name => .error (.unknownStorageVariable t.id name)
    | none => .ok ()

/-- Checks a template and adds it to those before it. -/
def addTemplate (templates : Dict Template) (t : Template) :
    Except ConfigError (Dict Template) := do
  checkId .template t.id
  checkFields t.id t.requiredFields t.optionalFields
  checkBindings t
  checkStorage t
  if templates.contains t.id then throw (.duplicateTemplate t.id)
  return templates.insert t.id t

/-- The template of the type is in the catalog. -/
def checkLink (templates : Dict Template) (t : ContractType) : Except ConfigError Unit :=
  match t.templateId with
  | none => .ok ()
  | some id => if templates.contains id then .ok () else .error (.danglingTemplate t.id id)

/-- Checks a contract type and adds it to those before it. -/
def addType (templates : Dict Template) (types : Dict ContractType) (t : ContractType) :
    Except ConfigError (Dict ContractType) := do
  checkId .contractType t.id
  checkFields t.id t.requiredFields t.optionalFields
  checkLink templates t
  if types.contains t.id then throw (.duplicateType t.id)
  return types.insert t.id t

/-- The types that are linked to a template. -/
def linkedTo (types : Dict ContractType) (templateId : String) : List ContractType :=
  types.values.filter fun t => t.templateId == some templateId

/-- A variable and a field it reads that neither the template nor a type linked to it has. -/
def unknownField? (types : Dict ContractType) (t : Template) : Option (String × String) :=
  let linked := linkedTo types t.id
  t.bindings.entries.findSome? fun (name, b) =>
    (b.fields.find? fun field =>
      !(t.recognizes field || linked.any (·.recognizes field))).map fun field => (name, field)

/-- Every field that a binding reads is known. -/
def checkFieldsKnown (types : Dict ContractType) (t : Template) : Except ConfigError Unit :=
  match unknownField? types t with
  | some (name, field) => .error (.unknownBindingField t.id name field)
  | none => .ok ()

/-- The report of a type, which must be clean when that is demanded. -/
def checkCoverage (strict : Bool) (t : ContractType) : Except ConfigError CoverageReport :=
  let report := CoverageReport.of t
  if strict && !report.isClean then .error (.ruleDrift report) else .ok report

/-- Builds the registry of a catalog, or gives the first error: of the templates in their order,
then of the types in theirs, then of the fields that bindings read and of the coverage in the order
of the ids. -/
def build (c : Catalog) (strict : Bool) : Except ConfigError Registry := do
  let templates ← c.templates.foldlM addTemplate .empty
  let types ← c.contractTypes.foldlM (addType templates) .empty
  templates.values.forM (checkFieldsKnown types)
  let coverage ← types.values.mapM (checkCoverage strict)
  return ⟨types, templates, coverage⟩

end Catalog

namespace Registry

/-- The contract type with an id. -/
def contractType (r : Registry) (typeId : String) : Except CompileError ContractType :=
  match r.types.get? typeId with
  | some t => .ok t
  | none => .error (.unknownContractType typeId)

/-- The template with an id. -/
def template (r : Registry) (templateId : String) : Except CompileError Template :=
  match r.templates.get? templateId with
  | some t => .ok t
  | none => .error (.templateNotFound templateId)

/-- The template of a contract type. -/
def linkedTemplate (r : Registry) (typeId : String) : Except CompileError Template := do
  let t ← r.contractType typeId
  match t.templateId with
  | none => throw (.noTemplateLinked typeId)
  | some templateId => r.template templateId

/-- The types with a template. -/
def typesWithTemplates (r : Registry) : List ContractType :=
  r.types.values.filter (·.templateId.isSome)

/-- The types whose documents are made from a template. -/
def typesLinkedTo (r : Registry) (templateId : String) : List ContractType :=
  Catalog.linkedTo r.types templateId

def typesInCategory (r : Registry) (category : String) : List ContractType :=
  r.types.values.filter (·.category == category)

def templatesInCategory (r : Registry) (category : String) : List Template :=
  r.templates.values.filter (·.category == category)

end Registry

end ContractDocs
