/-
Catalogs: the contract types and templates that a registry is built from, and
their JSON form. Both lists must be there and no other member may be, so a
misspelled section does not load as an empty one.
-/
import ContractDocs.ConfigError
import ContractDocs.Json.Tree
import ContractDocs.Template

namespace ContractDocs

/-- Contract types and templates, in the order in which they are listed. -/
structure Catalog where
  contractTypes : List ContractType
  templates : List Template

namespace Catalog

def empty : Catalog := ⟨[], []⟩

/-- Appends further types and templates. -/
def append (c d : Catalog) : Catalog :=
  ⟨c.contractTypes ++ d.contractTypes, c.templates ++ d.templates⟩

instance : Append Catalog := ⟨append⟩

def toJson (c : Catalog) : Json :=
  .object [("contract_types", .array (c.contractTypes.map ContractType.toJson)),
    ("templates", .array (c.templates.map Template.toJson))]

end Catalog

namespace Json.Decode

def catalog : Decoder Catalog := fun v => do
  let m ← members (closedRecord "CatalogDocument"
    [("contract_types", check (list contractType)), ("templates", check (list template))]) v
  return ⟨← m.need "contract_types" (list contractType), ← m.need "templates" (list template)⟩

end Json.Decode

namespace Catalog

/-- Reads a catalog. The root must be an object. -/
def ofText (s : String) : Except LoadFailure Catalog :=
  match Json.ofText? s with
  | none => .error .notJson
  | some (.object entries) => (Json.Decode.catalog (.object entries)).mapError .undecodable
  | some v => .error (.wrongRoot v)

/-- Reads a catalog that is given as a text. -/
def ofInlineText (s : String) : Except ConfigError Catalog :=
  (ofText s).mapError (.unloadable "<inline catalog>")

/-- Reads a catalog that stands in a file, if the file is there. -/
def ofFile (path : String) (content : Option String) : Except ConfigError Catalog :=
  let loaded := match content with
    | some s => ofText s
    | none => .error .noSuchFile
  loaded.mapError (.unloadable path)

end Catalog

end ContractDocs
