/-
The variables of a document: what a template's bindings make of a record.

The bindings are taken in the order of the variables' names, and the first one
that fails decides the error. A variable whose fields are all absent has no
value, unless the template requires one of them.
-/
import ContractDocs.CompileError
import ContractDocs.Template

namespace ContractDocs

/-- The values of the bound variables. -/
abbrev Variables := Dict Json

namespace Template

/-- The first field of a binding that the template requires and the record does not have. -/
def lackedField? (t : Template) (r : Record) (b : Binding) : Option String :=
  b.fields.find? fun field => t.requires field && (r.present? field).isNone

/-- The value of one variable, if it has one. -/
def variableValue (t : Template) (formats : DateFormats) (r : Record) (name : String)
    (b : Binding) : Except CompileError (Option Json) :=
  match t.lackedField? r b with
  | some field => .error (.missingRequiredField t.id name field)
  | none => (b.evaluate formats r).mapError (.transformFailed name)

/-- Adds a variable to those before it, if it has a value. -/
def bindVariable (t : Template) (formats : DateFormats) (r : Record) (bound : Variables)
    (entry : String × Binding) : Except CompileError Variables := do
  let (name, b) := entry
  match ← t.variableValue formats r name b with
  | some v => return bound.insert name v
  | none => return bound

/-- The variables of a record, or the error of the first one that fails. -/
def bind (t : Template) (formats : DateFormats) (r : Record) : Except CompileError Variables :=
  t.bindings.entries.foldlM (t.bindVariable formats r) .empty

end Template

end ContractDocs
