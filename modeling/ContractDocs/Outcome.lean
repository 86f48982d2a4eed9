/-
Outcomes: what comes of a record of a contract type. The record is completed
from the defaults of its type, validated, and compiled as far as the result
allows.

The payload is compiled only for a valid record, the blueprint whenever it is
asked for. Of two failures the payload's is the one that is reported.
-/
import ContractDocs.Blueprint
import ContractDocs.Payload
import ContractDocs.Validation

namespace ContractDocs

/-- A record to process. -/
structure Request where
  typeId : String
  record : Record
  wantBlueprint : Bool

/-- What came of a request. -/
structure Outcome where
  validation : Validation
  payload : Option Payload
  blueprint : Option Blueprint
  /-- The first failure to compile. -/
  error : Option CompileError
  /-- The fields that were filled from the defaults of the type. -/
  appliedDefaults : List String

/-- A compilation, if it was tried. -/
abbrev Attempt (α : Type) := Option (Except CompileError α)

/-- What was compiled. -/
def Attempt.result? : Attempt α → Option α
  | some (.ok a) => some a
  | _ => none

/-- Why nothing was compiled. -/
def Attempt.failure? : Attempt α → Option CompileError
  | some (.error e) => some e
  | _ => none

namespace Outcome

/-- The outcome of the stages. -/
def ofStages (appliedDefaults : List String) (validation : Validation) (payload : Attempt Payload)
    (blueprint : Attempt Blueprint) : Outcome :=
  ⟨validation, payload.result?, blueprint.result?, payload.failure?.or blueprint.failure?,
    appliedDefaults⟩

/-- There is a payload to dispatch. -/
def isReady (o : Outcome) : Bool := o.payload.isSome

def toJson (o : Outcome) : Json :=
  .present [("validation", some o.validation.report.toJson),
    ("payload", o.payload.map Payload.toJson), ("blueprint", o.blueprint.map Blueprint.toJson),
    ("error", o.error.map CompileError.toJson),
    ("applied_defaults", if o.appliedDefaults.isEmpty then none
      else some (.array (o.appliedDefaults.map .string)))]

end Outcome

namespace Registry

/-- The record with the defaults of its type, where it has none of its own, and the names of the
fields that got one. -/
def complete (reg : Registry) (s : Settings) (typeId : String) (r : Record) :
    Record × List String :=
  match reg.types.get? typeId with
  | some t => if s.applyDefaults then t.applyDefaults r else (r, [])
  | none => (r, [])

/-- The payload of a completed record, tried if the record is valid. -/
def payloadIfValid (reg : Registry) (s : Settings) (typeId : String) (validation : Validation)
    (r : Record) : Attempt Payload :=
  if validation.isValid then some (reg.payload s.dateFormats typeId r) else none

/-- The blueprint, tried if it is wanted. -/
def blueprintIfWanted (reg : Registry) (s : Settings) (typeId : String) (wanted : Bool) :
    Attempt Blueprint :=
  if wanted then some (reg.blueprintForType s.blueprintSuffix typeId) else none

/-- Processes a request. -/
def process (reg : Registry) (s : Settings) (q : Request) : Outcome :=
  let (r, appliedDefaults) := reg.complete s q.typeId q.record
  let validation := reg.validate s.dateRules q.typeId r
  .ofStages appliedDefaults validation (reg.payloadIfValid s q.typeId validation r)
    (reg.blueprintIfWanted s q.typeId q.wantBlueprint)

end Registry

end ContractDocs
