/-
The engine: settings, and the registry that requests are processed against.

The registry can be replaced at any time, also while a request is on its way.
A request takes the registry that is current when it begins, and keeps it.
`Run.advance_begun`: from then on the current registry makes no difference.
-/
import ContractDocs.Outcome

namespace ContractDocs

/-- A request on its way, after each of its stages. -/
inductive Run
  | waiting
  /-- It has a registry. -/
  | begun (reg : Registry)
  /-- Its record has the defaults of its type. -/
  | completed (reg : Registry) (record : Record) (appliedDefaults : List String)
  | validated (reg : Registry) (record : Record) (appliedDefaults : List String)
    (validation : Validation)
  /-- Its payload was tried. -/
  | compiled (reg : Registry) (appliedDefaults : List String) (validation : Validation)
    (payload : Attempt Payload)
  | finished (outcome : Outcome)

namespace Run

/-- The next stage of a request, while `current` is the current registry. -/
def advance (s : Settings) (q : Request) (current : Registry) : Run → Run
  | .waiting => .begun current
  | .begun reg =>
    let (r, appliedDefaults) := reg.complete s q.typeId q.record
    .completed reg r appliedDefaults
  | .completed reg r appliedDefaults =>
    .validated reg r appliedDefaults (reg.validate s.dateRules q.typeId r)
  | .validated reg r appliedDefaults validation =>
    .compiled reg appliedDefaults validation (reg.payloadIfValid s q.typeId validation r)
  | .compiled reg appliedDefaults validation payload =>
    .finished (.ofStages appliedDefaults validation payload
      (reg.blueprintIfWanted s q.typeId q.wantBlueprint))
  | .finished outcome => .finished outcome

/-- Only a request that has not begun looks at the current registry. -/
theorem advance_begun (s : Settings) (q : Request) (current other : Registry) {run : Run}
    (h : run ≠ .waiting) : run.advance s q current = run.advance s q other := by
  cases run <;> first | rfl | exact absurd rfl h

end Run

/-- A current registry and the settings it is used with. -/
structure Engine where
  registry : Registry
  settings : Settings

namespace Engine

/-- Takes a request one stage further. -/
def advance (e : Engine) (q : Request) (run : Run) : Run := run.advance e.settings q e.registry

/-- Processes a request with nothing in between. -/
def process (e : Engine) (q : Request) : Outcome := e.registry.process e.settings q

/-- Makes another registry the current one, and gives back the one that was. -/
def replace (e : Engine) (reg : Registry) : Registry × Engine :=
  (e.registry, { e with registry := reg })

end Engine

end ContractDocs
