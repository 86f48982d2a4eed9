/-
The service: generations over a store and a dispatcher in memory.

A fault can be put in front of a call: the call then waits, and fails if the
fault says so. Waiting costs no time here; a call whose wait is longer than its
budget has timed out and is dropped.
-/
import ContractDocs.Generation

namespace ContractDocs

/-- The milliseconds that calls may take. -/
structure Budgets where
  fetch : Nat
  dispatch : Nat
  patch : Nat
  deriving DecidableEq

namespace Budgets

def standard : Budgets := ⟨5000, 30000, 5000⟩

/-- The same for every call. -/
def uniform (budget : Nat) : Budgets := ⟨budget, budget, budget⟩

end Budgets

/-- What happens to a call before it gets through. -/
structure Fault where
  /-- The milliseconds of the wait. -/
  delay : Nat
  error : Option CollaboratorError
  deriving DecidableEq

namespace Fault

/-- The call gets through at once. -/
def none : Fault := ⟨0, .none⟩

/-- Lets a call through or fails it. -/
def check (f : Fault) : Except CollaboratorError Unit :=
  match f.error with
  | some e => .error e
  | .none => .ok ()

/-- Lets a call through or fails it, within the call's budget. -/
def checkWithin (f : Fault) (operation : Operation) (budget : Nat) : Except CallError Unit :=
  if budget < f.delay then .error (.timedOut operation budget) else f.check.mapError .failed

end Fault

/-- The faults in front of the calls. -/
structure Faults where
  get : Fault
  update : Fault
  dispatch : Fault
  deriving DecidableEq

def Faults.none : Faults := ⟨.none, .none, .none⟩

/-- An engine with its collaborators, and the terms on which they are called. -/
structure Service where
  engine : Engine
  store : Store
  dispatcher : Dispatcher
  budgets : Budgets
  faults : Faults

namespace Service

/-- A service without contracts. -/
def new (e : Engine) (budgets : Budgets) : Service := ⟨e, .empty, .empty, budgets, .none⟩

/-! ## Contracts -/

/-- The contract with an id. -/
def get (s : Service) (id : String) : Except CollaboratorError Contract := do
  s.faults.get.check
  s.store.get id

/-- Puts the fields of a patch into a contract. -/
def update (s : Service) (id : String) (patch : Record) :
    Except CollaboratorError (Contract × Service) := do
  s.faults.update.check
  let (c, store) ← s.store.update id patch
  return (c, { s with store })

/-! ## Generation -/

/-- Fetches a contract in time. -/
def fetch (s : Service) (id : String) : Except CallError Contract := do
  s.faults.get.checkWithin .fetchRecord s.budgets.fetch
  (s.store.get id).mapError .failed

/-- Dispatches a payload in time. -/
def dispatch (s : Service) (p : Payload) : Except CallError (Receipt × Dispatcher) := do
  s.faults.dispatch.checkWithin .dispatchPayload s.budgets.dispatch
  (s.dispatcher.dispatch p).mapError .failed

/-- Patches a contract in time. -/
def patch (s : Service) (id : String) (fields : Record) : Except CallError (Contract × Store) := do
  s.faults.update.checkWithin .patchRecord s.budgets.patch
  (s.store.update id fields).mapError .failed

/-- Processes a stored contract. -/
def process (s : Service) (wantBlueprint : Bool) (c : Contract) : Outcome :=
  s.engine.process ⟨c.contractType, c.fields, wantBlueprint⟩

/-- Makes the next call of a generation. -/
def advance (s : Service) (contractId : String) (wantBlueprint : Bool) :
    Progress → Service × Progress
  | .fetching => (s, .afterFetch (s.process wantBlueprint) (s.fetch contractId))
  | .dispatching o p =>
    match s.dispatch p with
    | .ok (receipt, dispatcher) => ({ s with dispatcher }, .afterDispatch o (.ok receipt))
    | .error e => (s, .afterDispatch o (.error e))
  | .recording o ending =>
    match s.patch contractId ending.patch with
    | .ok (c, store) => ({ s with store }, .afterPatch contractId o ending (.ok c))
    | .error e => (s, .afterPatch contractId o ending (.error e))
  | .finished result => (s, .finished result)

theorem remaining_advance (s : Service) (contractId : String) (wantBlueprint : Bool) {p : Progress}
    (h : p.remaining ≠ 0) :
    (s.advance contractId wantBlueprint p).2.remaining < p.remaining := by
  cases p with
  | fetching => exact Progress.remaining_afterFetch _ _
  | dispatching o p =>
    simp only [advance]
    split <;> simp [Progress.afterDispatch, Progress.remaining]
  | recording o ending =>
    simp only [advance]
    split <;> simp [Progress.afterPatch, Progress.remaining]
  | finished result => simp [Progress.remaining] at h

/-- Makes all calls that are left of a generation, with nothing in between. -/
def complete (s : Service) (contractId : String) (wantBlueprint : Bool) :
    Progress → Service × Except CallError GenerationReport
  | .finished result => (s, result)
  | p@(.fetching) | p@(.dispatching _ _) | p@(.recording _ _) =>
    let next := s.advance contractId wantBlueprint p
    next.1.complete contractId wantBlueprint next.2
termination_by p => p.remaining
decreasing_by all_goals subst_vars; exact remaining_advance _ _ _ (by simp [Progress.remaining])

/-- Generates the document of a contract. -/
def generate (s : Service) (contractId : String) (wantBlueprint : Bool) :
    Service × Except CallError GenerationReport :=
  s.complete contractId wantBlueprint .fetching

end Service

end ContractDocs
