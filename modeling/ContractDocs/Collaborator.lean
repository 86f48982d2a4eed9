/-
Collaborators: the store that keeps the contracts and the dispatcher that hands
payloads to the rendering service. Here both live in memory.

A call may fail for a reason of the collaborator's own, or because it took
longer than it was given. A call that failed has changed nothing.
-/
import ContractDocs.Contract
import ContractDocs.Payload

namespace ContractDocs

/-- Why a collaborator did not do what it was asked for. -/
inductive CollaboratorError
  | notFound (id : String)
  | rejected (reason : String)
  | unavailable (reason : String)
  deriving DecidableEq

def CollaboratorError.message : CollaboratorError → String
  | .notFound id => "record not found: " ++ id
  | .rejected reason => "request rejected: " ++ reason
  | .unavailable reason => "collaborator unavailable: " ++ reason

/-- The dispatcher's acknowledgement. -/
structure Receipt where
  /-- The fingerprint of the payload. -/
  fingerprint : String
  deriving DecidableEq

/-! ## The store -/

/-- The contracts by id. -/
structure Store where
  contracts : Dict Contract

namespace Store

def empty : Store := ⟨.empty⟩

def size (s : Store) : Nat := s.contracts.size

/-- The contract with an id. -/
def get (s : Store) (id : String) : Except CollaboratorError Contract :=
  match s.contracts.get? id with
  | some c => .ok c
  | none => .error (.notFound id)

/-- Puts a contract under its id, in place of an earlier one. -/
def insert (s : Store) (c : Contract) : Store := ⟨s.contracts.insert c.id c⟩

/-- Puts the fields of a patch into a contract; the other fields stay as they are. -/
def update (s : Store) (id : String) (patch : Record) :
    Except CollaboratorError (Contract × Store) := do
  let c ← s.get id
  let patched := { c with fields := c.fields.insertAll patch.entries }
  return (patched, ⟨s.contracts.insert id patched⟩)

def delete (s : Store) (id : String) : Except CollaboratorError Store := do
  let _ ← s.get id
  return ⟨s.contracts.erase id⟩

/-- The contracts that a filter selects, in the order of their ids. -/
def find (s : Store) (f : ContractFilter) : List Contract := s.contracts.values.filter f.selects

end Store

/-! ## The dispatcher -/

/-- The payloads that were accepted, and the reason why no more are, if there is one. -/
structure Dispatcher where
  sent : List Payload
  refusal : Option String

namespace Dispatcher

/-- Accepts every payload. -/
def empty : Dispatcher := ⟨[], none⟩

/-- Sends a payload. -/
def dispatch (d : Dispatcher) (p : Payload) : Except CollaboratorError (Receipt × Dispatcher) :=
  match d.refusal with
  | some reason => .error (.rejected reason)
  | none => .ok (⟨p.fingerprint⟩, { d with sent := d.sent ++ [p] })

end Dispatcher

/-! ## Calls in time -/

/-- The calls that a generation makes. -/
inductive Operation
  | fetchRecord
  | dispatchPayload
  | patchRecord
  deriving DecidableEq

def Operation.name : Operation → String
  | .fetchRecord => "fetch_record"
  | .dispatchPayload => "dispatch_payload"
  | .patchRecord => "patch_record"

/-- Why a call has no result. -/
inductive CallError
  | failed (e : CollaboratorError)
  /-- The call took longer than a number of milliseconds. -/
  | timedOut (operation : Operation) (budget : Nat)
  deriving DecidableEq

/-- A number of milliseconds as seconds: the whole seconds and the rest are taken apart. -/
def seconds (milliseconds : Nat) : Float :=
  Float.ofNat (milliseconds / 1000) + Float.ofNat (milliseconds % 1000 * 1000000) / 1000000000

def CallError.message : CallError → String
  | .failed e => e.message
  | .timedOut operation budget =>
    operation.name ++ " timed out after " ++ Decimal.displayText (seconds budget) ++ "s"

end ContractDocs
