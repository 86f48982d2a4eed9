/-
Generations: the way of one contract from the store to the rendering service.

The contract is fetched and processed, its payload is dispatched if there is
one, and what came of it is written back to the contract. A generation is a
state between two calls; the answer to a call leads to the next state, so any
collaborators can be put behind it, and other work may happen between calls.
-/
import ContractDocs.Collaborator
import ContractDocs.Engine

namespace ContractDocs

/-- What is written about the document of a contract. -/
inductive DocumentStatus
  /-- The payload was accepted. -/
  | dispatched
  /-- The record did not pass the validation. -/
  | rejected
  /-- The record is valid, but there is no payload of it. -/
  | failed
  /-- The payload was not accepted. -/
  | dispatchFailed
  deriving DecidableEq

def DocumentStatus.name : DocumentStatus → String
  | .dispatched => "dispatched"
  | .rejected => "rejected"
  | .failed => "failed"
  | .dispatchFailed => "dispatch_failed"

/-- What came of a contract. -/
inductive Ending
  | dispatched (receipt : Receipt)
  | rejected
  | failed
  | dispatchFailed (error : CallError)
  deriving DecidableEq

namespace Ending

def status : Ending → DocumentStatus
  | .dispatched _ => .dispatched
  | .rejected => .rejected
  | .failed => .failed
  | .dispatchFailed _ => .dispatchFailed

def receipt? : Ending → Option Receipt
  | .dispatched receipt => some receipt
  | _ => none

/-- The ending of a contract without a payload. -/
def ofValidation (v : Validation) : Ending := if v.isValid then .failed else .rejected

/-- The ending that a dispatch leads to. -/
def ofDispatch : Except CallError Receipt → Ending
  | .ok receipt => .dispatched receipt
  | .error e => .dispatchFailed e

/-- The fields that are written to the contract. -/
def patch (e : Ending) : Record :=
  let status := Dict.empty.insert Contract.statusField (.string e.status.name)
  match e.receipt? with
  | some receipt => status.insert Contract.fingerprintField (.string receipt.fingerprint)
  | none => status

theorem get?_patch (e : Ending) (field : String) :
    e.patch.get? field =
      if field = Contract.statusField then some (.string e.status.name)
      else if field = Contract.fingerprintField then
        e.receipt?.map fun receipt => .string receipt.fingerprint
      else none := by
  have distinct : Contract.statusField ≠ Contract.fingerprintField := by decide
  rw [patch]
  by_cases isStatus : field = Contract.statusField
  · subst isStatus
    rw [if_pos rfl]
    cases e.receipt? with
    | none => exact Dict.get?_insert_self ..
    | some receipt => exact (Dict.get?_insert_other _ _ distinct).trans (Dict.get?_insert_self ..)
  rw [if_neg isStatus]
  by_cases isFingerprint : field = Contract.fingerprintField
  · subst isFingerprint
    rw [if_pos rfl]
    cases e.receipt? with
    | none => exact Dict.get?_insert_other _ _ distinct.symm
    | some receipt => exact Dict.get?_insert_self ..
  · rw [if_neg isFingerprint]
    cases e.receipt? with
    | none => exact Dict.get?_insert_other _ _ isStatus
    | some receipt =>
      exact (Dict.get?_insert_other _ _ isFingerprint).trans (Dict.get?_insert_other _ _ isStatus)

end Ending

/-- What is reported of a generation. -/
structure GenerationReport where
  contractId : String
  ending : Ending
  outcome : Outcome

/-- How far a generation is. -/
inductive Progress
  /-- The contract is to be fetched. -/
  | fetching
  /-- The payload is to be dispatched. -/
  | dispatching (outcome : Outcome) (payload : Payload)
  /-- The ending is to be written to the contract. -/
  | recording (outcome : Outcome) (ending : Ending)
  | finished (result : Except CallError GenerationReport)

namespace Progress

/-- After the contract was processed. -/
def ofOutcome (o : Outcome) : Progress :=
  match o.payload with
  | some p => .dispatching o p
  | none => .recording o (.ofValidation o.validation)

/-- After the contract was fetched. -/
def afterFetch (process : Contract → Outcome) : Except CallError Contract → Progress
  | .ok c => ofOutcome (process c)
  | .error e => .finished (.error e)

/-- After the payload was dispatched. -/
def afterDispatch (o : Outcome) (answer : Except CallError Receipt) : Progress :=
  .recording o (.ofDispatch answer)

/-- After the ending was written. A dispatch that failed is reported whatever came of that. -/
def afterPatch (contractId : String) (o : Outcome) (ending : Ending)
    (answer : Except CallError Contract) : Progress :=
  .finished <|
    match ending, answer with
    | .dispatchFailed e, _ => .error e
    | _, .error e => .error e
    | _, .ok _ => .ok ⟨contractId, ending, o⟩

/-- The number of calls that may still follow. -/
def remaining : Progress → Nat
  | .fetching => 3
  | .dispatching _ _ => 2
  | .recording _ _ => 1
  | .finished _ => 0

theorem remaining_afterFetch (process : Contract → Outcome) (answer : Except CallError Contract) :
    (afterFetch process answer).remaining < fetching.remaining := by
  cases answer with
  | error e => simp [afterFetch, remaining]
  | ok c =>
    simp only [afterFetch, ofOutcome]
    split <;> simp [remaining]

end Progress

end ContractDocs
