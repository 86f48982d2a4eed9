/-
The office: a service whose collaborators are shared. Any number of
generations are under way, other clients write to the store, and the
collaborators may come to be called on other terms. One action is taken at a
time, so a list of actions is an interleaving of all of these.

A history of what was accepted and written is kept beside the state, and
nothing reads it. `Service.call_advance` says everything that the next call of
a generation can do. `Office.traces_run`: the history is that of the store and of
the dispatcher. `Office.run_generate`: generations one after the other are runs
of the office.
-/
import ContractDocs.Proofs.Protocol

namespace ContractDocs

open Checks

/-! ## What clients write -/

/-- What a client asks of the store. -/
inductive Write
  | insert (c : Contract)
  | update (id : String) (patch : Record)
  | delete (id : String)

/-- The contract with the fields of a patch. -/
def Contract.patched (c : Contract) (patch : Record) : Contract :=
  { c with fields := c.fields.insertAll patch.entries }

namespace Write

/-- The store after the write; one that the store refuses changes nothing. -/
def apply (s : Store) : Write → Store
  | .insert c => s.insert c
  | .update id patch =>
    match s.update id patch with
    | .ok (_, store) => store
    | .error _ => s
  | .delete id =>
    match s.delete id with
    | .ok store => store
    | .error _ => s

/-- The id of the contract that is written. -/
def id : Write → String
  | .insert c => c.id
  | .update id _ => id
  | .delete id => id

/-- What becomes of the contract under the id. -/
def rewrite : Write → Option Contract → Option Contract
  | .insert c, _ => some c
  | .update _ patch, there => there.map (·.patched patch)
  | .delete _, _ => none

end Write

theorem Store.get_eq_ok_iff {s : Store} {id : String} {c : Contract} :
    s.get id = .ok c ↔ s.contracts.get? id = some c := by
  rw [get]
  cases s.contracts.get? id <;> simp

theorem Store.update_eq_ok {s s' : Store} {id : String} {patch : Record} {c : Contract}
    (h : s.update id patch = .ok (c, s')) : s' = (Write.update id patch).apply s := by
  rw [Write.apply, h]

namespace Write

variable {s : Store}

theorem get?_apply_self (w : Write) :
    (w.apply s).contracts.get? w.id = w.rewrite (s.contracts.get? w.id) := by
  cases w with
  | insert c => exact Dict.get?_insert_self ..
  | update id patch =>
    simp only [apply, Store.update, Store.get, Write.id, rewrite]
    cases there : s.contracts.get? id with
    | none => exact there
    | some c => exact Dict.get?_insert_self ..
  | delete id =>
    simp only [apply, Store.delete, Store.get, Write.id, rewrite]
    cases there : s.contracts.get? id with
    | none => exact there
    | some c => exact Dict.get?_erase_self ..

theorem get?_apply_other (w : Write) {id : String} (h : id ≠ w.id) :
    (w.apply s).contracts.get? id = s.contracts.get? id := by
  cases w with
  | insert c => exact Dict.get?_insert_other _ _ h
  | update id' patch =>
    simp only [apply, Store.update, Store.get]
    cases s.contracts.get? id' with
    | none => rfl
    | some c => exact Dict.get?_insert_other _ _ h
  | delete id' =>
    simp only [apply, Store.delete, Store.get]
    cases s.contracts.get? id' with
    | none => rfl
    | some c => exact Dict.get?_erase_other _ h

/-- **A write reaches one contract**, the one under its id. -/
theorem get?_apply (w : Write) (id : String) : (w.apply s).contracts.get? id =
    if id = w.id then w.rewrite (s.contracts.get? id) else s.contracts.get? id := by
  split
  · next same => rw [same, get?_apply_self]
  · next other => rw [get?_apply_other w other]

end Write

/-! ## Generations under way -/

/-- A generation under way. -/
structure Job where
  contractId : String
  wantBlueprint : Bool
  progress : Progress

/-- What happens to what lasts, the store and the payloads that were sent. -/
inductive Event
  /-- The dispatcher accepts the payload of the generation of this number. -/
  | accepted (number : Nat) (contractId : String) (payload : Payload)
  /-- The generation of this number writes its ending to the contract. -/
  | recorded (number : Nat) (contractId : String) (ending : Ending)
  /-- Another client writes. -/
  | wrote (w : Write)

namespace Event

/-- What the event writes to the store. -/
def write? : Event → Option Write
  | .accepted _ _ _ => none
  | .recorded _ contractId ending => some (.update contractId ending.patch)
  | .wrote w => some w

/-- What the event adds to the payloads that were sent. -/
def payload? : Event → Option Payload
  | .accepted _ _ p => some p
  | _ => none

end Event

namespace Service

/-- What the next call of a generation makes happen. -/
def happening (s : Service) (number : Nat) (j : Job) : Option Event :=
  match j.progress with
  | .dispatching _ p =>
    match s.dispatch p with
    | .ok _ => some (.accepted number j.contractId p)
    | .error _ => none
  | .recording _ ending =>
    match s.patch j.contractId ending.patch with
    | .ok _ => some (.recorded number j.contractId ending)
    | .error _ => none
  | _ => none

/-- Everything that the next call of a generation can do: to the service, to the generation, and
what happens by it. -/
inductive Call (s : Service) (number : Nat) (j : Job) : Service → Progress → Option Event → Prop
  | fetched {c : Contract} (fetching : j.progress = .fetching)
    (there : s.store.contracts.get? j.contractId = some c) :
    Call s number j s (.ofOutcome (s.process j.wantBlueprint c)) none
  | notFetched {e : CallError} (fetching : j.progress = .fetching) :
    Call s number j s (.finished (.error e)) none
  | accepted {o : Outcome} {p : Payload} (dispatching : j.progress = .dispatching o p) :
    Call s number j { s with dispatcher := { s.dispatcher with sent := s.dispatcher.sent ++ [p] } }
      (.recording o (.dispatched ⟨p.fingerprint⟩)) (some (.accepted number j.contractId p))
  | refused {o : Outcome} {p : Payload} {e : CallError}
    (dispatching : j.progress = .dispatching o p) :
    Call s number j s (.recording o (.dispatchFailed e)) none
  | recorded {o : Outcome} {ending : Ending} {c : Contract}
    (recording : j.progress = .recording o ending) :
    Call s number j { s with store := (Write.update j.contractId ending.patch).apply s.store }
      (.afterPatch j.contractId o ending (.ok c)) (some (.recorded number j.contractId ending))
  | notRecorded {o : Outcome} {ending : Ending} {e : CallError}
    (recording : j.progress = .recording o ending) :
    Call s number j s (.afterPatch j.contractId o ending (.error e)) none
  | ended {result : Except CallError GenerationReport} (finished : j.progress = .finished result) :
    Call s number j s (.finished result) none

variable {s : Service}

theorem fetch_eq_ok {id : String} {c : Contract} (h : s.fetch id = .ok c) :
    s.store.contracts.get? id = some c := by
  rw [fetch, check_bind_eq_ok, mapError_eq_ok] at h
  exact Store.get_eq_ok_iff.1 h.2

theorem dispatch_eq_ok {p : Payload} {receipt : Receipt} {d : Dispatcher}
    (h : s.dispatch p = .ok (receipt, d)) :
    receipt = ⟨p.fingerprint⟩ ∧ d = { s.dispatcher with sent := s.dispatcher.sent ++ [p] } := by
  rw [dispatch, check_bind_eq_ok, mapError_eq_ok, Dispatcher.dispatch] at h
  obtain ⟨-, accepted⟩ := h
  split at accepted
  · cases accepted
  · cases accepted
    exact ⟨rfl, rfl⟩

theorem patch_eq_ok {id : String} {fields : Record} {c : Contract} {store : Store}
    (h : s.patch id fields = .ok (c, store)) : store = (Write.update id fields).apply s.store := by
  rw [patch, check_bind_eq_ok, mapError_eq_ok] at h
  exact Store.update_eq_ok h.2

theorem call_advance (s : Service) (number : Nat) (j : Job) :
    s.Call number j (s.advance j.contractId j.wantBlueprint j.progress).1
      (s.advance j.contractId j.wantBlueprint j.progress).2 (s.happening number j) := by
  obtain ⟨contractId, wantBlueprint, progress⟩ := j
  cases progress with
  | fetching =>
    simp only [advance, happening]
    cases hf : s.fetch contractId with
    | error e => exact .notFetched rfl
    | ok c => exact .fetched rfl (fetch_eq_ok hf)
  | dispatching o p =>
    simp only [advance, happening]
    cases hd : s.dispatch p with
    | error e => exact .refused rfl
    | ok answer =>
      obtain ⟨receipt, dispatcher⟩ := answer
      obtain ⟨rfl, rfl⟩ := dispatch_eq_ok hd
      exact .accepted rfl
  | recording o ending =>
    simp only [advance, happening]
    cases hp : s.patch contractId ending.patch with
    | error e => exact .notRecorded rfl
    | ok answer =>
      obtain ⟨c, store⟩ := answer
      obtain rfl := patch_eq_ok hp
      exact .recorded rfl
  | finished result => exact .ended rfl

theorem complete_advance (s : Service) (contractId : String) (wantBlueprint : Bool)
    (p : Progress) : s.complete contractId wantBlueprint p =
      (s.advance contractId wantBlueprint p).1.complete contractId wantBlueprint
        (s.advance contractId wantBlueprint p).2 := by
  cases p with
  | fetching | dispatching | recording =>
    exact s.complete_eq_advance _ _ (by simp [Progress.remaining])
  | finished result => rfl

theorem remaining_advance_le {contractId : String} {wantBlueprint : Bool}
    {p : Progress} {n : Nat} (h : p.remaining ≤ n + 1) :
    (s.advance contractId wantBlueprint p).2.remaining ≤ n := by
  by_cases unfinished : p.remaining = 0
  · cases p with
    | finished result => exact Nat.zero_le n
    | fetching | dispatching | recording => cases unfinished
  · have less := s.remaining_advance contractId wantBlueprint unfinished
    omega

end Service

/-! ## The office -/

/-- A service with generations under way. -/
structure Office where
  service : Service
  jobs : List Job
  history : List Event

namespace Office

/-- What may happen next. -/
inductive Action
  /-- The document of a contract is asked for. -/
  | generate (contractId : String) (wantBlueprint : Bool)
  /-- The generation of this number makes its next call. -/
  | advance (number : Nat)
  /-- Another client writes to the store. -/
  | write (w : Write)
  /-- The collaborators come to be called on other terms. -/
  | arrange (budgets : Budgets) (faults : Faults) (refusal : Option String)
  /-- The service gets another engine. -/
  | configure (e : Engine)

/-- What another client writes. -/
def Action.write? : Action → Option Write
  | .write w => some w
  | _ => none

/-- An office without generations. -/
def opened (s : Service) : Office := ⟨s, [], []⟩

/-- The generation of this number makes its next call. -/
def advance (o : Office) (number : Nat) (j : Job) : Office :=
  let (service, progress) := o.service.advance j.contractId j.wantBlueprint j.progress
  ⟨service, o.jobs.set number { j with progress },
    o.history ++ (o.service.happening number j).toList⟩

def step (o : Office) : Action → Office
  | .generate contractId wantBlueprint =>
    { o with jobs := o.jobs ++ [⟨contractId, wantBlueprint, .fetching⟩] }
  | .advance number =>
    match o.jobs[number]? with
    | some j => o.advance number j
    | none => o
  | .write w =>
    { o with
      service := { o.service with store := w.apply o.service.store }
      history := o.history ++ [.wrote w] }
  | .arrange budgets faults refusal =>
    { o with
      service := { o.service with
        budgets
        faults
        dispatcher := { o.service.dispatcher with refusal } } }
  | .configure engine => { o with service := { o.service with engine } }

/-- The office after actions in this order. -/
def run (o : Office) (actions : List Action) : Office := actions.foldl step o

variable {o : Office} {j : Job}

theorem run_append (o : Office) (actions more : List Action) :
    o.run (actions ++ more) = (o.run actions).run more := List.foldl_append

/-- What actions of a run keep holds after the run. -/
theorem run_induction {P : Office → Prop} {actions : List Action} (start : P o)
    (keep : ∀ a ∈ actions, ∀ o, P o → P (o.step a)) : P (o.run actions) := by
  induction actions generalizing o with
  | nil => exact start
  | cons a actions ih =>
    rw [List.forall_mem_cons] at keep
    exact ih (keep.1 o start) keep.2

/-- A generation that is to make its next call does so, or there is none of this number. -/
theorem exists_call (o : Office) (number : Nat) :
    o.step (.advance number) = o ∨
      ∃ j service progress event, o.jobs[number]? = some j ∧
        o.service.Call number j service progress event ∧
        o.step (.advance number) = ⟨service, o.jobs.set number { j with progress },
          o.history ++ event.toList⟩ := by
  rw [step]
  split
  · next j there => exact .inr ⟨j, _, _, _, there, o.service.call_advance number j, rfl⟩
  · exact .inl rfl

/-- Of the generations after a call, the one that made it has gone on, and the others are as
before. -/
theorem getElem?_set {js : List Job} {number i : Nat} {next : Job}
    (h : (js.set number next)[i]? = some j) : (i = number ∧ j = next) ∨ js[i]? = some j := by
  rw [List.getElem?_set] at h
  split at h
  · next same =>
    split at h
    · exact .inl ⟨same.symm, (Option.some.inj h).symm⟩
    · cases h
  · exact .inr h

/-! ## The history -/

/-- The history says what has become of the store and of the dispatcher of a service. -/
structure Traces (s : Service) (o : Office) : Prop where
  store : o.service.store = (o.history.filterMap Event.write?).foldl Write.apply s.store
  sent : o.service.dispatcher.sent = s.dispatcher.sent ++ o.history.filterMap Event.payload?

theorem traces_step {s : Service} (h : Traces s o) (a : Action) : Traces s (o.step a) := by
  cases a with
  | generate | arrange | configure => exact ⟨h.store, h.sent⟩
  | write w =>
    exact ⟨by simp [step, h.store, Event.write?], by simp [step, h.sent, Event.payload?]⟩
  | advance number =>
    rcases o.exists_call number with same | ⟨j, service, progress, event, -, call, eq⟩
    · rwa [same]
    · rw [eq]
      cases call with
      | fetched | notFetched | refused | notRecorded | ended =>
        exact ⟨by simpa using h.store, by simpa using h.sent⟩
      | accepted | recorded =>
        refine ⟨?_, ?_⟩
        · simp [h.store, List.filterMap_cons, Event.write?]
        · simp [h.sent, List.filterMap_cons, Event.payload?]

/-- **The history** of a run says what has become of the store and of the dispatcher. -/
theorem traces_run (s : Service) (actions : List Action) : Traces s ((opened s).run actions) :=
  run_induction ⟨rfl, by simp [opened]⟩ fun a _ _ h => traces_step h a

/-! ## One after the other -/

theorem step_advance_concat {js : List Job} (h : o.jobs = js ++ [j]) :
    (o.step (.advance js.length)).service =
        (o.service.advance j.contractId j.wantBlueprint j.progress).1 ∧
      (o.step (.advance js.length)).jobs = js ++ [⟨j.contractId, j.wantBlueprint,
        (o.service.advance j.contractId j.wantBlueprint j.progress).2⟩] := by
  rw [step, h, List.getElem?_concat_length]
  exact ⟨rfl, by simp [advance, h]⟩

/-- The calls that are left of the last generation, with nothing in between, complete it. -/
theorem run_replicate_advance {js : List Job} {n : Nat} (h : o.jobs = js ++ [j])
    (enough : j.progress.remaining ≤ n) :
    (o.run (.replicate n (.advance js.length))).service =
        (o.service.complete j.contractId j.wantBlueprint j.progress).1 ∧
      (o.run (.replicate n (.advance js.length))).jobs = js ++ [⟨j.contractId, j.wantBlueprint,
        .finished (o.service.complete j.contractId j.wantBlueprint j.progress).2⟩] := by
  -- On the number of advances; those that are left over find a finished generation.
  induction n generalizing o j with
  | zero =>
    obtain ⟨contractId, wantBlueprint, progress⟩ := j
    cases progress with
    | finished result => simp [run, Service.complete, h]
    | fetching | dispatching | recording => simp [Progress.remaining] at enough
  | succ n ih =>
    obtain ⟨service, jobs⟩ := step_advance_concat h
    have rest := ih jobs (Service.remaining_advance_le enough)
    rw [service] at rest
    rw [Service.complete_advance]
    exact rest

/-- **A generation with nothing in between** is a run: it is asked for, and makes its calls. -/
theorem run_generate (o : Office) (contractId : String) (wantBlueprint : Bool) :
    (o.run (.generate contractId wantBlueprint :: .replicate 3 (.advance o.jobs.length))).service =
        (o.service.generate contractId wantBlueprint).1 ∧
      (o.run (.generate contractId wantBlueprint :: .replicate 3 (.advance o.jobs.length))).jobs =
        o.jobs ++ [⟨contractId, wantBlueprint,
          .finished (o.service.generate contractId wantBlueprint).2⟩] :=
  run_replicate_advance (o := o.step (.generate contractId wantBlueprint)) rfl (Nat.le_refl 3)

end Office

end ContractDocs
