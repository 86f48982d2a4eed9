/-
The store under generations and other clients. The service writes two fields
of a contract, the status and the fingerprint of its document; the other
clients leave these two alone.

`Office.alike_run`: in every other field the store is what the other clients
alone would have made of it. `Office.sound_step`: whichever call comes next, a
contract whose document was dispatched has the fingerprint that was written
with the status, and that is one of an accepted payload.
-/
import ContractDocs.Proofs.Office

namespace ContractDocs

/-! ## What is said about documents -/

/-- The fields that say what came of a document. -/
def Contract.OfDocument (field : String) : Prop := field = statusField ∨ field = fingerprintField

instance : DecidablePred Contract.OfDocument := fun _ => inferInstanceAs (Decidable (_ ∨ _))

/-- Nothing is said about a document. -/
def Record.Undocumented (r : Record) : Prop :=
  ∀ field, Contract.OfDocument field → r.get? field = none

/-- The write says nothing about a document. -/
def Write.Spares : Write → Prop
  | .insert c => Record.Undocumented c.fields
  | .update _ patch => patch.Undocumented
  | .delete _ => True

theorem Contract.get?_patched (c : Contract) (patch : Record) (field : String) :
    (c.patched patch).fields.get? field = (patch.get? field).or (c.fields.get? field) :=
  Dict.get?_insertAll_entries ..

theorem Ending.get?_patch_of_not {ending : Ending} {field : String}
    (h : ¬ Contract.OfDocument field) : ending.patch.get? field = none := by
  rw [get?_patch, if_neg fun same => h (.inl same), if_neg fun same => h (.inr same)]

/-- Only a payload that was accepted is written as dispatched. -/
theorem Ending.exists_receipt {ending : Ending}
    (h : ending.status.name = DocumentStatus.dispatched.name) :
    ∃ receipt, ending = .dispatched receipt := by
  cases ending with
  | dispatched receipt => exact ⟨receipt, rfl⟩
  | rejected | failed | dispatchFailed => simp [status, DocumentStatus.name] at h

/-! ## The other fields -/

/-- The contracts differ at most in what they say about documents. -/
structure Contract.Alike (c c' : Contract) : Prop where
  id : c.id = c'.id
  contractType : c.contractType = c'.contractType
  fields : ∀ field, ¬ OfDocument field → c.fields.get? field = c'.fields.get? field

/-- The stores have contracts under the same ids, and they differ at most in what they say about
documents. -/
def Store.Alike (s s' : Store) : Prop :=
  ∀ id, Option.Rel Contract.Alike (s.contracts.get? id) (s'.contracts.get? id)

theorem Contract.Alike.refl (c : Contract) : c.Alike c := ⟨rfl, rfl, fun _ _ => rfl⟩

theorem Store.Alike.refl (s : Store) : s.Alike s := fun id => by
  cases s.contracts.get? id with
  | none => exact .none
  | some c => exact .some (.refl c)

theorem Contract.Alike.patched {c c' : Contract} (h : c.Alike c') (patch : Record) :
    (c.patched patch).Alike (c'.patched patch) := by
  refine ⟨h.id, h.contractType, fun field other => ?_⟩
  rw [get?_patched, get?_patched, h.fields field other]

/-- What a generation writes makes no difference. -/
theorem Contract.Alike.documented {c c' : Contract} (h : c.Alike c') (ending : Ending) :
    (c.patched ending.patch).Alike c' := by
  refine ⟨h.id, h.contractType, fun field other => ?_⟩
  rw [get?_patched, Ending.get?_patch_of_not other, Option.none_or, h.fields field other]

/-- A write makes like of like. -/
theorem Write.alike_rewrite {there there' : Option Contract}
    (h : Option.Rel Contract.Alike there there') (w : Write) :
    Option.Rel Contract.Alike (w.rewrite there) (w.rewrite there') := by
  cases w with
  | insert c => exact .some (.refl c)
  | delete => exact .none
  | update id patch =>
    cases h with
    | none => exact .none
    | some alike => exact .some (alike.patched patch)

theorem Ending.alike_map_patched {there there' : Option Contract}
    (h : Option.Rel Contract.Alike there there') (ending : Ending) :
    Option.Rel Contract.Alike (there.map (·.patched ending.patch)) there' := by
  cases h with
  | none => exact .none
  | some alike => exact .some (alike.documented ending)

namespace Store.Alike

variable {s s' : Store}

theorem apply (h : s.Alike s') (w : Write) : (w.apply s).Alike (w.apply s') := by
  intro id
  rw [Write.get?_apply, Write.get?_apply]
  split
  · exact Write.alike_rewrite (h id) w
  · exact h id

theorem documented (h : s.Alike s') (contractId : String) (ending : Ending) :
    ((Write.update contractId ending.patch).apply s).Alike s' := by
  intro id
  rw [Write.get?_apply]
  split
  · exact Ending.alike_map_patched (h id) ending
  · exact h id

end Store.Alike

namespace Office

variable {o : Office}

/-- A call of a generation makes no difference. -/
theorem alike_advance {store : Store} (h : o.service.store.Alike store) (number : Nat) :
    (o.step (.advance number)).service.store.Alike store := by
  rcases o.exists_call number with same | ⟨j, service, progress, event, -, call, eq⟩
  · rwa [same]
  · rw [eq]
    cases call with
    | fetched | notFetched | accepted | refused | notRecorded | ended => exact h
    | recorded => exact h.documented _ _

/-- **No write of a client is lost**, and a generation writes nothing else but what came of a
document: beside that, the store is what the clients alone would have made of it. -/
theorem alike_run {store : Store} (h : o.service.store.Alike store) (actions : List Action) :
    (o.run actions).service.store.Alike
      ((actions.filterMap Action.write?).foldl Write.apply store) := by
  induction actions generalizing o store with
  | nil => exact h
  | cons a actions ih =>
    cases a with
    | generate | arrange | configure => exact ih h
    | write w => exact ih (h.apply w)
    | advance number => exact ih (alike_advance h number)

end Office

/-! ## Contracts that are gone -/

/-- Only an insertion puts a contract where none is. -/
theorem Write.get?_apply_eq_none {w : Write} {s : Store} {id : String}
    (gone : s.contracts.get? id = none) (other : ∀ c, w = .insert c → c.id ≠ id) :
    (w.apply s).contracts.get? id = none := by
  rw [get?_apply, gone]
  split
  · next same =>
    cases w with
    | insert c => exact absurd same.symm (other c rfl)
    | update | delete => rfl
  · rfl

/-- **A contract that is gone** stays away until a client puts it in again: no generation does. -/
theorem Office.gone_run {o : Office} {id : String}
    (gone : o.service.store.contracts.get? id = none) {actions : List Action}
    (others : ∀ c, .write (.insert c) ∈ actions → c.id ≠ id) :
    (o.run actions).service.store.contracts.get? id = none := by
  refine run_induction (P := fun o => o.service.store.contracts.get? id = none) gone
    fun a ha o gone => ?_
  cases a with
  | generate | arrange | configure => exact gone
  | write w => exact Write.get?_apply_eq_none gone fun c hc => others c (hc ▸ ha)
  | advance number =>
    rcases o.exists_call number with same | ⟨j, service, progress, event, -, call, eq⟩
    · rwa [same]
    · rw [eq]
      cases call with
      | fetched | notFetched | accepted | refused | notRecorded | ended => exact gone
      | recorded => exact Write.get?_apply_eq_none gone (by simp)

/-! ## The documents -/

/-- The receipt that is to be written to the contract. -/
def Progress.receipt? : Progress → Option Receipt
  | .recording _ ending => ending.receipt?
  | _ => none

/-- The event puts the contract there, takes it away, or writes about its document. -/
def Event.Concerns (contractId : String) : Event → Prop
  | .recorded _ id _ => id = contractId
  | .wrote (.insert c) => c.id = contractId
  | .wrote (.delete id) => id = contractId
  | .wrote (.update id patch) => id = contractId ∧ ¬ patch.Undocumented
  | .accepted _ _ _ => False

/-- The status and the fingerprint of the contract were written at once by a generation whose
payload had been accepted, and nothing was written about the document after that. -/
def Documented (history : List Event) (contractId : String) (c : Contract) : Prop :=
  ∃ before number p after,
    history = before ++ .recorded number contractId (.dispatched ⟨p.fingerprint⟩) :: after ∧
    .accepted number contractId p ∈ before ∧
    c.fields.get? Contract.fingerprintField = some (.string p.fingerprint) ∧
    ∀ e ∈ after, ¬ e.Concerns contractId

theorem Documented.append {history : List Event} {contractId : String} {c c' : Contract}
    (h : Documented history contractId c)
    (same : c'.fields.get? Contract.fingerprintField = c.fields.get? Contract.fingerprintField)
    {events : List Event} (others : ∀ e ∈ events, ¬ e.Concerns contractId) :
    Documented (history ++ events) contractId c' := by
  obtain ⟨before, number, p, after, rfl, accepted, fingerprint, quiet⟩ := h
  refine ⟨before, number, p, after ++ events, by simp, accepted, same ▸ fingerprint, ?_⟩
  exact List.forall_mem_append.2 ⟨quiet, others⟩

theorem Progress.receipt?_ofOutcome (o : Outcome) : (ofOutcome o).receipt? = none := by
  rw [ofOutcome]
  split
  · rfl
  · rw [receipt?, Ending.ofValidation]
    split <;> rfl

/-- A receipt that is to be written once a call is made comes with the call. -/
theorem Service.Call.exists_accepted {s service : Service} {number : Nat} {j : Job}
    {progress : Progress} {event : Option Event} (call : s.Call number j service progress event)
    {receipt : Receipt} (h : progress.receipt? = some receipt) :
    ∃ p, receipt = ⟨p.fingerprint⟩ ∧ event = some (.accepted number j.contractId p) := by
  cases call with
  | accepted =>
    cases h
    exact ⟨_, rfl, rfl⟩
  | fetched =>
    rw [Progress.receipt?_ofOutcome] at h
    cases h
  | notFetched | refused | recorded | notRecorded | ended => cases h

/-- A contract that says something about a document after a client's write said it before. -/
theorem Write.Spares.exists_of_get?_apply {w : Write} (spares : w.Spares) {s : Store}
    {id field : String} {c : Contract} {v : Json} (there : (w.apply s).contracts.get? id = some c)
    (document : Contract.OfDocument field) (said : c.fields.get? field = some v) :
    ¬ (Event.wrote w).Concerns id ∧ ∃ before, s.contracts.get? id = some before ∧
      ∀ field, Contract.OfDocument field → c.fields.get? field = before.fields.get? field := by
  rw [Write.get?_apply] at there
  split at there
  · cases w with
    | insert c' =>
      -- A contract that was put in just now says nothing about a document.
      obtain rfl : c' = c := Option.some.inj there
      rw [spares field document] at said
      cases said
    | delete => cases there
    | update id' patch =>
      obtain ⟨before, hbefore, rfl⟩ := Option.map_eq_some_iff.1 there
      refine ⟨fun concerned => concerned.2 spares, before, hbefore, fun field hf => ?_⟩
      rw [Contract.get?_patched, spares field hf, Option.none_or]
  · next other =>
    refine ⟨?_, c, there, fun _ _ => rfl⟩
    cases w with
    | insert | delete => exact fun same => other same.symm
    | update => exact fun concerned => other concerned.1.symm

namespace Office

variable {o : Office}

/-- Receipts are those of accepted payloads, also where they have been written. -/
structure Sound (o : Office) : Prop where
  receipts : ∀ number j receipt, o.jobs[number]? = some j → j.progress.receipt? = some receipt →
    ∃ p, receipt = ⟨p.fingerprint⟩ ∧ .accepted number j.contractId p ∈ o.history
  documents : ∀ id c, o.service.store.contracts.get? id = some c →
    c.fields.get? Contract.statusField = some (.string DocumentStatus.dispatched.name) →
    Documented o.history id c

/-- A generation that writes its ending to a contract writes the fingerprint with the status. -/
theorem Sound.documented_recorded (h : o.Sound) {number : Nat} {j : Job} {out : Outcome}
    {ending : Ending} (there : o.jobs[number]? = some j)
    (recording : j.progress = .recording out ending) {id : String} {c : Contract}
    (hc : ((Write.update j.contractId ending.patch).apply o.service.store).contracts.get? id =
      some c)
    (status : c.fields.get? Contract.statusField =
      some (.string DocumentStatus.dispatched.name)) :
    Documented (o.history ++ [.recorded number j.contractId ending]) id c := by
  rw [Write.get?_apply] at hc
  split at hc
  · next same =>
    obtain rfl : id = j.contractId := same
    obtain ⟨before, -, rfl⟩ := Option.map_eq_some_iff.1 hc
    rw [Contract.get?_patched, Ending.get?_patch, if_pos rfl, Option.some_or, Option.some.injEq,
      Json.string.injEq] at status
    -- A status that tells of a dispatch comes with a receipt, and its fingerprint is in the patch.
    obtain ⟨receipt, rfl⟩ := Ending.exists_receipt status
    obtain ⟨p, rfl, accepted⟩ := h.receipts number j receipt there (by rw [recording]; rfl)
    refine ⟨o.history, number, p, [], rfl, accepted, ?_, by simp⟩
    rw [Contract.get?_patched, Ending.get?_patch, if_neg (by decide), if_pos rfl]
    rfl
  · next other =>
    exact (h.documents id c hc status).append rfl
      (List.forall_mem_singleton.2 fun same => other same.symm)

theorem sound_advance (h : o.Sound) (number : Nat) : (o.step (.advance number)).Sound := by
  rcases o.exists_call number with same | ⟨j, service, progress, event, there, call, eq⟩
  · rwa [same]
  · rw [eq]
    refine ⟨fun i k receipt hk hreceipt => ?_, fun id c hc status => ?_⟩
    · rcases getElem?_set hk with ⟨rfl, rfl⟩ | before
      · obtain ⟨p, rfl, rfl⟩ := call.exists_accepted hreceipt
        exact ⟨p, rfl, by simp⟩
      · obtain ⟨p, rfl, accepted⟩ := h.receipts i k receipt before hreceipt
        exact ⟨p, rfl, List.mem_append_left _ accepted⟩
    · cases call with
      | fetched | notFetched | refused | notRecorded | ended =>
        exact (h.documents id c hc status).append rfl (by simp)
      | accepted =>
        exact (h.documents id c hc status).append rfl
          (List.forall_mem_singleton.2 not_false)
      | recorded recording => exact h.documented_recorded there recording hc status

theorem sound_step (h : o.Sound) {a : Action} (spares : ∀ w, a = .write w → w.Spares) :
    (o.step a).Sound := by
  cases a with
  | advance number => exact sound_advance h number
  | arrange | configure => exact ⟨h.receipts, h.documents⟩
  | generate contractId wantBlueprint =>
    refine ⟨fun number j receipt hj hreceipt => ?_, h.documents⟩
    rw [step, List.getElem?_append] at hj
    split at hj
    · exact h.receipts number j receipt hj hreceipt
    · obtain rfl := List.mem_singleton.1 (List.mem_of_getElem? hj)
      cases hreceipt
  | write w =>
    refine ⟨fun number j receipt hj hreceipt => ?_, fun id c hc status => ?_⟩
    · obtain ⟨p, rfl, accepted⟩ := h.receipts number j receipt hj hreceipt
      exact ⟨p, rfl, List.mem_append_left _ accepted⟩
    · obtain ⟨quiet, before, hbefore, same⟩ :=
        (spares w rfl).exists_of_get?_apply hc (.inl rfl) status
      have documented := h.documents id before hbefore (same _ (.inl rfl) ▸ status)
      exact documented.append (same _ (.inr rfl)) (List.forall_mem_singleton.2 quiet)

end Office

/-- **Generations share a store with other clients.** The contracts say nothing
about documents to begin with, and the clients write nothing about them. After
any interleaving of their writes with the calls of generations, whichever are
answered and whatever the answers,
- the history is that of the store and of the dispatcher;
- a contract whose document was dispatched has the fingerprint of a payload
  that was accepted for it, written at once with the status;
- in all other fields the store is what the writes of the clients alone would
  have made of it;
- a contract that a client has deleted is gone, unless a client puts it in
  again. -/
theorem generations_share_store (s : Service)
    (fresh : ∀ id c, s.store.contracts.get? id = some c → Record.Undocumented c.fields)
    (actions : List Office.Action) (spare : ∀ w, .write w ∈ actions → w.Spares) :
    Office.Traces s ((Office.opened s).run actions) ∧
    (∀ id c, ((Office.opened s).run actions).service.store.contracts.get? id = some c →
      c.fields.get? Contract.statusField = some (.string "dispatched") →
        Documented ((Office.opened s).run actions).history id c) ∧
    ((Office.opened s).run actions).service.store.Alike
      ((actions.filterMap Office.Action.write?).foldl Write.apply s.store) ∧
    ∀ before after id, actions = before ++ .write (.delete id) :: after →
      (∀ c, .write (.insert c) ∈ after → c.id ≠ id) →
        ((Office.opened s).run actions).service.store.contracts.get? id = none := by
  have start : (Office.opened s).Sound := by
    refine ⟨fun _ _ _ there => ?_, fun id c hc status => ?_⟩
    · simp [Office.opened] at there
    · rw [fresh id c hc _ (.inl rfl)] at status
      cases status
  have sound := Office.run_induction start fun a ha o h =>
    Office.sound_step h fun w hw => spare w (hw ▸ ha)
  have alike := Office.alike_run (o := Office.opened s) (.refl s.store) actions
  refine ⟨Office.traces_run s actions, sound.documents, alike, ?_⟩
  rintro before after id rfl others
  rw [Office.run_append]
  refine Office.gone_run (o := ((Office.opened s).run before).step (.write (.delete id))) ?_ others
  exact (Write.delete id).get?_apply_self

/-- A service that has one notice. -/
def mailroom : Service :=
  { Service.new ⟨letters.registry, .standard⟩ .standard with store := Store.empty.insert notice }

/-- The badge is corrected while the letter is on its way. -/
def correctedMeanwhile : List Office.Action :=
  [.generate "n-1" false, .advance 0,
    .write (.update "n-1" (Dict.empty.insert "badge" (.string "8"))), .advance 0, .advance 0]

theorem mailroom_fresh (id : String) (c : Contract)
    (h : mailroom.store.contracts.get? id = some c) :
    Record.Undocumented c.fields := by
  by_cases same : id = notice.id
  · subst same
    obtain rfl : notice = c := Option.some.inj ((Dict.get?_insert_self ..).symm.trans h)
    rintro field (rfl | rfl) <;> rfl
  · rw [mailroom, Store.insert, Dict.get?_insert_other _ _ same] at h
    cases h

/-- The notice has the corrected badge, and the status of the letter that went out. -/
theorem generations_share_store_mailroom :
    (∀ id c, mailroom.store.contracts.get? id = some c → Record.Undocumented c.fields) ∧
      (∀ w, .write w ∈ correctedMeanwhile → w.Spares) ∧
      ∃ c, ((Office.opened mailroom).run correctedMeanwhile).service.store.contracts.get? "n-1" =
          some c ∧
        c.fields.get? "badge" = some (.string "8") ∧
        c.fields.get? Contract.statusField = some (.string "dispatched") ∧
        Documented ((Office.opened mailroom).run correctedMeanwhile).history "n-1" c := by
  have spare : ∀ w, .write w ∈ correctedMeanwhile → w.Spares := by
    intro w hw
    obtain rfl : w = .update "n-1" (Dict.empty.insert "badge" (.string "8")) := by
      simpa [correctedMeanwhile] using hw
    rintro field (rfl | rfl) <;> rfl
  obtain ⟨c, there⟩ : ∃ c,
      ((Office.opened mailroom).run correctedMeanwhile).service.store.contracts.get? "n-1" =
        some c := ⟨_, rfl⟩
  have badge : (((Office.opened mailroom).run correctedMeanwhile).service.store.contracts.get?
      "n-1").bind (·.fields.get? "badge") = some (.string "8") := rfl
  have status : (((Office.opened mailroom).run correctedMeanwhile).service.store.contracts.get?
      "n-1").bind (·.fields.get? Contract.statusField) = some (.string "dispatched") := rfl
  rw [there] at badge status
  have shared := generations_share_store mailroom mailroom_fresh correctedMeanwhile spare
  exact ⟨mailroom_fresh, spare, c, there, badge, status, shared.2.1 "n-1" c there status⟩

end ContractDocs
