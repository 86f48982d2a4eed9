/-
Generating the document of a contract again. The record then has the traces of
the generations before, the status and the fingerprint of the document. A type
that neither requires these two fields, nor has defaults for them, nor binds
them in its template comes to the same outcome all the same.

`Service.process_alike`: the traces make no difference to one outcome.
`Office.repeats_step`: so no call of a generation makes a difference to the
outcomes that follow.
-/
import ContractDocs.Catalog.Builtin
import ContractDocs.Proofs.Dependence
import ContractDocs.Proofs.SharedStore

namespace ContractDocs

open Checks

/-! ## Types that spare the documents -/

/-- The type and its template have nothing to do with the fields that say what came of a
document. -/
structure Registry.SparesDocuments (reg : Registry) (typeId : String) : Prop where
  required : ∀ t, reg.types.get? typeId = some t → ∀ field ∈ t.requiredFields,
    ¬ Contract.OfDocument field
  defaults : ∀ t, reg.types.get? typeId = some t → ∀ field v, t.defaults.get? field = some v →
    ¬ Contract.OfDocument field
  bound : ∀ t, reg.linkedTemplate typeId = .ok t → ∀ name b, t.bindings.get? name = some b →
    ∀ field ∈ b.fields, ¬ Contract.OfDocument field

theorem Field.not_ofDocument (f : Field) : ¬ Contract.OfDocument f.name := by
  cases f <;> decide

theorem Registry.SparesDocuments.not_ofDocument {reg : Registry} {typeId field : String}
    (spares : reg.SparesDocuments typeId) (reads : reg.Reads typeId field) :
    ¬ Contract.OfDocument field := by
  cases reads with
  | validated f name => exact name ▸ f.not_ofDocument
  | required type required => exact spares.required _ type _ required
  | defaulted type default => exact spares.defaults _ type _ _ default
  | bound linked bound reads => exact spares.bound _ linked _ _ bound _ reads

/-- **What is said about its document** makes no difference to the outcome of a contract. -/
theorem Service.process_alike {s : Service} {c c' : Contract} (h : c'.Alike c)
    (spares : s.engine.registry.SparesDocuments c.contractType) (wantBlueprint : Bool) :
    s.process wantBlueprint c' = s.process wantBlueprint c := by
  have agree : Record.AgreeOn (s.engine.registry.Reads c.contractType) c'.fields c.fields := by
    intro field reads
    rw [Record.present?, Record.present?, h.fields field (spares.not_ofDocument reads)]
  have same := Registry.process_congr (s := s.engine.settings)
    (q := ⟨c.contractType, c'.fields, wantBlueprint⟩) agree
  rw [process, process, Engine.process, Engine.process, h.contractType]
  exact same

/-! ## Other options -/

/-- The outcomes say the same about the record. -/
structure Outcome.AgreesWith (o o' : Outcome) : Prop where
  validation : o.validation = o'.validation
  payload : o.payload = o'.payload
  appliedDefaults : o.appliedDefaults = o'.appliedDefaults

namespace Registry

variable {reg : Registry} {s : Settings} {typeId : String}

/-- The blueprint cannot fail where there is a template. -/
theorem failure?_blueprintIfWanted {t : Template} (linked : reg.linkedTemplate typeId = .ok t)
    (wanted : Bool) : (reg.blueprintIfWanted s typeId wanted).failure? = none := by
  rw [blueprintIfWanted, blueprintForType, linked]
  split <;> rfl

/-- A valid record whose payload does not fail has a payload, and so a template. -/
theorem exists_linked_of_isValid {v : Validation} {r : Record} (valid : v.isValid = true)
    (h : (reg.payloadIfValid s typeId v r).failure? = none) :
    ∃ t, reg.linkedTemplate typeId = .ok t := by
  rw [Attempt.failure?_eq_none_iff, isSome_payloadIfValid] at h
  obtain ⟨p, hp⟩ := Option.isSome_iff_exists.1 (h valid)
  rw [Attempt.result?_eq_some_iff, payloadIfValid_eq_some_iff] at hp
  obtain ⟨t, linked, -⟩ := bind_eq_ok.1 hp.2
  exact ⟨t, linked⟩

/-- The error is the payload's when the record is valid, and when there is a template. -/
theorem error_eq_failure? {q : Request} (h : (reg.process s q).validation.isValid = true ∨
      ∃ t, reg.linkedTemplate q.typeId = .ok t) :
    (reg.process s q).error = (reg.payloadIfValid s q.typeId (reg.process s q).validation
      (reg.complete s q.typeId q.record).1).failure? := by
  have stages : (reg.process s q).error = ((reg.payloadIfValid s q.typeId
      (reg.process s q).validation (reg.complete s q.typeId q.record).1).failure?).or
        (reg.blueprintIfWanted s q.typeId q.wantBlueprint).failure? := rfl
  rw [stages]
  cases failed : (reg.payloadIfValid s q.typeId (reg.process s q).validation
    (reg.complete s q.typeId q.record).1).failure? with
  | some e => rfl
  | none =>
    have found := h.elim (fun valid => exists_linked_of_isValid valid failed) id
    obtain ⟨t, linked⟩ := found
    rw [failure?_blueprintIfWanted linked]
    rfl

end Registry

namespace Service

variable (s : Service) (c : Contract) (want want' : Bool)

/-- Whether a blueprint is wanted makes no difference to what is said about the record. -/
theorem process_agreesWith : (s.process want c).AgreesWith (s.process want' c) := ⟨rfl, rfl, rfl⟩

theorem process_error_eq (h : (s.process want c).validation.isValid = true ∨
      ∃ t, s.engine.registry.linkedTemplate c.contractType = .ok t) :
    (s.process want c).error = (s.process want' c).error := by
  have h' : (s.process want' c).validation.isValid = true ∨
      ∃ t, s.engine.registry.linkedTemplate c.contractType = .ok t := h
  exact (Registry.error_eq_failure? h).trans (Registry.error_eq_failure? h').symm

end Service

/-! ## Generations that carry an outcome -/

/-- The outcome of the contract, once there is one. -/
def Progress.outcome? : Progress → Option Outcome
  | .dispatching o _ | .recording o _ => some o
  | .finished (.ok report) => some report.outcome
  | .fetching | .finished (.error _) => none

/-- The generation has no other outcome than this one and dispatches no other payload than its. -/
def Progress.Carries (expected : Outcome) : Progress → Prop
  | .dispatching o p => o = expected ∧ expected.payload = some p
  | .recording o _ => o = expected
  | .finished (.ok report) => report.outcome = expected
  | .fetching | .finished (.error _) => True

theorem Progress.Carries.eq_of_outcome? {expected o : Outcome} {p : Progress}
    (h : p.Carries expected) (ho : p.outcome? = some o) : o = expected := by
  cases p with
  | fetching => cases ho
  | dispatching o' p =>
    cases ho
    exact h.1
  | recording o' ending =>
    cases ho
    exact h
  | finished result =>
    cases result with
    | error e => cases ho
    | ok report =>
      cases ho
      exact h

theorem Progress.carries_ofOutcome (o : Outcome) : (ofOutcome o).Carries o := by
  rw [ofOutcome]
  split
  · next p hp => exact ⟨rfl, hp⟩
  · rfl

theorem Progress.Carries.afterPatch {expected o : Outcome} (h : o = expected) (contractId : String)
    (ending : Ending) (answer : Except CallError Contract) :
    (Progress.afterPatch contractId o ending answer).Carries expected := by
  cases ending with
  | dispatchFailed e => trivial
  | dispatched | rejected | failed =>
    cases answer with
    | error e => trivial
    | ok c => exact h

namespace Service.Call

variable {s service : Service} {number : Nat} {j : Job} {progress : Progress} {event : Option Event}

/-- What a generation carries it goes on to carry. -/
theorem carries (call : s.Call number j service progress event) {expected : Outcome}
    (fetched : ∀ c, s.store.contracts.get? j.contractId = some c →
      s.process j.wantBlueprint c = expected)
    (h : j.progress.Carries expected) : progress.Carries expected := by
  cases call with
  | fetched fetching there =>
    rw [fetched _ there]
    exact Progress.carries_ofOutcome expected
  | notFetched => trivial
  | accepted dispatching | refused dispatching =>
    rw [dispatching] at h
    exact h.1
  | recorded recording | notRecorded recording =>
    rw [recording] at h
    exact .afterPatch h _ _ _
  | ended finished => rwa [finished] at h

/-- What a generation dispatches is the payload of what it carries. -/
theorem payload_of_accepted {i : Nat} {id : String} {p : Payload}
    (call : s.Call number j service progress (some (.accepted i id p))) :
    j.contractId = id ∧ ∀ expected, j.progress.Carries expected → expected.payload = some p := by
  cases call with
  | accepted dispatching =>
    refine ⟨rfl, fun expected h => ?_⟩
    rw [dispatching] at h
    exact h.2

end Service.Call

namespace Office

variable {o : Office} {s : Service} {id : String} {c : Contract}

/-- Neither another client nor another engine has a part in the action. -/
def Action.Quiet : Action → Prop
  | .generate _ _ | .advance _ | .arrange _ _ _ => True
  | .write _ | .configure _ => False

/-- All that the generations for the contract come to is what it came to at first. -/
structure Repeats (s : Service) (id : String) (c : Contract) (o : Office) : Prop where
  engine : o.service.engine = s.engine
  store : o.service.store.Alike s.store
  jobs : ∀ (number : Nat) (j : Job), o.jobs[number]? = some j → j.contractId = id →
    j.progress.Carries (s.process j.wantBlueprint c)
  accepted : ∀ number p, .accepted number id p ∈ o.history → (s.process false c).payload = some p

/-- A stored contract differs from the one at first in what is said about its document alone. -/
theorem Repeats.process_eq (h : o.Repeats s id c) (stored : s.store.contracts.get? id = some c)
    (spares : s.engine.registry.SparesDocuments c.contractType) {c' : Contract}
    (there : o.service.store.contracts.get? id = some c') (want : Bool) :
    o.service.process want c' = s.process want c := by
  have alike := h.store id
  rw [there, stored] at alike
  cases alike with
  | some alike =>
    have same := Service.process_alike (s := s) alike spares want
    rw [Service.process, h.engine]
    exact same

theorem repeats_advance (h : o.Repeats s id c) (stored : s.store.contracts.get? id = some c)
    (spares : s.engine.registry.SparesDocuments c.contractType) (number : Nat) :
    (o.step (.advance number)).Repeats s id c := by
  have store := alike_advance h.store number
  rcases o.exists_call number with same | ⟨j, service, progress, event, there, call, eq⟩
  · rwa [same]
  · rw [eq] at store ⊢
    have engine : service.engine = o.service.engine := by
      cases call <;> rfl
    -- The call may be one for another contract: then nothing is claimed of it.
    refine ⟨engine.trans h.engine, store, fun i k hk own => ?_, fun i p accepted => ?_⟩
    · rcases getElem?_set hk with ⟨rfl, rfl⟩ | before
      · exact call.carries (fun c' there' => h.process_eq stored spares (own ▸ there') _)
          (h.jobs i j there own)
      · exact h.jobs i k before own
    · rcases List.mem_append.1 accepted with before | now
      · exact h.accepted i p before
      · obtain rfl := Option.mem_toList.1 now
        obtain ⟨own, payload⟩ := call.payload_of_accepted
        have sent := payload _ (h.jobs number j there own)
        exact sent

theorem repeats_step (h : o.Repeats s id c) (stored : s.store.contracts.get? id = some c)
    (spares : s.engine.registry.SparesDocuments c.contractType) {a : Action} (quiet : a.Quiet) :
    (o.step a).Repeats s id c := by
  cases a with
  | advance number => exact repeats_advance h stored spares number
  | arrange => exact ⟨h.engine, h.store, h.jobs, h.accepted⟩
  | write | configure => exact quiet.elim
  | generate contractId wantBlueprint =>
    refine ⟨h.engine, h.store, fun number j hj own => ?_, h.accepted⟩
    rw [step, List.getElem?_append] at hj
    split at hj
    · exact h.jobs number j hj own
    · obtain rfl := List.mem_singleton.1 (List.mem_of_getElem? hj)
      trivial

/-- **Generations repeat themselves** as long as neither another client nor another engine comes
in. -/
theorem repeats_run (stored : s.store.contracts.get? id = some c)
    (spares : s.engine.registry.SparesDocuments c.contractType) {actions : List Action}
    (quiet : ∀ a ∈ actions, a.Quiet) : ((opened s).run actions).Repeats s id c := by
  refine run_induction ⟨rfl, .refl s.store, ?_, ?_⟩ fun a ha o h =>
    repeats_step h stored spares (quiet a ha)
  · simp [opened]
  · simp [opened]

end Office

/-! ## Catalogs -/

/-- Nothing in the catalog has to do with the fields that say what came of a document. -/
def Catalog.SparesDocuments (c : Catalog) : Prop :=
  (∀ t ∈ c.contractTypes, (∀ field ∈ t.requiredFields, ¬ Contract.OfDocument field) ∧
    ∀ e ∈ t.defaults.entries, ¬ Contract.OfDocument e.1) ∧
  ∀ tmpl ∈ c.templates, ∀ e ∈ tmpl.bindings.entries, ∀ field ∈ e.2.fields,
    ¬ Contract.OfDocument field

instance (c : Catalog) : Decidable c.SparesDocuments := inferInstanceAs (Decidable (_ ∧ _))

theorem Catalog.SparesDocuments.of_build {c : Catalog} (spares : c.SparesDocuments) {strict : Bool}
    {reg : Registry} (hb : c.build strict = .ok reg) (typeId : String) :
    reg.SparesDocuments typeId := by
  obtain ⟨types, templates⟩ := spares
  have holds := holds_of_build hb
  refine ⟨fun t ht => ?_, fun t ht field v hv => ?_, fun t linked name b hb field hf => ?_⟩
  · exact (types t ((holds.type_iff _ _).1 ht).1).1
  · exact (types t ((holds.type_iff _ _).1 ht).1).2 _ (Dict.get?_eq_some_iff.1 hv)
  · obtain ⟨-, id, -, -, found⟩ := Registry.linkedTemplate_eq_ok_iff.1 linked
    have entry := Dict.get?_eq_some_iff.1 hb
    exact templates t ((holds.template_iff _ _).1 found).1 _ entry field hf

theorem builtin_sparesDocuments : Catalog.builtin.SparesDocuments := by decide +kernel

/-! ## Again and again -/

/-- At some point of the run, a generation for the contract has come to the outcome. -/
def Office.ComesTo (s : Service) (actions : List Action) (contractId : String)
    (wantBlueprint : Bool) (out : Outcome) : Prop :=
  ∃ (before : List Action) (number : Nat) (progress : Progress), before <+: actions ∧
    ((opened s).run before).jobs[number]? = some ⟨contractId, wantBlueprint, progress⟩ ∧
    progress.outcome? = some out

theorem Office.ComesTo.eq_process {s : Service} {id : String} {c : Contract}
    (stored : s.store.contracts.get? id = some c)
    (spares : s.engine.registry.SparesDocuments c.contractType) {actions : List Action}
    (quiet : ∀ a ∈ actions, a.Quiet) {want : Bool} {out : Outcome}
    (h : ComesTo s actions id want out) : out = s.process want c := by
  obtain ⟨before, number, progress, start, there, outcome⟩ := h
  have repeats := repeats_run stored spares fun a ha => quiet a (start.subset ha)
  exact (repeats.jobs number _ there rfl).eq_of_outcome? outcome

/-- **Generating a document again** comes to the same. The type of a contract
has nothing to do with the fields that say what came of its document; no other
client writes, and the engine stays. After any interleaving of generations,
whether their payloads are accepted or not,
- what is stored comes to the same outcomes as what was stored at first;
- all generations of the contract that were asked for alike have come to the
  same outcome; with a blueprint and without, they have come to the same
  validation, payload and defaults, and to the same error, unless it is the
  blueprint's own: the record is not valid and the type has no template;
- every payload that was accepted is that of what was stored at first, so all
  of them have the same fingerprint;
- a further generation with nothing in between is one more such run.

The built-in catalog is like that. -/
theorem regeneration_idempotent (s : Service) {id : String} {c : Contract}
    (stored : s.store.contracts.get? id = some c)
    (spares : s.engine.registry.SparesDocuments c.contractType) {actions : List Office.Action}
    (quiet : ∀ a ∈ actions, a.Quiet) :
    (∃ c', ((Office.opened s).run actions).service.store.contracts.get? id = some c' ∧
      ∀ want, ((Office.opened s).run actions).service.process want c' = s.process want c) ∧
    (∀ want out, Office.ComesTo s actions id want out → out = s.process want c) ∧
    (∀ want want' out out', Office.ComesTo s actions id want out →
      Office.ComesTo s actions id want' out' →
        out.AgreesWith out' ∧ (want = want' → out = out') ∧
          (out.validation.isValid = true ∨
              (∃ t, s.engine.registry.linkedTemplate c.contractType = .ok t) →
            out.error = out'.error)) ∧
    (∀ number p, .accepted number id p ∈ ((Office.opened s).run actions).history →
      (s.process false c).payload = some p) ∧
    (∀ number number' p p', .accepted number id p ∈ ((Office.opened s).run actions).history →
      .accepted number' id p' ∈ ((Office.opened s).run actions).history →
        p.fingerprint = p'.fingerprint) ∧
    (∀ want, ∃ more, (∀ a ∈ more, a.Quiet) ∧
      ((Office.opened s).run (actions ++ more)).service =
        (((Office.opened s).run actions).service.generate id want).1 ∧
      ((Office.opened s).run (actions ++ more)).jobs = ((Office.opened s).run actions).jobs ++
        [⟨id, want, .finished (((Office.opened s).run actions).service.generate id want).2⟩]) ∧
    ∀ strict reg, Catalog.builtin.build strict = .ok reg →
      ∀ typeId, reg.SparesDocuments typeId := by
  have repeats := Office.repeats_run stored spares quiet
  have same {want : Bool} {out : Outcome} (h : Office.ComesTo s actions id want out) :
      out = s.process want c := h.eq_process stored spares quiet
  refine ⟨?_, fun _ _ => same, fun want want' out out' h h' => ?_, repeats.accepted,
    fun number number' p p' h h' => ?_, fun want => ?_,
    fun _ _ => builtin_sparesDocuments.of_build⟩
  · have alike := repeats.store id
    rw [stored] at alike
    cases there : ((Office.opened s).run actions).service.store.contracts.get? id with
    | none =>
      rw [there] at alike
      cases alike
    | some c' => exact ⟨c', rfl, repeats.process_eq stored spares there⟩
  · rw [same h, same h']
    exact ⟨s.process_agreesWith c want want', fun asked => by rw [asked],
      s.process_error_eq c want want'⟩
  · have once := (repeats.accepted number p h).symm.trans (repeats.accepted number' p' h')
    rw [Option.some.inj once]
  · refine ⟨.generate id want ::
      .replicate 3 (.advance ((Office.opened s).run actions).jobs.length), ?_, ?_⟩
    · simp [Office.Action.Quiet]
    · rw [Office.run_append]
      exact Office.run_generate _ id want

/-- The notice goes out, the dispatcher closes, and the notice is to go out again. -/
def sentAgain : List Office.Action :=
  [.generate "n-1" false, .advance 0, .advance 0, .advance 0,
    .arrange .standard .none (some "closed"), .generate "n-1" true, .advance 1, .advance 1]

theorem regeneration_idempotent_mailroom :
    mailroom.store.contracts.get? "n-1" = some notice ∧
      mailroom.engine.registry.SparesDocuments notice.contractType ∧
      (∀ a ∈ sentAgain, a.Quiet) ∧
      ∃ out out', Office.ComesTo mailroom sentAgain "n-1" false out ∧
        Office.ComesTo mailroom sentAgain "n-1" true out' ∧ out.AgreesWith out' := by
  have stored : mailroom.store.contracts.get? "n-1" = some notice := rfl
  have spares : mailroom.engine.registry.SparesDocuments notice.contractType := by
    have built : letters.build true = .ok letters.registry := by rfl
    exact Catalog.SparesDocuments.of_build (by decide) built _
  have quiet : ∀ a ∈ sentAgain, a.Quiet := by simp [sentAgain, Office.Action.Quiet]
  obtain ⟨out, first⟩ : ∃ out, Office.ComesTo mailroom sentAgain "n-1" false out :=
    ⟨_, sentAgain, 0, _, List.prefix_refl _, rfl, rfl⟩
  obtain ⟨out', second⟩ : ∃ out, Office.ComesTo mailroom sentAgain "n-1" true out :=
    ⟨_, sentAgain, 1, _, List.prefix_refl _, rfl, rfl⟩
  have again := regeneration_idempotent mailroom stored spares quiet
  exact ⟨stored, spares, quiet, out, out', first, second,
    (again.2.2.1 _ _ _ _ first second).1⟩

end ContractDocs
