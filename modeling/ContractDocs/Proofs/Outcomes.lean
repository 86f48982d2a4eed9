/-
What a request comes to. The payload and the blueprint are tried apart from
each other, so each is there for reasons of its own; only the error has to
choose between their failures.

`Attempt.failure?_eq_none_iff`: what was tried has a result or a failure.
`Registry.linkedTemplate_of_payload_eq_error`: a payload that fails at a
variable has found its template, and so would the blueprint.
-/
import ContractDocs.Outcome
import ContractDocs.Proofs.Compilation

namespace ContractDocs

open Checks

/-! ## Attempts -/

namespace Attempt

variable {α : Type} {a : Attempt α}

theorem result?_eq_some_iff {x : α} : a.result? = some x ↔ a = some (.ok x) := by
  rcases a with _ | _ | _ <;> simp [result?]

theorem failure?_eq_some_iff {e : CompileError} : a.failure? = some e ↔ a = some (.error e) := by
  rcases a with _ | _ | _ <;> simp [failure?]

theorem failure?_eq_none_iff : a.failure? = none ↔ (a.isSome = true → a.result?.isSome = true) := by
  rcases a with _ | _ | _ <;> simp [failure?, result?]

end Attempt

namespace Registry

variable {reg : Registry} {s : Settings} {typeId : String}

theorem payloadIfValid_eq_some_iff {v : Validation} {r : Record} {x : Except CompileError Payload} :
    reg.payloadIfValid s typeId v r = some x ↔
      v.isValid = true ∧ reg.payload s.dateFormats typeId r = x := by
  rw [payloadIfValid]
  split <;> simp_all

theorem isSome_payloadIfValid {v : Validation} {r : Record} :
    (reg.payloadIfValid s typeId v r).isSome = v.isValid := by
  rw [payloadIfValid]
  split <;> simp_all

theorem blueprintIfWanted_eq_some_iff {wanted : Bool} {x : Except CompileError Blueprint} :
    reg.blueprintIfWanted s typeId wanted = some x ↔
      wanted = true ∧ reg.blueprintForType s.blueprintSuffix typeId = x := by
  rw [blueprintIfWanted]
  split <;> simp_all

theorem isSome_blueprintIfWanted {wanted : Bool} :
    (reg.blueprintIfWanted s typeId wanted).isSome = wanted := by
  rw [blueprintIfWanted]
  split <;> simp_all

/-- A request has a payload when its completed record is valid and can be compiled. -/
theorem process_payload_eq_some_iff {q : Request} {p : Payload} :
    (reg.process s q).payload = some p ↔ (reg.process s q).validation.isValid = true ∧
      reg.payload s.dateFormats q.typeId (reg.complete s q.typeId q.record).1 = .ok p := by
  simp only [process, Outcome.ofStages, Attempt.result?_eq_some_iff, payloadIfValid_eq_some_iff]

end Registry

/-! ## Failures at a variable -/

/-- A failure to bind a variable, and not to find the template. -/
inductive CompileError.AtVariable : CompileError → Prop
  | missing (templateId name field : String) :
    AtVariable (.missingRequiredField templateId name field)
  | transform (name : String) (e : BindingError) : AtVariable (.transformFailed name e)

/-- Looking for a template binds no variable. -/
theorem Registry.not_atVariable_of_linkedTemplate_eq_error {reg : Registry} {typeId : String}
    {e : CompileError} (h : reg.linkedTemplate typeId = .error e) : ¬ e.AtVariable := by
  rcases linkedTemplate_eq_error_iff.1 h with
    ⟨-, rfl⟩ | ⟨t, -, ⟨-, rfl⟩ | ⟨id, -, -, rfl⟩⟩ <;> rintro ⟨⟩

theorem Registry.linkedTemplate_of_payload_eq_error {reg : Registry} {formats : DateFormats}
    {typeId : String} {r : Record} {e : CompileError}
    (h : reg.payload formats typeId r = .error e) (he : e.AtVariable) :
    ∃ t, reg.linkedTemplate typeId = .ok t := by
  rcases payload_eq_error_iff.1 h with h | ⟨t, ht, -⟩
  · exact absurd he (not_atVariable_of_linkedTemplate_eq_error h)
  · exact ⟨t, ht⟩

/-! ## Outcomes -/

/-- What the outcome of a request is, where `r` is the completed record. -/
structure Outcome.Answers (o : Outcome) (reg : Registry) (s : Settings) (q : Request)
    (r : Record) : Prop where
  validation : o.validation = reg.validate s.dateRules q.typeId r
  payload_iff : ∀ p, o.payload = some p ↔
    o.validation.isValid = true ∧ reg.payload s.dateFormats q.typeId r = .ok p
  /-- Neither the record nor its validity has a say. -/
  blueprint_iff : ∀ b, o.blueprint = some b ↔
    q.wantBlueprint = true ∧ ∃ t, reg.linkedTemplate q.typeId = .ok t ∧
      t.blueprint s.blueprintSuffix = b
  error_iff : o.error = none ↔
    (o.validation.isValid = true → o.payload.isSome = true) ∧
      (q.wantBlueprint = true → o.blueprint.isSome = true)
  /-- The payload's failure is reported, whatever becomes of the blueprint. -/
  payload_first : ∀ e, o.validation.isValid = true →
    reg.payload s.dateFormats q.typeId r = .error e → o.error = some e
  /-- A failure at a variable leaves the blueprint alone. -/
  blueprint_anyway : ∀ e, reg.payload s.dateFormats q.typeId r = .error e → e.AtVariable →
    q.wantBlueprint = true → o.blueprint.isSome = true

/-- **Every outcome** has this shape: a payload exactly for a valid record that
can be compiled, a blueprint exactly when it is wanted and there is a template,
and an error exactly when something that was tried is missing. -/
theorem Registry.process_answers (reg : Registry) (s : Settings) (q : Request) :
    (reg.process s q).Answers reg s q (reg.complete s q.typeId q.record).1 := by
  have blueprint : ∀ b, (reg.process s q).blueprint = some b ↔
      q.wantBlueprint = true ∧ ∃ t, reg.linkedTemplate q.typeId = .ok t ∧
        t.blueprint s.blueprintSuffix = b := fun b => by
    simp only [process, Outcome.ofStages, Attempt.result?_eq_some_iff,
      blueprintIfWanted_eq_some_iff, blueprintForType, map_eq_ok]
  refine {
    validation := rfl
    payload_iff := fun p => ?_
    blueprint_iff := blueprint
    error_iff := ?_
    payload_first := fun e hv h => ?_
    blueprint_anyway := fun e h he hw => ?_ }
  · simp only [process, Outcome.ofStages, Attempt.result?_eq_some_iff, payloadIfValid_eq_some_iff]
  · simp only [process, Outcome.ofStages, Option.or_eq_none_iff, Attempt.failure?_eq_none_iff,
      isSome_payloadIfValid, isSome_blueprintIfWanted]
  · have tried : (reg.payloadIfValid s q.typeId (reg.process s q).validation
        (reg.complete s q.typeId q.record).1).failure? = some e :=
      Attempt.failure?_eq_some_iff.2 (payloadIfValid_eq_some_iff.2 ⟨hv, h⟩)
    exact Option.or_eq_some_iff.2 (.inl tried)
  · obtain ⟨t, ht⟩ := linkedTemplate_of_payload_eq_error h he
    rw [Option.isSome_iff_exists]
    exact ⟨_, (blueprint _).2 ⟨hw, t, ht, rfl⟩⟩

end ContractDocs
