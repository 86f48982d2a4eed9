/-
Compiling a valid record: what can still go wrong. The checks of the build
answer for the template, the validation for the required fields of the type
and for the two dates; what remains is the template asking for more than the
type, and a transform that the validation does not foresee.

`Binding.evaluate_of_not_mayFail`: which bindings have their value.
`Registry.payload_eq_error_iff`: where a payload can fail.
`remaining_of_bind_eq_error`: what a legal record leaves open there.
-/
import ContractDocs.Payload
import ContractDocs.Proofs.DateWriting
import ContractDocs.Proofs.Legality
import ContractDocs.Proofs.Links

namespace ContractDocs

open Checks Dict

/-! ## Bindings -/

/-- A binding that may fail on a valid record: it scales, or it writes a date
that it does not read from one of the two dates of the contract alone, or by a
pattern that writes no date. -/
def Binding.MayFail (b : Binding) : Prop :=
  match b.transform with
  | some (.scale _ _) => True
  | some (.dateFormat pattern) =>
    (b.source ≠ .field Field.startDate.name ∧ b.source ≠ .field Field.endDate.name) ∨
      ¬ WritesDates pattern
  | _ => False

/-- A date that the validation has read can be written. -/
theorem Binding.evaluate_date {formats : DateFormats} {r : Record} {f : Field}
    (hf : r.DateIfAny formats f) {pattern : String} (hp : WritesDates pattern) :
    ∃ v, (Binding.date f.name pattern).evaluate formats r = .ok v := by
  simp only [Binding.date, Binding.evaluate, Source.read?]
  cases h : r.present? f.name with
  | none => exact ⟨none, rfl⟩
  | some v =>
    obtain ⟨d, w, hw, hd⟩ := hf (Record.provides_iff.2 ⟨v, h⟩)
    rw [Record.field?, h, Option.some.injEq] at hw
    subst hw
    obtain ⟨text, ht⟩ := hp.formatDate d
    exact ⟨some (.string text), by simp [Transform.apply, hd, ht, Except.map]⟩

/-- A binding that may not fail does not, once the dates are read. -/
theorem Binding.evaluate_of_not_mayFail {formats : DateFormats} {r : Record}
    (hs : r.DateIfAny formats .startDate) (he : r.DateIfAny formats .endDate) {b : Binding}
    (hb : ¬ b.MayFail) : ∃ v, b.evaluate formats r = .ok v := by
  obtain ⟨source, transform⟩ := b
  rcases transform with _ | _ | _ | pattern | ⟨factor, decimals⟩
  · simp only [Binding.evaluate]
    split <;> exact ⟨_, rfl⟩
  · simp only [Binding.evaluate]
    split <;> exact ⟨_, rfl⟩
  · simp only [Binding.evaluate]
    split <;> exact ⟨_, rfl⟩
  · simp only [Binding.MayFail, not_or, Classical.not_not, not_and] at hb
    by_cases hsource : source = .field Field.startDate.name
    · subst hsource
      exact Binding.evaluate_date hs hb.2
    · rw [hb.1 hsource]
      exact Binding.evaluate_date he hb.2
  · exact absurd trivial hb

/-! ## Variables -/

namespace Template

variable {t : Template} {formats : DateFormats} {r : Record}

theorem variableValue_eq_error_iff {name : String} {b : Binding} {e : CompileError} :
    t.variableValue formats r name b = .error e ↔
      (∃ field, t.lackedField? r b = some field ∧ e = .missingRequiredField t.id name field) ∨
      (t.lackedField? r b = none ∧ ∃ be, b.evaluate formats r = .error be ∧
        e = .transformFailed name be) := by
  rw [variableValue]
  cases t.lackedField? r b with
  | none => simp [mapError_eq_error, @eq_comm _ e]
  | some field => simp [@eq_comm _ e]

theorem lackedField?_eq_some {b : Binding} {field : String} (h : t.lackedField? r b = some field) :
    field ∈ b.fields ∧ t.requires field = true ∧ ¬ r.Provides field := by
  have hp := List.find?_some h
  simp only [Bool.and_eq_true, Option.isNone_iff_eq_none, Record.present?_eq_none_iff] at hp
  exact ⟨List.mem_of_find?_eq_some h, hp⟩

/-- Variables that cannot be bound fail at one of the bindings. -/
theorem exists_of_bind_eq_error {e : CompileError} (h : t.bind formats r = .error e) :
    ∃ name b, t.bindings.get? name = some b ∧ t.variableValue formats r name b = .error e := by
  obtain ⟨⟨name, b⟩, hm, bound, h⟩ := exists_of_foldlM_eq_error h
  refine ⟨name, b, get?_eq_some_iff.2 hm, ?_⟩
  rcases bind_eq_error.1 h with h | ⟨v, -, h⟩
  · exact h
  · cases v <;> cases h

end Template

/-! ## Payloads -/

namespace Registry

variable {reg : Registry} {typeId : String}

theorem payload_eq_error_iff {formats : DateFormats} {r : Record} {e : CompileError} :
    reg.payload formats typeId r = .error e ↔
      reg.linkedTemplate typeId = .error e ∨
        ∃ t, reg.linkedTemplate typeId = .ok t ∧ t.bind formats r = .error e := by
  have bound : ∀ t : Template,
      t.payload formats typeId r = .error e ↔ t.bind formats r = .error e := fun t => by
    rw [Template.payload, bind_eq_error]
    exact or_iff_left fun ⟨_, _, h⟩ => by cases h
  simp only [payload, bind_eq_error, bound]

/-- A valid record is a legal one of a type of the registry. -/
theorem legal_of_isValid {rules : DateRules} {r : Record}
    (h : (reg.validate rules typeId r).isValid = true) :
    ∃ t, reg.types.get? typeId = some t ∧ t.Legal rules r := by
  rw [validate] at h
  split at h
  · next t ht => exact ⟨t, ht, ContractType.isValid_iff_legal.1 h⟩
  · cases h

end Registry

/-- The failures that a valid record of the type `t` leaves open. -/
inductive Remaining (reg : Registry) (typeId : String) (t : ContractType) : CompileError → Prop
  | noTemplate (h : t.templateId = none) : Remaining reg typeId t (.noTemplateLinked typeId)
  /-- The template requires a field that the type does not. -/
  | missing {tmpl : Template} {name field : String} {b : Binding}
      (linked : reg.linkedTemplate typeId = .ok tmpl) (bound : tmpl.bindings.get? name = some b)
      (reads : field ∈ b.fields) (asked : tmpl.requires field = true)
      (unasked : field ∉ t.requiredFields) :
      Remaining reg typeId t (.missingRequiredField tmpl.id name field)
  | transform {tmpl : Template} {name : String} {b : Binding} {e : BindingError}
      (linked : reg.linkedTemplate typeId = .ok tmpl) (bound : tmpl.bindings.get? name = some b)
      (mayFail : b.MayFail) : Remaining reg typeId t (.transformFailed name e)

theorem remaining_of_bind_eq_error {reg : Registry} {typeId : String} {t : ContractType}
    {rules : DateRules} {r : Record} (hl : t.Legal rules r) {tmpl : Template}
    (linked : reg.linkedTemplate typeId = .ok tmpl) {e : CompileError}
    (h : tmpl.bind rules.formats r = .error e) : Remaining reg typeId t e := by
  obtain ⟨name, b, hget, h⟩ := Template.exists_of_bind_eq_error h
  rcases Template.variableValue_eq_error_iff.1 h with ⟨field, hf, rfl⟩ | ⟨-, be, hbe, rfl⟩
  · obtain ⟨hm, hr, hn⟩ := Template.lackedField?_eq_some hf
    exact .missing linked hget hm hr fun hreq => hn (hl.required field hreq)
  · refine .transform linked hget ?_
    by_cases hb : b.MayFail
    · exact hb
    · obtain ⟨v, hv⟩ := Binding.evaluate_of_not_mayFail hl.startDate hl.endDate hb
      rw [hv] at hbe
      cases hbe

/-- **After the validation** of a record against a built registry, a payload
fails only by a failure that remains: never for want of the type or of a
template that is linked; for want of a link exactly when the type has none;
and not for a missing field when the type requires what the template binds and
requires. A binding that may not fail has its value: it does not transform, or
trims, or takes a code, or writes one of the two dates by a pattern for dates. -/
theorem payload_of_isValid {c : Catalog} {strict : Bool} {reg : Registry}
    (hb : c.build strict = .ok reg) {s : Settings} {typeId : String} {r : Record}
    (hv : (reg.validate s.dateRules typeId r).isValid = true) :
    ∃ t, reg.types.get? typeId = some t ∧
      (∀ e, reg.payload s.dateFormats typeId r = .error e → Remaining reg typeId t e) ∧
      (∀ id, reg.payload s.dateFormats typeId r ≠ .error (.unknownContractType id) ∧
        reg.payload s.dateFormats typeId r ≠ .error (.templateNotFound id)) ∧
      (reg.payload s.dateFormats typeId r = .error (.noTemplateLinked typeId) ↔
        t.templateId = none) ∧
      ((∀ tmpl, reg.linkedTemplate typeId = .ok tmpl → ∀ name b, tmpl.bindings.get? name = some b →
          ∀ field ∈ b.fields, tmpl.requires field = true → field ∈ t.requiredFields) →
        ∀ id name field,
          reg.payload s.dateFormats typeId r ≠ .error (.missingRequiredField id name field)) ∧
      ∀ b : Binding, ¬ b.MayFail → ∃ v, b.evaluate s.dateFormats r = .ok v := by
  obtain ⟨t, ht, hl⟩ := Registry.legal_of_isValid hv
  have unlinked : t.templateId = none →
      reg.linkedTemplate typeId = .error (.noTemplateLinked typeId) := fun hid =>
    Registry.linkedTemplate_eq_error_iff.2 (.inr ⟨t, ht, .inl ⟨hid, rfl⟩⟩)
  have remaining : ∀ e, reg.payload s.dateFormats typeId r = .error e →
      Remaining reg typeId t e := by
    intro e h
    rcases Registry.payload_eq_error_iff.1 h with h | ⟨tmpl, linked, h⟩
    · cases hid : t.templateId with
      | none =>
        rw [unlinked hid, Except.error.injEq] at h
        exact h ▸ .noTemplate hid
      | some id =>
        -- A link without its template would have stopped the build.
        obtain ⟨tmpl, linked⟩ := Registry.linkedTemplate_of_build hb ht hid
        rw [linked] at h
        cases h
    · exact remaining_of_bind_eq_error hl linked h
  refine ⟨t, ht, remaining, fun id => ⟨fun h => ?_, fun h => ?_⟩, ⟨fun h => ?_, fun hid => ?_⟩,
    fun hreq id name field h => ?_,
    fun b => Binding.evaluate_of_not_mayFail hl.startDate hl.endDate⟩
  · cases remaining _ h
  · cases remaining _ h
  · cases remaining _ h with
    | noTemplate hid => exact hid
  · exact Registry.payload_eq_error_iff.2 (.inl (unlinked hid))
  · cases remaining _ h with
    | missing linked bound reads asked unasked =>
      exact unasked (hreq _ linked _ _ bound _ reads asked)

/-- A template that requires a badge, and a type that does not. -/
def letters : Catalog where
  contractTypes := [{ ContractType.new "notice" "Notice" "letters" with
    optionalFields := ["badge"]
    templateId := some "letter" }]
  templates := [{ (Template.new "letter" "Letter" "letters" "ref-1").withBinding "badge"
    (.ofField "badge") "Number of the badge" with requiredFields := ["badge"] }]

/-- A notice without a badge is valid, and the badge is missing all the same. -/
theorem payload_of_isValid_letters :
    letters.build true = .ok letters.registry ∧
      (letters.registry.validate Settings.standard.dateRules "notice" .empty).isValid = true ∧
      ∃ t, letters.registry.types.get? "notice" = some t ∧
        Remaining letters.registry "notice" t (.missingRequiredField "letter" "badge" "badge") := by
  have built : letters.build true = .ok letters.registry := by rfl
  have valid : (letters.registry.validate Settings.standard.dateRules "notice" .empty).isValid =
      true := by decide
  obtain ⟨t, ht, remaining, -⟩ := payload_of_isValid built valid
  exact ⟨built, valid, t, ht, remaining _ rfl⟩

end ContractDocs
