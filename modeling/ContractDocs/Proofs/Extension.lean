/-
Extension: a catalog that gets one more contract type. The type takes part in
the checks of the others, as the fields it has are known to the template it is
linked to; but it can only make more fields known, so no other entry is
refused for its sake.

`Catalog.consistent_withType_iff`: what is asked of the new type, and nothing
else is asked. `Registry.process_of_lookups`: a request looks up its own type
and the template of it, and nothing else of a registry counts.
`Catalog.build_withType`: so the requests of all other types are processed as
before.
-/
import ContractDocs.Outcome
import ContractDocs.Proofs.Compilation

namespace ContractDocs

open Dict

/-! ## What a request looks up -/

namespace Registry

variable {reg reg' : Registry} {typeId : String}

theorem linkedTemplate_of_lookups (type : reg'.types.get? typeId = reg.types.get? typeId)
    (templates : reg'.templates = reg.templates) :
    reg'.linkedTemplate typeId = reg.linkedTemplate typeId := by
  have template : ∀ id, reg'.template id = reg.template id := fun id => by
    rw [Registry.template, Registry.template, templates]
  simp only [linkedTemplate, contractType, type, template]

/-- An outcome depends on the type of the request and its template. -/
theorem process_of_lookups {q : Request} (type : reg'.types.get? q.typeId = reg.types.get? q.typeId)
    (linked : reg'.linkedTemplate q.typeId = reg.linkedTemplate q.typeId) (s : Settings) :
    reg'.process s q = reg.process s q := by
  have complete : reg'.complete s q.typeId q.record = reg.complete s q.typeId q.record := by
    rw [Registry.complete, Registry.complete, type]
  have validate : ∀ r, reg'.validate s.dateRules q.typeId r = reg.validate s.dateRules q.typeId r :=
    fun r => by rw [Registry.validate, Registry.validate, type]
  have payload : ∀ r, reg'.payload s.dateFormats q.typeId r =
      reg.payload s.dateFormats q.typeId r := fun r => by
    rw [Registry.payload, Registry.payload, linked]
  have blueprint : reg'.blueprintForType s.blueprintSuffix q.typeId =
      reg.blueprintForType s.blueprintSuffix q.typeId := by
    rw [blueprintForType, blueprintForType, linked]
  simp only [process, complete, validate, payloadIfValid, payload, blueprintIfWanted, blueprint]

end Registry

/-! ## One more type -/

namespace Catalog

variable {c : Catalog} {strict : Bool} {t : ContractType}

/-- The catalog with one more contract type, after the others. -/
def withType (c : Catalog) (t : ContractType) : Catalog := c.append ⟨[t], []⟩

theorem templates_withType (c : Catalog) (t : ContractType) :
    (c.withType t).templates = c.templates :=
  List.append_nil _

theorem mem_contractTypes_withType {ty : ContractType} :
    ty ∈ (c.withType t).contractTypes ↔ ty ∈ c.contractTypes ∨ ty = t := by
  simp [withType, append]

/-- The type fits into the catalog: its id is not blank and new, it lists no
field twice, its template is there, and its rules and checks agree when that
is demanded. -/
structure Admits (c : Catalog) (strict : Bool) (t : ContractType) : Prop where
  id : Text.isBlankText t.id = false
  new : ∀ ty ∈ c.contractTypes, ty.id ≠ t.id
  fields : (t.requiredFields ++ t.optionalFields).Nodup
  link : ∀ id, t.templateId = some id → ∃ tmpl ∈ c.templates, tmpl.id = id
  coverage : strict = true → (CoverageReport.of t).isClean = true

/-- A further type makes no field unknown. -/
theorem Declares.withType {tmpl : Template} {field : String} (h : c.Declares tmpl field)
    (t : ContractType) : (c.withType t).Declares tmpl field :=
  h.imp_right fun ⟨ty, listed, linked, has⟩ =>
    ⟨ty, mem_contractTypes_withType.2 (.inl listed), linked, has⟩

theorem nodup_ids_withType_iff :
    ((c.withType t).contractTypes.map (·.id)).Nodup ↔
      (c.contractTypes.map (·.id)).Nodup ∧ ∀ ty ∈ c.contractTypes, ty.id ≠ t.id := by
  simp [withType, append, List.nodup_append]

/-- A consistent catalog stays so exactly if the new type fits. -/
theorem consistent_withType_iff (h : c.Consistent strict) :
    (c.withType t).Consistent strict ↔ c.Admits strict t := by
  have listed : t ∈ (c.withType t).contractTypes := mem_contractTypes_withType.2 (.inr rfl)
  constructor
  · intro h'
    exact {
      id := (h'.types t listed).id
      new := (nodup_ids_withType_iff.1 h'.typeIds).2
      fields := (h'.types t listed).fields
      link := by simpa only [templates_withType] using h'.links t listed
      coverage := fun hs => h'.coverage hs t listed }
  · intro admits
    -- What is asked of every type was asked of the old ones, and the new one fits.
    have each {P : ContractType → Prop} (old : ∀ ty ∈ c.contractTypes, P ty) (new : P t) :
        ∀ ty ∈ (c.withType t).contractTypes, P ty := fun ty hty =>
      (mem_contractTypes_withType.1 hty).elim (old ty) fun same => same ▸ new
    exact {
      templates := by simpa only [templates_withType] using h.templates
      templateIds := by simpa only [templates_withType] using h.templateIds
      types := each h.types ⟨admits.id, admits.fields⟩
      typeIds := nodup_ids_withType_iff.2 ⟨h.typeIds, admits.new⟩
      links := by simpa only [templates_withType] using each h.links admits.link
      reads := by
        -- The new type may be linked to any template, which can only help.
        rw [templates_withType]
        exact fun tmpl ht e he field hf => (h.reads tmpl ht e he field hf).withType t
      coverage := fun hs => each (h.coverage hs) (admits.coverage hs) }

theorem types_registry_withType :
    (c.withType t).registry.types = c.registry.types.insert t.id t := by
  simp [registry, withType, append, insertBy]

theorem templates_registry_withType :
    (c.withType t).registry.templates = c.registry.templates := by
  simp only [registry, templates_withType]

theorem process_registry_withType {q : Request} (other : q.typeId ≠ t.id) (s : Settings) :
    (c.withType t).registry.process s q = c.registry.process s q := by
  have type : (c.withType t).registry.types.get? q.typeId = c.registry.types.get? q.typeId := by
    rw [types_registry_withType, get?_insert_other _ t other]
  exact Registry.process_of_lookups type
    (Registry.linkedTemplate_of_lookups type templates_registry_withType) s

/-- **Extending a catalog changes nothing for the others.** A catalog that
builds, with one more type, builds exactly if the type fits in; the registry
then has the new type under its id and the templates as they were, and every
request of another type has the outcome it had, under all settings. -/
theorem build_withType {reg : Registry} (built : c.build strict = .ok reg) :
    ((∃ reg', (c.withType t).build strict = .ok reg') ↔ c.Admits strict t) ∧
      ∀ reg', (c.withType t).build strict = .ok reg' →
        reg'.types = reg.types.insert t.id t ∧ reg'.templates = reg.templates ∧
          ∀ (s : Settings) (q : Request), q.typeId ≠ t.id → reg'.process s q = reg.process s q := by
  obtain ⟨consistent, rfl⟩ := build_eq_ok_iff.1 built
  constructor
  · simp only [build_eq_ok_iff, exists_and_left, exists_eq, and_true,
      consistent_withType_iff consistent]
  · intro reg' built'
    obtain ⟨-, rfl⟩ := build_eq_ok_iff.1 built'
    exact ⟨types_registry_withType, templates_registry_withType,
      fun s q other => process_registry_withType other s⟩

end Catalog

/-- A second type for the letters, which has a badge too. -/
def reminderType : ContractType :=
  { ContractType.new "reminder" "Reminder" "letters" with
    requiredFields := ["badge", "due_date"]
    templateId := some "letter" }

theorem Catalog.build_withType_letters :
    letters.build true = .ok letters.registry ∧ letters.Admits true reminderType ∧
      ∃ reg, (letters.withType reminderType).build true = .ok reg ∧
        ∀ (s : Settings) (r : Record) (wantBlueprint : Bool),
          reg.process s ⟨"notice", r, wantBlueprint⟩ =
            letters.registry.process s ⟨"notice", r, wantBlueprint⟩ := by
  have built : letters.build true = .ok letters.registry := by rfl
  have admits : letters.Admits true reminderType :=
    ⟨by decide, by decide, by decide, by decide, fun _ => by decide⟩
  have other : "notice" ≠ reminderType.id := by decide
  obtain ⟨builds, kept⟩ := build_withType (t := reminderType) built
  obtain ⟨reg, built'⟩ := builds.2 admits
  exact ⟨built, admits, reg, built', fun s r wanted => (kept reg built').2.2 s _ other⟩

end ContractDocs
