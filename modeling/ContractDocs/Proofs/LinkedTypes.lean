/-
Linked types: the look-ups of a built registry say the same of a type and its
template, whether one asks for the template of the type, for the types of the
template, or for the types that have one.

They go through two dictionaries by different ways. What makes them agree is
that a build keeps every entry under its own id (`Catalog.holds_of_build`) and
leaves no link without its template. So the lists of the templates have no type
in common and leave out none that has a template (`flatMap_typesLinkedTo_perm`).
-/
import Mathlib.Data.List.Nodup
import ContractDocs.Proofs.Links

namespace ContractDocs

namespace Registry

open Dict

variable {c : Catalog} {strict : Bool} {reg : Registry} {typeId : String} {t : ContractType}

/-! ## Lists -/

theorem mem_typesWithTemplates_iff :
    t ∈ reg.typesWithTemplates ↔ t ∈ reg.types.values ∧ ∃ id, t.templateId = some id := by
  simp [typesWithTemplates, Option.isSome_iff_exists]

theorem mem_typesLinkedTo_iff {id : String} :
    t ∈ reg.typesLinkedTo id ↔ t ∈ reg.types.values ∧ t.templateId = some id := by
  simp [typesLinkedTo, Catalog.linkedTo]

/-- A type is found under its id and no other. -/
theorem get?_types_iff (hb : c.build strict = .ok reg) :
    reg.types.get? typeId = some t ↔ t ∈ reg.types.values ∧ t.id = typeId := by
  have holds := Catalog.holds_of_build hb
  rw [holds.type_iff, holds.types_perm.mem_iff]

/-- A template is found under its id and no other. -/
theorem get?_templates_iff (hb : c.build strict = .ok reg) {id : String} {tmpl : Template} :
    reg.templates.get? id = some tmpl ↔ tmpl ∈ reg.templates.values ∧ tmpl.id = id := by
  have holds := Catalog.holds_of_build hb
  rw [holds.template_iff, holds.templates_perm.mem_iff]

theorem get?_types_eq_none_iff (hb : c.build strict = .ok reg) :
    reg.types.get? typeId = none ↔ ∀ t ∈ reg.types.values, t.id ≠ typeId := by
  simp only [Option.eq_none_iff_forall_ne_some, ne_eq, get?_types_iff hb, not_and]

/-- Every link leads to a template. -/
theorem exists_template (hb : c.build strict = .ok reg) (ht : t ∈ reg.types.values) {id : String}
    (hid : t.templateId = some id) : ∃ tmpl ∈ reg.templates.values, tmpl.id = id := by
  have holds := Catalog.holds_of_build hb
  obtain ⟨tmpl, mem, same⟩ :=
    (Catalog.build_eq_ok_iff.1 hb).1.links t (holds.types_perm.mem_iff.1 ht) id hid
  exact ⟨tmpl, holds.templates_perm.mem_iff.2 mem, same⟩

theorem nodup_ids_types (hb : c.build strict = .ok reg) : (reg.types.values.map (·.id)).Nodup := by
  rw [List.Nodup, List.pairwise_map]
  exact (Catalog.holds_of_build hb).types_sorted.imp String.ne_of_lt

/-! ## The template of a type -/

/-- A type has a template exactly when it is one of the types of this template. -/
theorem linkedTemplate_eq_ok_iff_linked (hb : c.build strict = .ok reg) {tmpl : Template} :
    reg.linkedTemplate typeId = .ok tmpl ↔
      tmpl ∈ reg.templates.values ∧ ∃ t ∈ reg.typesLinkedTo tmpl.id, t.id = typeId := by
  simp only [linkedTemplate_eq_ok_iff, get?_types_iff hb, get?_templates_iff hb,
    mem_typesLinkedTo_iff]
  constructor
  · rintro ⟨t, _, ⟨ht, named⟩, hid, htmpl, rfl⟩
    exact ⟨htmpl, t, ⟨ht, hid⟩, named⟩
  · rintro ⟨htmpl, t, ⟨ht, hid⟩, named⟩
    exact ⟨t, tmpl.id, ⟨ht, named⟩, hid, htmpl, rfl⟩

theorem linkedTemplate_eq_unknown_iff (hb : c.build strict = .ok reg) :
    reg.linkedTemplate typeId = .error (.unknownContractType typeId) ↔
      ∀ t ∈ reg.types.values, t.id ≠ typeId := by
  rw [linkedTemplate_eq_error_iff, ← get?_types_eq_none_iff hb]
  simp

theorem linkedTemplate_eq_noTemplate_iff (hb : c.build strict = .ok reg) :
    reg.linkedTemplate typeId = .error (.noTemplateLinked typeId) ↔
      ∃ t ∈ reg.types.values, t.id = typeId ∧ t.templateId = none := by
  simp only [linkedTemplate_eq_error_iff, get?_types_iff hb]
  simp [and_assoc]

/-- A look-up never ends at a template that is not there. -/
theorem error_of_linkedTemplate (hb : c.build strict = .ok reg) {e : CompileError}
    (h : reg.linkedTemplate typeId = .error e) :
    e = .unknownContractType typeId ∨ e = .noTemplateLinked typeId := by
  rcases linkedTemplate_eq_error_iff.1 h with ⟨-, rfl⟩ | ⟨t, ht, ⟨-, rfl⟩ | ⟨id, hid, missing, -⟩⟩
  · exact .inl rfl
  · exact .inr rfl
  · obtain ⟨tmpl, mem, same⟩ := exists_template hb ((get?_types_iff hb).1 ht).1 hid
    rw [(get?_templates_iff hb).2 ⟨mem, same⟩] at missing
    cases missing

/-- Types with one id are one type. -/
theorem eq_of_id (hb : c.build strict = .ok reg) {t' : ContractType} (ht : t ∈ reg.types.values)
    (ht' : t' ∈ reg.types.values) (same : t.id = t'.id) : t = t' :=
  Option.some.inj (((get?_types_iff hb).2 ⟨ht, same⟩).symm.trans ((get?_types_iff hb).2 ⟨ht', rfl⟩))

/-! ## The types of the templates -/

/-- **The templates share out the types that have one.** -/
theorem flatMap_typesLinkedTo_perm (hb : c.build strict = .ok reg) :
    (reg.templates.values.flatMap fun tmpl => reg.typesLinkedTo tmpl.id).Perm
      reg.typesWithTemplates := by
  have nodup : reg.types.values.Nodup := (nodup_ids_types hb).of_map
  have whole : reg.typesWithTemplates.Nodup := nodup.filter _
  have parts : (reg.templates.values.flatMap fun tmpl => reg.typesLinkedTo tmpl.id).Nodup := by
    rw [List.nodup_flatMap]
    refine ⟨fun tmpl _ => nodup.filter _, ?_⟩
    refine (Catalog.holds_of_build hb).templates_sorted.imp fun {tmpl tmpl'} lt t ht ht' => ?_
    rw [mem_typesLinkedTo_iff] at ht ht'
    have same := Option.some.inj (ht.2.symm.trans ht'.2)
    exact String.lt_irrefl _ (same ▸ lt)
  refine (List.perm_ext_iff_of_nodup parts whole).2 fun t => ?_
  rw [List.mem_flatMap, mem_typesWithTemplates_iff]
  simp only [mem_typesLinkedTo_iff]
  constructor
  · rintro ⟨tmpl, -, ht, hid⟩
    exact ⟨ht, tmpl.id, hid⟩
  · rintro ⟨ht, id, hid⟩
    obtain ⟨tmpl, mem, rfl⟩ := exists_template hb ht hid
    exact ⟨tmpl, mem, ht, hid⟩

/-- **The look-ups of a built registry agree.** There is no template for an id
that no type has, and none for a type outside the types with templates; every
other type has a template of the registry, and is one of the types of this
template. No other error comes up. The types of the templates, one template
after the other, are the types with templates, each of them once. -/
theorem lookups_agree (hb : c.build strict = .ok reg) :
    (∀ typeId,
      (reg.linkedTemplate typeId = .error (.unknownContractType typeId) ↔
        ∀ t ∈ reg.types.values, t.id ≠ typeId) ∧
      (reg.linkedTemplate typeId = .error (.noTemplateLinked typeId) ↔
        (∃ t ∈ reg.types.values, t.id = typeId) ∧ ∀ t ∈ reg.typesWithTemplates, t.id ≠ typeId) ∧
      ((∃ t ∈ reg.typesWithTemplates, t.id = typeId) ↔
        ∃ tmpl, reg.linkedTemplate typeId = .ok tmpl) ∧
      (∀ tmpl, reg.linkedTemplate typeId = .ok tmpl ↔
        tmpl ∈ reg.templates.values ∧ ∃ t ∈ reg.typesLinkedTo tmpl.id, t.id = typeId) ∧
      ∀ e, reg.linkedTemplate typeId = .error e →
        e = .unknownContractType typeId ∨ e = .noTemplateLinked typeId) ∧
    (reg.templates.values.flatMap fun tmpl => reg.typesLinkedTo tmpl.id).Perm
      reg.typesWithTemplates ∧
    (reg.typesWithTemplates.map (·.id)).Nodup := by
  refine ⟨fun typeId => ⟨linkedTemplate_eq_unknown_iff hb, ?_, ?_,
    fun tmpl => linkedTemplate_eq_ok_iff_linked hb, fun e => error_of_linkedTemplate hb⟩,
    flatMap_typesLinkedTo_perm hb, ?_⟩
  · rw [linkedTemplate_eq_noTemplate_iff hb]
    constructor
    · rintro ⟨t, ht, named, unlinked⟩
      refine ⟨⟨t, ht, named⟩, fun t' ht' named' => ?_⟩
      obtain ⟨ht', id, hid⟩ := mem_typesWithTemplates_iff.1 ht'
      obtain rfl := eq_of_id hb ht ht' (named.trans named'.symm)
      rw [unlinked] at hid
      cases hid
    · rintro ⟨⟨t, ht, named⟩, others⟩
      refine ⟨t, ht, named, ?_⟩
      cases hid : t.templateId with
      | none => rfl
      | some id => exact absurd named (others t (mem_typesWithTemplates_iff.2 ⟨ht, id, hid⟩))
  · simp only [linkedTemplate_eq_ok_iff_linked hb]
    constructor
    · rintro ⟨t, ht, named⟩
      obtain ⟨tmpl, htmpl, mem⟩ := List.mem_flatMap.1 ((flatMap_typesLinkedTo_perm hb).mem_iff.2 ht)
      exact ⟨tmpl, htmpl, t, mem, named⟩
    · rintro ⟨tmpl, htmpl, t, mem, named⟩
      have shared := (flatMap_typesLinkedTo_perm hb).mem_iff (a := t)
      exact ⟨t, shared.1 (List.mem_flatMap.2 ⟨tmpl, htmpl, mem⟩), named⟩
  · exact (nodup_ids_types hb).sublist (List.filter_sublist.map _)

end Registry

/-- Two types with one template, a type without, and a template without types. -/
def correspondence : Catalog where
  contractTypes :=
    [{ ContractType.new "notice" "Notice" "letters" with templateId := some "letter" },
      ContractType.new "memo" "Memo" "internal",
      { ContractType.new "reminder" "Reminder" "letters" with templateId := some "letter" }]
  templates :=
    [Template.new "letter" "Letter" "letters" "ref-1", Template.new "card" "Card" "letters" "ref-2"]

theorem Registry.lookups_agree_correspondence :
    correspondence.build true = .ok correspondence.registry ∧
      (∃ tmpl, correspondence.registry.linkedTemplate "reminder" = .ok tmpl) ∧
      correspondence.registry.linkedTemplate "memo" = .error (.noTemplateLinked "memo") ∧
      (correspondence.registry.typesLinkedTo "card" ++
          correspondence.registry.typesLinkedTo "letter").Perm
        correspondence.registry.typesWithTemplates ∧
      correspondence.registry.typesWithTemplates.map (·.id) = ["notice", "reminder"] := by
  have built : correspondence.build true = .ok correspondence.registry := by rfl
  obtain ⟨typed, shared, -⟩ := Registry.lookups_agree built
  exact ⟨built, (typed "reminder").2.2.1.1 ⟨_, .tail _ (.head _), rfl⟩,
    (typed "memo").2.1.2 ⟨⟨_, .head _, rfl⟩, by decide⟩, shared, rfl⟩

end ContractDocs
