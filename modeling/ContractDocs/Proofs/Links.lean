/-
Links: what the look-ups of a registry find, and why they find nothing.

`Registry.linkedTemplate_eq_error_iff`: the three ways for a type to be
without its template. `Registry.linkedTemplate_of_build`: a build leaves two
of them, as the template of every link is there.
-/
import ContractDocs.Proofs.Consistency

namespace ContractDocs.Registry

open Checks

variable {reg : Registry} {typeId : String}

theorem contractType_eq_ok_iff {t : ContractType} :
    reg.contractType typeId = .ok t ↔ reg.types.get? typeId = some t := by
  rw [contractType]
  cases reg.types.get? typeId <;> simp

theorem contractType_eq_error_iff {e : CompileError} :
    reg.contractType typeId = .error e ↔
      reg.types.get? typeId = none ∧ e = .unknownContractType typeId := by
  rw [contractType]
  cases reg.types.get? typeId <;> simp [@eq_comm _ e]

theorem template_eq_ok_iff {id : String} {tmpl : Template} :
    reg.template id = .ok tmpl ↔ reg.templates.get? id = some tmpl := by
  rw [template]
  cases reg.templates.get? id <;> simp

theorem template_eq_error_iff {id : String} {e : CompileError} :
    reg.template id = .error e ↔ reg.templates.get? id = none ∧ e = .templateNotFound id := by
  rw [template]
  cases reg.templates.get? id <;> simp [@eq_comm _ e]

theorem linkedTemplate_eq_ok_iff {tmpl : Template} :
    reg.linkedTemplate typeId = .ok tmpl ↔
      ∃ t id, reg.types.get? typeId = some t ∧ t.templateId = some id ∧
        reg.templates.get? id = some tmpl := by
  simp only [linkedTemplate, bind_eq_ok, contractType_eq_ok_iff]
  refine exists_congr fun t => ?_
  cases t.templateId with
  | none => simp [throw_ne_ok]
  | some id => simp [template_eq_ok_iff]

theorem linkedTemplate_eq_error_iff {e : CompileError} :
    reg.linkedTemplate typeId = .error e ↔
      (reg.types.get? typeId = none ∧ e = .unknownContractType typeId) ∨
      ∃ t, reg.types.get? typeId = some t ∧
        ((t.templateId = none ∧ e = .noTemplateLinked typeId) ∨
          ∃ id, t.templateId = some id ∧ reg.templates.get? id = none ∧
            e = .templateNotFound id) := by
  simp only [linkedTemplate, bind_eq_error, contractType_eq_error_iff, contractType_eq_ok_iff]
  refine or_congr_right (exists_congr fun t => and_congr_right fun _ => ?_)
  cases t.templateId with
  | none => simp [throw_eq_error]
  | some id => simp [template_eq_error_iff]

/-- The build has found the template of every type. -/
theorem linkedTemplate_of_build {c : Catalog} {strict : Bool} (hb : c.build strict = .ok reg)
    {t : ContractType} (ht : reg.types.get? typeId = some t) {id : String}
    (hid : t.templateId = some id) : ∃ tmpl, reg.linkedTemplate typeId = .ok tmpl := by
  have holds := Catalog.holds_of_build hb
  have consistent := (Catalog.build_eq_ok_iff.1 hb).1
  obtain ⟨tmpl, hm, htmpl⟩ := consistent.links t ((holds.type_iff _ _).1 ht).1 id hid
  have found := (holds.template_iff id tmpl).2 ⟨hm, htmpl⟩
  exact ⟨tmpl, linkedTemplate_eq_ok_iff.2 ⟨t, id, ht, hid, found⟩⟩

end ContractDocs.Registry
