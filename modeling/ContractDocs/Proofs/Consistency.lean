/-
Consistency: the catalogs that a registry is built from, said of the lists
alone and not of the order in which they are checked.

`build_eq_ok_iff`: the build succeeds exactly on the consistent catalogs, and
then with one registry. `Consistent.holds`: that registry holds the entries of
the catalog under their ids, and nothing else.
-/
import ContractDocs.Proofs.Index
import ContractDocs.Registry

namespace ContractDocs

open Checks Dict

/-! ## Consistent catalogs -/

/-- A template without a fault of its own. -/
structure Template.Sound (t : Template) : Prop where
  id : Text.isBlankText t.id = false
  fields : (t.requiredFields ++ t.optionalFields).Nodup
  bindings : ∀ e ∈ t.bindings.entries, e.2.problem? = none
  storage : ∀ p, t.storage = some p → ∀ name ∈ p.placeholderNames, t.bindings.contains name = true

/-- A type without a fault of its own. -/
structure ContractType.Sound (t : ContractType) : Prop where
  id : Text.isBlankText t.id = false
  fields : (t.requiredFields ++ t.optionalFields).Nodup

namespace Catalog

/-- The field is one of the template, or of a type that is linked to it. -/
def Declares (c : Catalog) (t : Template) (field : String) : Prop :=
  t.recognizes field = true ∨
    ∃ ty ∈ c.contractTypes, ty.templateId = some t.id ∧ ty.recognizes field = true

/-- Nothing in the catalog stands in the way of a registry. -/
structure Consistent (c : Catalog) (strict : Bool) : Prop where
  templates : ∀ t ∈ c.templates, t.Sound
  templateIds : (c.templates.map (·.id)).Nodup
  types : ∀ t ∈ c.contractTypes, t.Sound
  typeIds : (c.contractTypes.map (·.id)).Nodup
  links : ∀ t ∈ c.contractTypes, ∀ id, t.templateId = some id → ∃ tmpl ∈ c.templates, tmpl.id = id
  reads : ∀ t ∈ c.templates, ∀ e ∈ t.bindings.entries, ∀ field ∈ e.2.fields, c.Declares t field
  coverage : strict = true → ∀ t ∈ c.contractTypes, (CoverageReport.of t).isClean = true

/-- The entries of the catalog under their ids, with the reports of the types. -/
def registry (c : Catalog) : Registry :=
  let types := insertBy (·.id) .empty c.contractTypes
  ⟨types, insertBy (·.id) .empty c.templates, types.values.map CoverageReport.of⟩

/-! ## The checks -/

theorem checkId_eq_ok_iff {kind : EntryKind} {id : String} :
    checkId kind id = .ok () ↔ Text.isBlankText id = false := by
  rw [checkId]
  split <;> simp_all

theorem firstRepeated_eq_none_iff (seen l : List String) :
    firstRepeated seen l = none ↔ l.Nodup ∧ ∀ s ∈ l, s ∉ seen := by
  induction l generalizing seen with
  | nil => simp [firstRepeated]
  | cons s l ih =>
    rw [firstRepeated, List.nodup_cons, List.forall_mem_cons]
    split
    · next h => simp_all
    · next h =>
      rw [ih]
      simp only [List.contains_eq_mem, decide_eq_true_eq] at h
      simp only [List.mem_cons, not_or]
      constructor
      · rintro ⟨hn, hs⟩
        exact ⟨⟨fun hm => (hs s hm).1 rfl, hn⟩, h, fun x hx => (hs x hx).2⟩
      · rintro ⟨⟨hm, hn⟩, -, hs⟩
        exact ⟨hn, fun x hx => ⟨fun he => hm (he ▸ hx), hs x hx⟩⟩

theorem checkFields_eq_ok_iff {owner : String} {required optional : List String} :
    checkFields owner required optional = .ok () ↔ (required ++ optional).Nodup := by
  have h := firstRepeated_eq_none_iff [] (required ++ optional)
  rw [checkFields]
  split <;> simp_all

theorem checkBindings_eq_ok_iff {t : Template} :
    checkBindings t = .ok () ↔ ∀ e ∈ t.bindings.entries, e.2.problem? = none := by
  rw [checkBindings]
  split
  · next name p h =>
    obtain ⟨e, he, hp⟩ := List.exists_of_findSome?_eq_some h
    refine iff_of_false (by simp) fun hall => ?_
    simp [hall e he] at hp
  · next h =>
    rw [List.findSome?_eq_none_iff] at h
    exact iff_of_true rfl fun e he => by simpa using h e he

theorem checkStorage_eq_ok_iff {t : Template} :
    checkStorage t = .ok () ↔
      ∀ p, t.storage = some p → ∀ name ∈ p.placeholderNames, t.bindings.contains name = true := by
  rw [checkStorage]
  cases t.storage with
  | none => simp
  | some p =>
    simp only [Option.some.injEq, forall_eq']
    split
    · next name h =>
      refine iff_of_false (by simp) fun hall => ?_
      have := List.find?_some h
      simp [hall name (List.mem_of_find?_eq_some h)] at this
    · next h =>
      rw [List.find?_eq_none] at h
      exact iff_of_true rfl fun name hn => by simpa using h name hn

theorem checkLink_eq_ok_iff {templates : Dict Template} {t : ContractType} :
    checkLink templates t = .ok () ↔
      ∀ id, t.templateId = some id → templates.contains id = true := by
  rw [checkLink]
  cases t.templateId with
  | none => simp
  | some id =>
    simp only [Option.some.injEq, forall_eq']
    split <;> simp_all

theorem addTemplate_eq_ok_iff (templates : Dict Template) (t : Template)
    (templates' : Dict Template) :
    addTemplate templates t = .ok templates' ↔
      t.Sound ∧ templates.contains t.id = false ∧ templates' = templates.insert t.id t := by
  simp only [addTemplate, check_bind_eq_ok, checkId_eq_ok_iff, checkFields_eq_ok_iff,
    checkBindings_eq_ok_iff, checkStorage_eq_ok_iff, throw_if_eq_ok, pure_eq_ok]
  constructor
  · rintro ⟨hid, hf, hb, hs, hnew⟩
    exact ⟨⟨hid, hf, hb, hs⟩, hnew⟩
  · rintro ⟨⟨hid, hf, hb, hs⟩, hnew⟩
    exact ⟨hid, hf, hb, hs, hnew⟩

theorem addType_eq_ok_iff (templates : Dict Template) (types : Dict ContractType) (t : ContractType)
    (types' : Dict ContractType) :
    addType templates types t = .ok types' ↔
      (t.Sound ∧ ∀ id, t.templateId = some id → templates.contains id = true) ∧
        types.contains t.id = false ∧ types' = types.insert t.id t := by
  simp only [addType, check_bind_eq_ok, checkId_eq_ok_iff, checkFields_eq_ok_iff,
    checkLink_eq_ok_iff, throw_if_eq_ok, pure_eq_ok]
  constructor
  · rintro ⟨hid, hf, hl, hnew⟩
    exact ⟨⟨⟨hid, hf⟩, hl⟩, hnew⟩
  · rintro ⟨⟨⟨hid, hf⟩, hl⟩, hnew⟩
    exact ⟨hid, hf, hl, hnew⟩

theorem checkFieldsKnown_eq_ok_iff {types : Dict ContractType} {t : Template} :
    checkFieldsKnown types t = .ok () ↔
      ∀ e ∈ t.bindings.entries, ∀ field ∈ e.2.fields,
        t.recognizes field = true ∨
          ∃ ty ∈ types.values, ty.templateId = some t.id ∧ ty.recognizes field = true := by
  have known : unknownField? types t = none ↔
      ∀ e ∈ t.bindings.entries, ∀ field ∈ e.2.fields,
        t.recognizes field = true ∨
          ∃ ty ∈ types.values, ty.templateId = some t.id ∧ ty.recognizes field = true := by
    simp only [unknownField?, List.findSome?_eq_none_iff, Option.map_eq_none_iff,
      List.find?_eq_none, linkedTo]
    refine forall₂_congr fun e _ => forall₂_congr fun field _ => ?_
    cases t.recognizes field <;> simp
  rw [checkFieldsKnown, ← known]
  split <;> simp_all

theorem checkCoverage_eq_ok_iff (strict : Bool) (t : ContractType) (report : CoverageReport) :
    checkCoverage strict t = .ok report ↔
      (strict = true → (CoverageReport.of t).isClean = true) ∧ report = CoverageReport.of t := by
  rw [checkCoverage]
  split
  · next h => simp_all
  · next h =>
    rw [Except.ok.injEq, eq_comm]
    refine (and_iff_right fun hs => ?_).symm
    simpa [hs] using h

/-! ## The build -/

theorem build_eq_ok_iff {c : Catalog} {strict : Bool} {reg : Registry} :
    c.build strict = .ok reg ↔ c.Consistent strict ∧ reg = c.registry := by
  simp only [build, bind_eq_ok, pure_eq_ok, forM_eq_ok,
    foldlM_insert_eq_ok addTemplate_eq_ok_iff, foldlM_insert_eq_ok (addType_eq_ok_iff _),
    mapM_eq_ok (checkCoverage_eq_ok_iff strict), checkFieldsKnown_eq_ok_iff]
  constructor
  · rintro ⟨templates, ⟨ht, htn, -, rfl⟩, types, ⟨hy, hyn, -, rfl⟩, -, hk, cov, ⟨hc, rfl⟩, rfl⟩
    have templates := indexes_insertBy htn
    have types := indexes_insertBy hyn
    refine ⟨{
      templates := ht
      templateIds := htn
      types := fun t h => (hy t h).1
      typeIds := hyn
      links := fun t h id hid => templates.contains_iff.1 ((hy t h).2 id hid)
      reads := fun t h e he field hf => ?_
      coverage := fun hs t h => hc t (types.perm.mem_iff.2 h) hs }, rfl⟩
    have := hk t (templates.perm.mem_iff.2 h) e he field hf
    simpa only [types.perm.mem_iff, Declares] using this
  · rintro ⟨h, rfl⟩
    have templates := indexes_insertBy h.templateIds
    have types := indexes_insertBy h.typeIds
    refine ⟨_, ⟨h.templates, h.templateIds, fun _ _ => rfl, rfl⟩,
      _, ⟨fun t ht => ⟨h.types t ht, fun id hid => ?_⟩, h.typeIds, fun _ _ => rfl, rfl⟩,
      ⟨⟩, fun t ht e he field hf => ?_, _, ⟨fun t ht hs => ?_, rfl⟩, rfl⟩
    · exact templates.contains_iff.2 (h.links t ht id hid)
    · simp only [types.perm.mem_iff]
      exact h.reads t (templates.perm.mem_iff.1 ht) e he field hf
    · exact h.coverage hs t (types.perm.mem_iff.1 ht)

end Catalog

/-! ## What the registry holds -/

/-- The registry holds the entries of the catalog under their ids, in the
order of the ids, with the report of every type at its place. -/
structure Registry.Holds (reg : Registry) (c : Catalog) : Prop where
  type_iff : ∀ id t, reg.types.get? id = some t ↔ t ∈ c.contractTypes ∧ t.id = id
  template_iff : ∀ id t, reg.templates.get? id = some t ↔ t ∈ c.templates ∧ t.id = id
  types_perm : reg.types.values.Perm c.contractTypes
  templates_perm : reg.templates.values.Perm c.templates
  types_sorted : reg.types.values.Pairwise fun t t' => t.id < t'.id
  templates_sorted : reg.templates.values.Pairwise fun t t' => t.id < t'.id
  coverage : ∀ i : Nat, reg.coverage[i]? = reg.types.values[i]?.map CoverageReport.of

namespace Catalog

theorem Consistent.holds {c : Catalog} {strict : Bool} (h : c.Consistent strict) :
    c.registry.Holds c :=
  have templates := indexes_insertBy h.templateIds
  have types := indexes_insertBy h.typeIds
  { type_iff := fun _ _ => types.get?_eq_some_iff
    template_iff := fun _ _ => templates.get?_eq_some_iff
    types_perm := types.perm
    templates_perm := templates.perm
    types_sorted := types.values_pairwise
    templates_sorted := templates.values_pairwise
    coverage := fun _ => List.getElem?_map }

theorem holds_of_build {c : Catalog} {strict : Bool} {reg : Registry}
    (h : c.build strict = .ok reg) : reg.Holds c := by
  obtain ⟨hc, rfl⟩ := build_eq_ok_iff.1 h
  exact hc.holds

/-- **The build accepts the consistent catalogs** and no others, and the
registry it gives holds the catalog, with nothing lost, added or changed. -/
theorem build_accepts (c : Catalog) (strict : Bool) :
    ((∃ reg, c.build strict = .ok reg) ↔ c.Consistent strict) ∧
      ∀ reg, c.build strict = .ok reg → reg.Holds c := by
  refine ⟨⟨?_, fun h => ⟨_, build_eq_ok_iff.2 ⟨h, rfl⟩⟩⟩, fun reg => holds_of_build⟩
  rintro ⟨reg, h⟩
  exact (build_eq_ok_iff.1 h).1

end Catalog

end ContractDocs
