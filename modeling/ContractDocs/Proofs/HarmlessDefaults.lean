/-
Harmless defaults: when the defaults of a type reject no record.

A default only stands in for a field that the record lacks. So it can take away
a line about a required field, and what a rule finds of it the rule finds of
the defaults alone, taken for a record. The dates are apart: some rules read
both of them, and a default beside a date of the record could break what
neither of them breaks alone.

`ContractType.HarmlessDefaults.errors_sublist`: defaults without dates that no
rule rejects add no error to any record.
-/
import ContractDocs.Proofs.Defaults
import ContractDocs.Proofs.Locality

namespace ContractDocs

open Catalog.Builtin

/-- An error is about one field or about the two dates, unless the type is not known. -/
theorem Finding.fields_of_rejects {f : Finding} (rejects : f.rejects = true) :
    f.fields = [] ∨ (∃ field, f.fields = [field]) ∨
      f.fields = ContractType.dateFields.map Field.name := by
  cases f with
  | salaryDisallowed | belowMinimumWage | remoteWorkDisallowed => cases rejects
  | unknownType => exact .inl rfl
  | endNotAfterStart | tooLong | tooShort => exact .inr (.inr rfl)
  | missing | notADate | notANumber | tooManyHours | probationDisallowed | probationTooLong
  | noticeTooShort | noticeTooLong => exact .inr (.inl ⟨_, rfl⟩)

/-- Findings in the order of their rules that are all among others are so in the same order. -/
theorem InOrder.sublist {l m n k : Nat} {fs gs : List Finding} (hf : InOrder l m fs)
    (hg : InOrder n k gs) (subset : fs ⊆ gs) : fs.Sublist gs := by
  have : Std.Antisymm fun f g : Finding => f.place < g.place :=
    ⟨fun f g hfg hgf => absurd hgf hfg.asymm⟩
  have distinct : fs.Nodup :=
    hf.sorted.imp fun hlt same => hlt.ne (congrArg Finding.place same)
  exact List.sublist_of_subperm_of_pairwise (List.subperm_of_subset distinct subset) hf.sorted
    hg.sorted

namespace ContractType

variable {t : ContractType} {rules : DateRules} {r r' : Record}

/-- Taken for a record, the defaults have no dates, and no rule rejects them; which required fields
they leave out does not count. -/
structure HarmlessDefaults (t : ContractType) : Prop where
  undated : ∀ f ∈ dateFields, Record.present? t.defaults f.name = none
  harmless : ∀ rules, Harmless (t.otherFindings rules t.defaults)

/-- Whether a finding is made depends on the fields that it is about. -/
theorem mem_otherFindings_congr {f : Finding} (agree : r.AgreeOn (· ∈ f.fields) r')
    (found : f ∈ t.otherFindings rules r) : f ∈ t.otherFindings rules r' := by
  have alike : AlikeOn (f.fields.contains ·) (t.otherFindings rules r) (t.otherFindings rules r') :=
    alikeOn_otherFindings fun field h => agree field (List.contains_iff_mem.1 h)
  have own : f ∈ (t.otherFindings rules r).filter (·.fields.all (f.fields.contains ·)) :=
    List.mem_filter.2 ⟨found, by simp⟩
  rw [AlikeOn] at alike
  rw [alike] at own
  exact List.mem_of_mem_filter own

/-- Where there are no dates, it makes no difference how dates are read. -/
theorem otherFindings_of_undated (undated : ∀ f ∈ dateFields, r.present? f.name = none)
    (rules rules' : DateRules) : t.otherFindings rules r = t.otherFindings rules' r := by
  have none (rules : DateRules) : t.dateFindings rules r = [] := by
    simp only [dateFindings, Record.date, undated .startDate (by decide),
      undated .endDate (by decide)]
    rfl
  rw [otherFindings, otherFindings, none, none]

namespace HarmlessDefaults

/-- A filled record agrees with the record or with the defaults on all that an error is about. -/
theorem agreeOn_filled (h : t.HarmlessDefaults) {f : Finding} (rejects : f.rejects = true)
    (r : Record) : (t.applyDefaults r).1.AgreeOn (· ∈ f.fields) r ∨
      (t.applyDefaults r).1.AgreeOn (· ∈ f.fields) t.defaults := by
  have shown (field : String) : (t.applyDefaults r).1.present? field =
      (r.present? field).or (Record.present? t.defaults field) := t.present?_filled r field
  rcases Finding.fields_of_rejects rejects with fields | ⟨field, fields⟩ | fields
  · exact .inl fun field hf => by simp [fields] at hf
  · cases own : r.present? field with
    | some v =>
      refine .inl fun other hother => ?_
      rw [fields, List.mem_singleton] at hother
      rw [hother, shown, own, Option.some_or]
    | none =>
      refine .inr fun other hother => ?_
      rw [fields, List.mem_singleton] at hother
      rw [hother, shown, own, Option.none_or]
  · refine .inl fun date hdate => ?_
    rw [fields] at hdate
    obtain ⟨f, hf, rfl⟩ := List.mem_map.1 hdate
    rw [shown, h.undated f hf, Option.or_none]

/-- What is rejected in a filled record is rejected in the record. -/
theorem mem_otherFindings (h : t.HarmlessDefaults) {f : Finding} (rejects : f.rejects = true)
    (found : f ∈ t.otherFindings rules (t.applyDefaults r).1) : f ∈ t.otherFindings rules r := by
  rcases h.agreeOn_filled rejects r with agree | agree
  · exact mem_otherFindings_congr agree found
  · have warning := h.harmless rules f (mem_otherFindings_congr agree found)
    rw [Finding.rejects, warning] at rejects
    cases rejects

/-- The errors of a filled record are some of those of the record, in their order. -/
theorem errors_sublist (h : t.HarmlessDefaults) (rules : DateRules) (r : Record) :
    (t.validate rules (t.applyDefaults r).1).errors.Sublist (t.validate rules r).errors := by
  rw [errors_eq, errors_eq]
  refine .append (.map _ (List.monotone_filter_right _ fun field => ?_)) ?_
  · -- A field that is still missing was missing before.
    rw [t.present?_filled]
    cases r.present? field <;> simp
  · refine ((t.inOrder_otherFindings rules _).filter _).sublist
      ((t.inOrder_otherFindings rules r).filter _) fun f hf => ?_
    obtain ⟨found, rejects⟩ := List.mem_filter.1 hf
    exact List.mem_filter.2 ⟨h.mem_otherFindings rejects found, rejects⟩

end HarmlessDefaults

/-- The defaults of the built-in types are within the limits of their types. -/
theorem harmlessDefaults_builtin (builtin : t ∈ Catalog.builtin.contractTypes) :
    t.HarmlessDefaults := by
  have checked : ∀ t ∈ contractTypes,
      (∀ f ∈ dateFields, Record.present? t.defaults f.name = none) ∧
        ∀ f ∈ t.otherFindings Settings.standard.dateRules t.defaults, f.isWarning = true := by
    decide +kernel
  obtain ⟨undated, harmless⟩ := checked t builtin
  refine ⟨undated, fun rules => ?_⟩
  rwa [otherFindings_of_undated undated rules Settings.standard.dateRules]

/-- **The built-in defaults reject nothing.** Whatever is found against a record
of a built-in type once its defaults are filled in was found before, in the
same order, however dates are read and months are counted. So a record that is
valid as it is given stays valid. -/
theorem builtin_defaults_reject_nothing (builtin : t ∈ Catalog.builtin.contractTypes)
    (rules : DateRules) (r : Record) :
    (t.validate rules (t.applyDefaults r).1).errors.Sublist (t.validate rules r).errors ∧
      ((t.validate rules r).isValid = true →
        (t.validate rules (t.applyDefaults r).1).isValid = true) := by
  have sublist := (harmlessDefaults_builtin builtin).errors_sublist rules r
  refine ⟨sublist, fun valid => ?_⟩
  rw [Validation.isValid, List.isEmpty_iff] at valid ⊢
  rwa [valid, List.sublist_nil] at sublist

/-- Employment with the currency left open, and with too many hours. -/
def longHours : Record := openCurrency.insert Field.weeklyHours.name (.int 60)

/-- The currency is filled in and no longer missing; the hours are the record's own. -/
theorem builtin_defaults_reject_nothing_longHours :
    unlimitedType ∈ Catalog.builtin.contractTypes ∧
      (unlimitedType.validate Settings.standard.dateRules longHours).errors =
        [.missing "currency" unlimitedType.name, .tooManyHours 60 48 unlimitedType.name] ∧
      (unlimitedType.validate Settings.standard.dateRules
          (unlimitedType.applyDefaults longHours).1).errors =
        [.tooManyHours 60 48 unlimitedType.name] ∧
      (unlimitedType.validate Settings.standard.dateRules
          (unlimitedType.applyDefaults longHours).1).errors.Sublist
        (unlimitedType.validate Settings.standard.dateRules longHours).errors :=
  have builtin : unlimitedType ∈ Catalog.builtin.contractTypes := List.mem_cons_self
  ⟨builtin, by decide +kernel, by decide +kernel,
    (builtin_defaults_reject_nothing builtin Settings.standard.dateRules longHours).1⟩

end ContractType

end ContractDocs
