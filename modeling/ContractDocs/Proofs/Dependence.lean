/-
Dependence: which fields of a record an outcome depends on. A field is never
looked at but for what it provides, a value that is not blank or nothing, so
two records that provide the same for the fields that are read come to the
same.

`Registry.Reads` says which fields are read: those that the validation knows
by name, those that the type requires or has defaults for, and those that the
bindings of its template read. `Registry.process_congr`: no other field makes
a difference.
-/
import Mathlib.Data.List.Basic
import Mathlib.Data.List.Find
import ContractDocs.Outcome

namespace ContractDocs

/-- The records provide the same for each of the fields. -/
def Record.AgreeOn (fields : String → Prop) (r r' : Record) : Prop :=
  ∀ field, fields field → r.present? field = r'.present? field

variable {r r' : Record}

/-! ## Defaults -/

theorem Record.present?_insert_self (r : Record) (field : String) (v : Json) :
    present? (r.insert field v) field = (some v).filter fun v => !v.isBlank := by
  rw [present?, Dict.get?_insert_self]

theorem Record.present?_insert_other (r : Record) {field other : String} (v : Json)
    (h : other ≠ field) : present? (r.insert field v) other = r.present? other := by
  rw [present?, Dict.get?_insert_other r v h, present?]

theorem Record.AgreeOn.insert {fields : String → Prop} (h : r.AgreeOn fields r') (field : String)
    (v : Json) : AgreeOn fields (r.insert field v) (r'.insert field v) := by
  intro other hother
  by_cases same : other = field
  · subst same
    rw [present?_insert_self, present?_insert_self]
  · rw [present?_insert_other r v same, present?_insert_other r' v same]
    exact h other hother

namespace ContractType

/-- Records that agree on a field with a default get it both or neither. -/
theorem fillField_congr {fields : String → Prop} {a b : Record × List String}
    (agree : a.1.AgreeOn fields b.1) (names : a.2 = b.2) {e : String × Json} (he : fields e.1) :
    (fillField a e).1.AgreeOn fields (fillField b e).1 ∧ (fillField a e).2 = (fillField b e).2 := by
  simp only [fillField, agree e.1 he, names]
  split
  · exact ⟨agree, rfl⟩
  · exact ⟨agree.insert e.1 e.2, rfl⟩

theorem foldl_fillField_congr {fields : String → Prop} {es : List (String × Json)}
    (hes : ∀ e ∈ es, fields e.1) {a b : Record × List String} (agree : a.1.AgreeOn fields b.1)
    (names : a.2 = b.2) :
    (es.foldl fillField a).1.AgreeOn fields (es.foldl fillField b).1 ∧
      (es.foldl fillField a).2 = (es.foldl fillField b).2 := by
  induction es generalizing a b with
  | nil => exact ⟨agree, names⟩
  | cons e es ih =>
    rw [List.forall_mem_cons] at hes
    obtain ⟨agree', names'⟩ := fillField_congr agree names hes.1
    exact ih hes.2 agree' names'

/-! ## Validation -/

theorem requiredFindings_congr {t : ContractType}
    (required : ∀ field ∈ t.requiredFields, r.present? field = r'.present? field) :
    t.requiredFindings r = t.requiredFindings r' := by
  simp only [requiredFindings]
  congr 1
  exact List.filter_congr fun field hf => by rw [required field hf]

theorem numberFindings_congr {f : Field} (own : r.present? f.name = r'.present? f.name)
    (rules : Float → List Finding) : numberFindings r f rules = numberFindings r' f rules := by
  rw [numberFindings, numberFindings, Record.quantity, Record.quantity, own]

theorem dateFindings_congr {t : ContractType} {rules : DateRules}
    (start : r.present? Field.startDate.name = r'.present? Field.startDate.name)
    (stop : r.present? Field.endDate.name = r'.present? Field.endDate.name) :
    t.dateFindings rules r = t.dateFindings rules r' := by
  simp only [dateFindings, Record.date, start, stop]

theorem salaryFindings_congr {t : ContractType}
    (salary : r.present? Field.salary.name = r'.present? Field.salary.name)
    (currency : r.present? Field.currency.name = r'.present? Field.currency.name) :
    t.salaryFindings r = t.salaryFindings r' := by
  rw [salaryFindings, salaryFindings, Record.field?, Record.field?, currency,
    numberFindings_congr salary]

theorem remoteWorkFindings_congr {t : ContractType}
    (place : r.present? Field.workLocation.name = r'.present? Field.workLocation.name) :
    t.remoteWorkFindings r = t.remoteWorkFindings r' := by
  rw [remoteWorkFindings, remoteWorkFindings, Record.field?, Record.field?, place]

/-- The validation reads the required fields and those that it knows by name. -/
theorem validate_congr {t : ContractType} {rules : DateRules}
    (required : ∀ field ∈ t.requiredFields, r.present? field = r'.present? field)
    (own : ∀ f : Field, r.present? f.name = r'.present? f.name) :
    t.validate rules r = t.validate rules r' := by
  simp only [validate, requiredFindings_congr required, dateFindings_congr (own _) (own _),
    salaryFindings_congr (own _) (own _), remoteWorkFindings_congr (own _), hoursFindings,
    probationFindings, noticeFindings, numberFindings_congr (own _)]

end ContractType

/-! ## Variables -/

theorem Source.read?_congr {source : Source}
    (h : ∀ field ∈ source.fields, r.present? field = r'.present? field) :
    source.read? r = source.read? r' := by
  cases source with
  | field name => exact h name (List.mem_singleton_self _)
  | concat fields separator =>
    have same : fields.filterMap r.present? = fields.filterMap r'.present? :=
      List.filterMap_congr h
    rw [read?, read?, same]

theorem Binding.evaluate_congr {b : Binding} {formats : DateFormats}
    (h : ∀ field ∈ b.fields, r.present? field = r'.present? field) :
    b.evaluate formats r = b.evaluate formats r' := by
  rw [evaluate, evaluate, Source.read?_congr h]

namespace Template

theorem lackedField?_congr {t : Template} {b : Binding}
    (h : ∀ field ∈ b.fields, r.present? field = r'.present? field) :
    t.lackedField? r b = t.lackedField? r' b :=
  List.find?_congr fun field hf => by rw [h field hf]

theorem bindVariable_congr {t : Template} {formats : DateFormats} {e : String × Binding}
    (h : ∀ field ∈ e.2.fields, r.present? field = r'.present? field) (bound : Variables) :
    t.bindVariable formats r bound e = t.bindVariable formats r' bound e := by
  simp only [bindVariable, variableValue, lackedField?_congr h, Binding.evaluate_congr h]

theorem foldlM_bindVariable_congr {t : Template} {formats : DateFormats}
    {es : List (String × Binding)}
    (h : ∀ e ∈ es, ∀ field ∈ e.2.fields, r.present? field = r'.present? field) (bound : Variables) :
    es.foldlM (t.bindVariable formats r) bound = es.foldlM (t.bindVariable formats r') bound := by
  induction es generalizing bound with
  | nil => rfl
  | cons e es ih =>
    rw [List.forall_mem_cons] at h
    simp only [List.foldlM_cons, bindVariable_congr h.1, ih h.2]

/-- The variables depend on the fields that are bound. -/
theorem bind_congr {t : Template} {formats : DateFormats}
    (h : ∀ e ∈ t.bindings.entries, ∀ field ∈ e.2.fields, r.present? field = r'.present? field) :
    t.bind formats r = t.bind formats r' :=
  foldlM_bindVariable_congr h .empty

end Template

namespace Registry

variable {reg : Registry}

/-- The payload depends on the fields that are bound. -/
theorem payload_congr {formats : DateFormats} {typeId : String}
    (h : ∀ t, reg.linkedTemplate typeId = .ok t → ∀ e ∈ t.bindings.entries, ∀ field ∈ e.2.fields,
      r.present? field = r'.present? field) :
    reg.payload formats typeId r = reg.payload formats typeId r' := by
  rw [payload, payload]
  cases linked : reg.linkedTemplate typeId with
  | error e => rfl
  | ok t =>
    show t.payload formats typeId r = t.payload formats typeId r'
    rw [Template.payload, Template.payload, Template.bind_congr (h t linked)]

/-- The field is one that a request of the type reads. -/
inductive Reads (reg : Registry) (typeId field : String) : Prop
  /-- The validation knows it by name. -/
  | validated (f : Field) (name : f.name = field)
  | required {t : ContractType} (type : reg.types.get? typeId = some t)
    (required : field ∈ t.requiredFields)
  | defaulted {t : ContractType} {v : Json} (type : reg.types.get? typeId = some t)
    (default : t.defaults.get? field = some v)
  | bound {t : Template} {name : String} {b : Binding} (linked : reg.linkedTemplate typeId = .ok t)
    (bound : t.bindings.get? name = some b) (reads : field ∈ b.fields)

theorem complete_congr {s : Settings} {typeId : String} (h : r.AgreeOn (reg.Reads typeId) r') :
    (reg.complete s typeId r).1.AgreeOn (reg.Reads typeId) (reg.complete s typeId r').1 ∧
      (reg.complete s typeId r).2 = (reg.complete s typeId r').2 := by
  simp only [complete]
  cases type : reg.types.get? typeId with
  | none => exact ⟨h, rfl⟩
  | some t =>
    dsimp only
    split
    · exact ContractType.foldl_fillField_congr
        (fun e he => .defaulted type (Dict.get?_eq_some_iff.2 he)) h rfl
    · exact ⟨h, rfl⟩

theorem validate_congr {rules : DateRules} {typeId : String}
    (h : r.AgreeOn (reg.Reads typeId) r') :
    reg.validate rules typeId r = reg.validate rules typeId r' := by
  rw [validate, validate]
  cases type : reg.types.get? typeId with
  | none => rfl
  | some t =>
    exact ContractType.validate_congr (fun field hf => h field (.required type hf))
      fun f => h f.name (.validated f rfl)

/-- **An outcome depends on the fields that are read** and on no others. -/
theorem process_congr {s : Settings} {q : Request} (h : q.record.AgreeOn (reg.Reads q.typeId) r') :
    reg.process s q = reg.process s { q with record := r' } := by
  obtain ⟨agree, names⟩ := complete_congr (s := s) h
  have validation : reg.validate s.dateRules q.typeId (reg.complete s q.typeId q.record).1 =
      reg.validate s.dateRules q.typeId (reg.complete s q.typeId r').1 := validate_congr agree
  have payload : reg.payload s.dateFormats q.typeId (reg.complete s q.typeId q.record).1 =
      reg.payload s.dateFormats q.typeId (reg.complete s q.typeId r').1 :=
    payload_congr fun t linked e he field hf =>
      agree field (.bound linked (Dict.get?_eq_some_iff.2 he) hf)
  simp only [process, names, validation, payloadIfValid, payload]

end Registry

end ContractDocs
