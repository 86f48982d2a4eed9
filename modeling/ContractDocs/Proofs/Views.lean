/-
Views: what a record shows. A field that is missing, null or a text of white
space alone shows nothing, whichever of the three it is; and a payload is made
of what the record shows in the fields that the template binds.

`Registry.process_of_alike`: records that show the same come to the same.
`Registry.payload_of_boundFields`: nothing that a record shows elsewhere gets
into a payload. Honestly told, the work is done stage by stage in
`Dependence`; here its condition is said of the stored values and of the
template, and the fields that do not count are taken out.
-/
import ContractDocs.Catalog.Builtin
import ContractDocs.Catalog.Samples
import ContractDocs.Proofs.Compilation
import ContractDocs.Proofs.Dependence

namespace ContractDocs

/-! ## Fields that show nothing -/

theorem Json.isBlank_eq_true_iff {v : Json} :
    v.isBlank = true ↔
      v = .null ∨ ∃ s, v = .string s ∧ ∀ c ∈ s.toList, Text.isBlank c = true := by
  cases v with
  | string s => simp [isBlank, Text.isBlankText]
  | null | bool | number | array | object => simp [isBlank]

namespace Record

/-- The field is missing, null, or a text of white space alone. -/
def Lacks (r : Record) (field : String) : Prop :=
  ∀ v, r.get? field = some v →
    v = .null ∨ ∃ s, v = .string s ∧ ∀ c ∈ s.toList, Text.isBlank c = true

/-- The records both lack the field, or have the same value there. -/
def AlikeAt (r r' : Record) (field : String) : Prop :=
  (r.Lacks field ∧ r'.Lacks field) ∨ ∃ v, r.get? field = some v ∧ r'.get? field = some v

theorem lacks_iff {r : Record} {field : String} : r.Lacks field ↔ r.present? field = none := by
  simp only [Lacks, ← Json.isBlank_eq_true_iff, present?, Option.filter_eq_none_iff,
    Bool.not_eq_true', Bool.not_eq_false]

theorem alikeAt_iff {r r' : Record} {field : String} :
    r.AlikeAt r' field ↔ r.present? field = r'.present? field := by
  constructor
  · rintro (⟨lacks, lacks'⟩ | ⟨v, there, there'⟩)
    · rw [lacks_iff.1 lacks, lacks_iff.1 lacks']
    · rw [present?, present?, there, there']
  · intro same
    cases shown : r.present? field with
    | none => exact .inl ⟨lacks_iff.2 shown, lacks_iff.2 (same ▸ shown)⟩
    | some v =>
      have shown' : r'.present? field = some v := same ▸ shown
      exact .inr ⟨v, (present?_eq_some_iff.1 shown).1, (present?_eq_some_iff.1 shown').1⟩

/-- To put in a blank value is to leave the field out. -/
theorem alikeAt_insert_erase (r : Record) (field : String) {v : Json} (blank : v.isBlank = true)
    (other : String) : AlikeAt (r.insert field v) (r.erase field) other := by
  rw [alikeAt_iff]
  by_cases same : other = field
  · subst same
    rw [present?_insert_self, present?, Dict.get?_erase_self]
    simp [blank]
  · rw [present?_insert_other r v same, present?, present?, Dict.get?_erase_other r same]

/-- The record with nothing but the fields of the list, and of these what is not blank. -/
def view (r : Record) (fields : List String) : Record :=
  ⟨r.entries.filter fun e => fields.contains e.1 && !e.2.isBlank, r.ordered.filter _⟩

theorem present?_view (r : Record) {fields : List String} {field : String} (h : field ∈ fields) :
    (r.view fields).present? field = r.present? field := by
  ext v
  simp only [present?_eq_some_iff, Dict.get?_eq_some_iff, view, List.mem_filter]
  constructor
  · rintro ⟨⟨there, -⟩, shown⟩
    exact ⟨there, shown⟩
  · rintro ⟨there, shown⟩
    exact ⟨⟨there, by simp [h, shown]⟩, shown⟩

end Record

/-! ## Records that show the same -/

/-- **Missing, null and blank are one.** Records that are alike in every field
have the same outcome: the same findings, payload, blueprint, error and
defaults. -/
theorem Registry.process_of_alike {reg : Registry} {s : Settings} {typeId : String}
    {wantBlueprint : Bool} {r r' : Record} (alike : ∀ field, r.AlikeAt r' field) :
    reg.process s ⟨typeId, r, wantBlueprint⟩ = reg.process s ⟨typeId, r', wantBlueprint⟩ :=
  process_congr fun field _ => Record.alikeAt_iff.1 (alike field)

/-- Employment with the currency left open. -/
def openCurrency : Record := Catalog.Samples.employment.insert "currency" .null

/-- Employment without a currency. -/
def noCurrency : Record := Catalog.Samples.employment.erase "currency"

/-- Null or not there at all: either way the currency is the default, and the document is made. -/
theorem Registry.process_of_alike_currency :
    (∀ field, openCurrency.AlikeAt noCurrency field) ∧
      Catalog.builtin.registry.process .standard
          ⟨Catalog.Builtin.unlimitedType.id, openCurrency, true⟩ =
        Catalog.builtin.registry.process .standard
          ⟨Catalog.Builtin.unlimitedType.id, noCurrency, true⟩ ∧
      (Catalog.builtin.registry.process .standard
          ⟨Catalog.Builtin.unlimitedType.id, openCurrency, true⟩).appliedDefaults =
        ["currency", "notice_period_days", "working_hours_per_week"] ∧
      (Catalog.builtin.registry.process .standard
          ⟨Catalog.Builtin.unlimitedType.id, openCurrency, true⟩).isReady = true := by
  have alike : ∀ field, openCurrency.AlikeAt noCurrency field :=
    Record.alikeAt_insert_erase Catalog.Samples.employment "currency" rfl
  exact ⟨alike, process_of_alike alike, by decide +kernel, by decide +kernel⟩

/-! ## Fields that are bound -/

/-- The fields that the bindings of the template read. -/
def Template.boundFields (t : Template) : List String := t.bindings.values.flatMap Binding.fields

theorem Template.mem_boundFields {t : Template} {e : String × Binding}
    (he : e ∈ t.bindings.entries) {field : String} (hf : field ∈ e.2.fields) :
    field ∈ t.boundFields :=
  List.mem_flatMap.2 ⟨e.2, List.mem_map_of_mem he, hf⟩

namespace Registry

/-- The fields that the template of the type binds, if it has one. -/
def boundFields (reg : Registry) (typeId : String) : List String :=
  match reg.linkedTemplate typeId with
  | .ok t => t.boundFields
  | .error _ => []

theorem boundFields_of_linked {reg : Registry} {typeId : String} {t : Template}
    (linked : reg.linkedTemplate typeId = .ok t) : reg.boundFields typeId = t.boundFields := by
  rw [boundFields, linked]

theorem payload_eq_of_present? {reg : Registry} {formats : DateFormats} {typeId : String}
    {r r' : Record} (same : ∀ field ∈ reg.boundFields typeId,
      r.present? field = r'.present? field) :
    reg.payload formats typeId r = reg.payload formats typeId r' :=
  payload_congr fun t linked _ he field hf =>
    same field (boundFields_of_linked linked ▸ t.mem_boundFields he hf)

/-- **No field that is not bound gets into a payload.** Records that are alike
in the fields that the template of the type binds have the same payload, with
the same text and fingerprint, or the same error; and the payload can be made
of the record cleared of everything else. -/
theorem payload_of_boundFields {reg : Registry} {s : Settings} {typeId : String} {r r' : Record}
    (alike : ∀ field ∈ reg.boundFields typeId, r.AlikeAt r' field) :
    reg.payload s.dateFormats typeId r = reg.payload s.dateFormats typeId r' ∧
      reg.payload s.dateFormats typeId (r.view (reg.boundFields typeId)) =
        reg.payload s.dateFormats typeId r :=
  ⟨payload_eq_of_present? fun field hf => Record.alikeAt_iff.1 (alike field hf),
    payload_eq_of_present? fun _ hf => r.present?_view hf⟩

end Registry

/-- A notice about a badge. -/
def badgeNotice : Record := Dict.empty.insert "badge" (.string "B-7")

/-- The same notice with a salary, which the letter does not ask for. -/
def paidNotice : Record := badgeNotice.insert "basic_salary" (.int 450)

theorem Registry.payload_of_boundFields_salary :
    (∀ field ∈ letters.registry.boundFields "notice", paidNotice.AlikeAt badgeNotice field) ∧
      letters.registry.payload Settings.standard.dateFormats "notice" paidNotice =
        letters.registry.payload Settings.standard.dateFormats "notice" badgeNotice ∧
      ∃ p, letters.registry.payload Settings.standard.dateFormats "notice" paidNotice = .ok p ∧
        p.value? "badge" = some (.string "B-7") := by
  have bound : letters.registry.boundFields "notice" = ["badge"] := by rfl
  have alike : ∀ field ∈ letters.registry.boundFields "notice",
      paidNotice.AlikeAt badgeNotice field := by
    rw [bound]
    intro field hf
    rw [List.mem_singleton] at hf
    subst hf
    exact .inr ⟨.string "B-7", rfl, rfl⟩
  exact ⟨alike, (payload_of_boundFields (s := .standard) alike).1, _, rfl, rfl⟩

end ContractDocs
