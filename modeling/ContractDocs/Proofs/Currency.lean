/-
Currencies as the wage floors read them and as documents write them. Both
bring the text to upper case; the floors leave out white space at its ends,
the documents everything but letters and digits.

`code_eq_filter_codeOf`: what a document writes can be taken from what the
floors read. So the two agree exactly on currencies that come to letters and
digits: a document of a built-in type that pays a salary below the floor comes
with a warning exactly when the currency of the record is one of these.
-/
import ContractDocs.Catalog.Samples
import ContractDocs.Proofs.Outcomes
import ContractDocs.Proofs.Rounding
import ContractDocs.Proofs.Variables
import ContractDocs.Proofs.WageFloors

namespace ContractDocs

open Catalog.Builtin

/-! ## Codes -/

/-- The text is made of the letters `A` to `Z` and digits. -/
def IsPlain (s : String) : Prop := ∀ c ∈ s.toList, Transform.isCodeChar c = true

instance (s : String) : Decidable (IsPlain s) := inferInstanceAs (Decidable (∀ c ∈ s.toList, _))

theorem Transform.isCodeChar_of_isBlank {c : Char} (h : Text.isBlank c = true) :
    isCodeChar c = false := by
  simp only [Text.isBlank, Bool.or_eq_true, Bool.and_eq_true, decide_eq_true_eq] at h
  simp only [isCodeChar, Decimal.isDigit, Bool.or_eq_false_iff, Bool.and_eq_false_iff,
    decide_eq_false_iff_not, Char.le_def, UInt32.le_iff_toNat_le]
  change (¬ 65 ≤ c.toNat ∨ ¬ c.toNat ≤ 90) ∧ (¬ 48 ≤ c.toNat ∨ ¬ c.toNat ≤ 57)
  omega

/-- What a document writes is what the floors read, without what is neither letter nor digit. -/
theorem Transform.code_eq_filter_codeOf (s : String) :
    code s = String.ofList ((codeOf s).toList.filter isCodeChar) := by
  obtain ⟨lead, trail, hlead, htrail, -, raised⟩ := Text.exists_toList_upper s
  have dropped : ∀ {cs : List Char}, (∀ c ∈ cs, Text.isBlank c = true) →
      cs.filter isCodeChar = [] := by
    intro cs h
    rw [List.filter_eq_nil_iff]
    intro c hc
    simp [isCodeChar_of_isBlank (h c hc)]
  rw [code, raised, List.filter_append, List.filter_append, dropped hlead, dropped htrail,
    List.nil_append, List.append_nil, codeOf]

theorem codeOf_eq_iff {s code : String} (h : Transform.code s = code) :
    codeOf s = code ↔ IsPlain (codeOf s) := by
  rw [← h, Transform.code_eq_filter_codeOf]
  constructor
  · intro same c hc
    rw [same, String.toList_ofList] at hc
    exact (List.mem_filter.1 hc).2
  · intro plain
    rw [List.filter_eq_self.2 plain, String.ofList_toList]

/-! ## The built-in types -/

theorem build_builtin : Catalog.builtin.build true = .ok Catalog.builtin.registry := by
  have built : (Catalog.builtin.build true).toOption.isSome = true := by decide +kernel
  cases h : Catalog.builtin.build true with
  | error e =>
    rw [h] at built
    cases built
  | ok reg => rw [(Catalog.build_eq_ok_iff.1 h).2]

/-- The built-in floors are 325 rials. -/
theorem builtin_floors : ∀ t ∈ contractTypes, t.constraints.minimumWage.entries = [] ∨
    t.constraints.minimumWage.entries = [("OMR", 325)] := by decide +kernel

/-- The documents of the types with a floor write the currency as a code and the salary in three
decimal places. -/
theorem builtin_bindings : ∀ t ∈ contractTypes, ∀ tmpl ∈ templates,
    t.constraints.minimumWage.isEmpty = false → t.templateId = some tmpl.id →
      tmpl.bindings.get? "currency" = some (code Field.currency.name) ∧
        tmpl.bindings.get? "basic_salary" = some (money Field.salary.name) := by decide +kernel

theorem get?_builtin_floor {t : ContractType} (ht : t ∈ contractTypes) {name : String}
    {floor : Float} (h : t.constraints.minimumWage.get? name = some floor) :
    name = "OMR" ∧ floor = 325 ∧ t.constraints.minimumWage.isEmpty = false := by
  have entry := Dict.get?_eq_some_iff.1 h
  rcases builtin_floors t ht with none | single
  · rw [none] at entry
    cases entry
  · rw [single, List.mem_singleton, Prod.mk.injEq] at entry
    exact ⟨entry.1, entry.2, by rw [Dict.isEmpty, single]; rfl⟩

theorem isWhole_325 : Decimal.IsWhole 325 325 :=
  ⟨325 * 2 ^ 44, -44, by norm_num, by rfl, ⟨by norm_num, by norm_num⟩,
    by norm_num [Decimal.valueAt]⟩

/-- The document pays the amount in the currency. -/
structure Payload.Pays (p : Payload) (currency : String) (amount : Float) : Prop where
  currency : (p.value? "currency").map Json.display = some currency
  amount : (p.value? "basic_salary").bind Json.quantity? = some amount

/-- What the record of a document says, if the document pays less than the floor: its currency is
written as the document has it, and its salary is below the floor too. -/
theorem exists_of_pays {strict : Bool} {reg : Registry}
    (hb : Catalog.builtin.build strict = .ok reg) {formats : DateFormats} {typeId : String}
    {r : Record} {p : Payload} (hp : reg.payload formats typeId r = .ok p) {t : ContractType}
    (ht : reg.types.get? typeId = some t) {name : String} {floor : Float}
    (hfloor : t.constraints.minimumWage.get? name = some floor) {currency : String} {y : Float}
    (pays : p.Pays currency y) (hy : y < floor) :
    ∃ v x, r.field? .currency = some v ∧ Transform.code v.display = currency ∧
      r.HasNumber .salary x ∧ x < floor := by
  have holds := Catalog.holds_of_build hb
  have hmem : t ∈ contractTypes := ((holds.type_iff _ _).1 ht).1
  obtain ⟨-, rfl, hasFloor⟩ := get?_builtin_floor hmem hfloor
  obtain ⟨tmpl, values, hlink, hbind, rfl⟩ := Registry.payload_eq_ok_iff.1 hp
  obtain ⟨t', id, ht', hid, htmpl⟩ := Registry.linkedTemplate_eq_ok_iff.1 hlink
  obtain rfl : t' = t := Option.some.inj (ht'.symm.trans ht)
  obtain ⟨hmem', rfl⟩ := (holds.template_iff _ _).1 htmpl
  obtain ⟨hcurrency, hsalary⟩ := builtin_bindings t' hmem tmpl hmem' hasFloor hid
  obtain ⟨c, hc, hdisplay⟩ := Option.map_eq_some_iff.1 pays.currency
  obtain ⟨w, hw, hquantity⟩ := Option.bind_eq_some_iff.1 pays.amount
  obtain ⟨v, hv, hcode⟩ := Template.exists_of_bind_field hbind hcurrency hc
  obtain ⟨u, hu, hscale⟩ := Template.exists_of_bind_field hbind hsalary hw
  obtain ⟨x, hx, finite, rfl⟩ := Transform.apply_scale_eq_ok_iff.1 hscale
  refine ⟨v, x, hv, ?_, ⟨u, hu, hx⟩, ?_⟩
  · rw [Transform.apply, Except.ok.injEq] at hcode
    rw [← hdisplay, ← hcode, Json.display]
  · -- Rounding does not take a salary below the floor.
    by_contra notBelow
    have rounded := Decimal.not_lt_scaled isWhole_325 (by norm_num) (by norm_num)
      (Json.isFinite_of_quantity? hx) notBelow
    rw [Json.float, Json.quantity?, Option.filter_eq_some_iff, Option.some.injEq] at hquantity
    have same : Transform.scaled x 1 (some 3) = y := hquantity.1
    exact rounded (same ▸ hy)

/-! ## Salaries below the floor -/

/-- Employment for 300 rials, with the currency as given. -/
def paidIn (currency : String) : Request where
  typeId := unlimitedType.id
  record := Catalog.Samples.employment.insertAll
    [("basic_salary", .int 300), ("currency", .string currency)]
  wantBlueprint := false

/-- What a request comes to with the built-in catalog: the currency and the salary of the document,
and what is said of the record. -/
def documentOf (q : Request) : Option String × Option Float × List Finding :=
  let o := Catalog.builtin.registry.process .standard q
  ((o.payload.bind (·.value? "currency")).map Json.display,
    (o.payload.bind (·.value? "basic_salary")).bind Json.quantity?, o.validation.warnings)

theorem exists_payload_of_documentOf {q : Request} {currency : String} {amount : Float}
    {warnings : List Finding} (h : documentOf q = (some currency, some amount, warnings)) :
    ∃ p, (Catalog.builtin.registry.process .standard q).payload = some p ∧
      p.Pays currency amount ∧
      (Catalog.builtin.registry.process .standard q).validation.warnings = warnings := by
  simp only [documentOf, Prod.mk.injEq] at h
  obtain ⟨hcurrency, hamount, hwarnings⟩ := h
  cases hp : (Catalog.builtin.registry.process .standard q).payload with
  | none =>
    rw [hp] at hcurrency
    cases hcurrency
  | some p =>
    rw [hp] at hcurrency hamount
    exact ⟨p, rfl, ⟨hcurrency, hamount⟩, hwarnings⟩

theorem documentOf_paidIn :
    documentOf (paidIn " omr ") = (some "OMR", some 300, [.belowMinimumWage 300 325 "OMR"]) ∧
      documentOf (paidIn "O.M.R") = (some "OMR", some 300, []) := by decide +kernel

theorem Registry.validate_of_get? {reg : Registry} {rules : DateRules} {typeId : String}
    {r : Record} {t : ContractType} (ht : reg.types.get? typeId = some t) :
    reg.validate rules typeId r = t.validate rules r := by
  rw [validate, ht]

/-- **A document that pays less than the floor of its type** in rials comes
with a warning exactly when the currency of the record, in upper case and
without white space at its ends, is made of letters and digits alone. With any
other character in it there is no warning about the wage at all. -/
theorem wage_warning_iff {strict : Bool} {reg : Registry}
    (hb : Catalog.builtin.build strict = .ok reg) (s : Settings) (q : Request) {t : ContractType}
    (ht : reg.types.get? q.typeId = some t) {floor : Float}
    (hfloor : t.constraints.minimumWage.get? "OMR" = some floor) {p : Payload}
    (hp : (reg.process s q).payload = some p) {y : Float} (pays : p.Pays "OMR" y)
    (hy : y < floor) :
    ∃ v x, (reg.complete s q.typeId q.record).1.field? .currency = some v ∧
      (reg.complete s q.typeId q.record).1.HasNumber .salary x ∧ x < floor ∧
      (.belowMinimumWage x floor "OMR" ∈ (reg.process s q).validation.warnings ↔
        IsPlain (codeOf v.display)) ∧
      (¬ IsPlain (codeOf v.display) →
        ∀ f ∈ (reg.process s q).validation.warnings, f.check? ≠ some .minimumWage) := by
  obtain ⟨-, hpayload⟩ := Registry.process_payload_eq_some_iff.1 hp
  obtain ⟨v, x, hv, hcode, hx, hlt⟩ := exists_of_pays hb hpayload ht hfloor pays hy
  have validation : (reg.process s q).validation =
      t.validate s.dateRules (reg.complete s q.typeId q.record).1 :=
    Registry.validate_of_get? ht
  have hmem : t ∈ contractTypes := ((Catalog.holds_of_build hb).type_iff _ _).1 ht |>.1
  refine ⟨v, x, hv, hx, hlt, ?_, ?_⟩
  · rw [validation, ContractType.wage_mem_warnings, ← codeOf_eq_iff hcode]
    constructor
    · rintro ⟨-, -, -, w, hw, same⟩
      obtain rfl := Option.some.inj (hv.symm.trans hw)
      exact same
    · intro same
      exact ⟨hx, hlt, hfloor, v, hv, same⟩
  · intro notPlain f hf hcheck
    obtain ⟨amount, limit, name, rfl⟩ : ∃ amount limit name,
        f = .belowMinimumWage amount limit name := by
      cases f <;> simp_all [Finding.check?]
    rw [validation, ContractType.wage_mem_warnings] at hf
    obtain ⟨-, -, hlimit, w, hw, same⟩ := hf
    obtain rfl := Option.some.inj (hv.symm.trans hw)
    obtain ⟨rfl, -⟩ := get?_builtin_floor hmem hlimit
    exact notPlain ((codeOf_eq_iff hcode).1 same)

theorem wage_warning_iff_paidIn :
    Catalog.builtin.build true = .ok Catalog.builtin.registry ∧
      Catalog.builtin.registry.types.get? unlimitedType.id = some unlimitedType ∧
      unlimitedType.constraints.minimumWage.get? "OMR" = some 325 ∧
      ∃ p, (Catalog.builtin.registry.process .standard (paidIn " omr ")).payload = some p ∧
        p.Pays "OMR" 300 ∧ (300 : Float) < 325 ∧
        ∃ v x, (Catalog.builtin.registry.complete .standard unlimitedType.id
            (paidIn " omr ").record).1.field? .currency = some v ∧
          (.belowMinimumWage x 325 "OMR" ∈
              (Catalog.builtin.registry.process .standard (paidIn " omr ")).validation.warnings ↔
            IsPlain (codeOf v.display)) := by
  have type : Catalog.builtin.registry.types.get? unlimitedType.id = some unlimitedType :=
    ((Catalog.holds_of_build build_builtin).type_iff _ _).2 ⟨List.mem_cons_self, rfl⟩
  have floor : unlimitedType.constraints.minimumWage.get? "OMR" = some 325 := by decide
  have below : (300 : Float) < 325 := by decide
  obtain ⟨p, hp, pays, -⟩ := exists_payload_of_documentOf documentOf_paidIn.1
  obtain ⟨v, x, hv, -, -, warned, -⟩ :=
    wage_warning_iff build_builtin .standard (paidIn " omr ") type floor hp pays below
  exact ⟨build_builtin, type, floor, p, hp, pays, below, v, x, hv, warned⟩

/-- Dots in a currency are left out of the document, and keep the floor from being found. -/
theorem no_wage_warning_paidIn_dots :
    unlimitedType.constraints.minimumWage.get? "OMR" = some 325 ∧
      ∃ p, (Catalog.builtin.registry.process .standard (paidIn "O.M.R")).payload = some p ∧
        p.Pays "OMR" 300 ∧ (300 : Float) < 325 ∧
        (Catalog.builtin.registry.process .standard (paidIn "O.M.R")).validation.warnings = [] := by
  obtain ⟨p, hp, pays, warnings⟩ := exists_payload_of_documentOf documentOf_paidIn.2
  exact ⟨by decide, p, hp, pays, by decide, warnings⟩

end ContractDocs
