/-
Defaults: what filling them in makes of a record, and of a request.

`ContractType.foldl_fillField`: one default after the other, and each of them
finds its field as it was in the record. So `ContractType.applyDefaults_eq_iff`
can say what is filled in without the order. `ContractType.present?_filled`: a
filled record shows its own value or the default, so to fill it again changes
nothing. `Registry.process_filled`: the stages of a request read the filled
record and no other.
-/
import Mathlib.Data.List.Sort
import ContractDocs.Proofs.SharedStore
import ContractDocs.Proofs.Views

namespace ContractDocs

open Catalog.Builtin

namespace ContractType

variable {t : ContractType} {r filled filled' : Record} {names names' : List String}

/-! ## One default after the other -/

/-- The defaults of the fields that the record lacks. -/
def fillings (t : ContractType) (r : Record) : Dict Json :=
  ⟨t.defaults.entries.filter fun e => (r.present? e.1).isNone, t.defaults.ordered.filter _⟩

theorem foldl_fillField {es : List (String × Json)} (distinct : es.Pairwise fun a b => a.1 ≠ b.1)
    (r : Record) (names : List String) :
    es.foldl fillField (r, names) =
      (r.insertAll (es.filter fun e => (r.present? e.1).isNone),
        names ++ (es.filter fun e => (r.present? e.1).isNone).map (·.1)) := by
  induction es generalizing r names with
  | nil => simp [Dict.insertAll]
  | cons e es ih =>
    obtain ⟨field, v⟩ := e
    rw [List.pairwise_cons] at distinct
    rw [List.foldl_cons, fillField]
    cases shown : r.present? field with
    | some w => simpa [shown] using ih distinct.2 r names
    | none =>
      -- A default is put in at its own name, so those that follow find the record as it was.
      have others : es.filter (fun e => (Record.present? (r.insert field v) e.1).isNone) =
          es.filter fun e => (r.present? e.1).isNone :=
        List.filter_congr fun e he => by
          rw [Record.present?_insert_other r v (distinct.1 e he).symm]
      simpa [shown, others, Dict.insertAll] using ih distinct.2 (r.insert field v) (names ++ [field])

theorem applyDefaults_eq (t : ContractType) (r : Record) :
    t.applyDefaults r = (r.insertAll (t.fillings r).entries, (t.fillings r).keys) := by
  rw [applyDefaults, foldl_fillField (t.defaults.ordered.imp String.ne_of_lt), List.nil_append]
  rfl

theorem get?_fillings_eq_some_iff {field : String} {v : Json} :
    (t.fillings r).get? field = some v ↔ r.Lacks field ∧ t.defaults.get? field = some v := by
  rw [Dict.get?_eq_some_iff, fillings, List.mem_filter, ← Dict.get?_eq_some_iff, Record.lacks_iff,
    Option.isNone_iff_eq_none, and_comm]

/-! ## What is filled in -/

/-- The defaults of the type have been filled in where the record lacked a value, and the names are
those of the fields that got one. -/
structure FillsIn (t : ContractType) (r filled : Record) (names : List String) : Prop where
  mem_iff : ∀ field, field ∈ names ↔ r.Lacks field ∧ ∃ v, t.defaults.get? field = some v
  ordered : names.Pairwise (· < ·)
  defaults : ∀ field ∈ names, filled.get? field = t.defaults.get? field
  /-- Null and blank values without a default stay, too. -/
  others : ∀ field, field ∉ names → filled.get? field = r.get? field

theorem fillsIn_applyDefaults (t : ContractType) (r : Record) :
    t.FillsIn r (t.applyDefaults r).1 (t.applyDefaults r).2 := by
  rw [applyDefaults_eq]
  refine ⟨fun field => ?_, (t.fillings r).keys_ordered, fun field hf => ?_, fun field hf => ?_⟩
  · simp only [Dict.mem_keys_iff, get?_fillings_eq_some_iff, exists_and_left]
  · obtain ⟨v, hv⟩ := Dict.mem_keys_iff.1 hf
    rw [Dict.get?_insertAll_entries, hv, (get?_fillings_eq_some_iff.1 hv).2, Option.some_or]
  · rw [Dict.mem_keys_iff, not_exists, ← Option.eq_none_iff_forall_ne_some] at hf
    rw [Dict.get?_insertAll_entries, hf, Option.none_or]

theorem FillsIn.unique (h : t.FillsIn r filled names) (h' : t.FillsIn r filled' names') :
    filled = filled' ∧ names = names' := by
  have same : names = names' :=
    h.ordered.eq_of_mem_iff h'.ordered fun field => (h.mem_iff field).trans (h'.mem_iff field).symm
  subst same
  refine ⟨Dict.ext_get? fun field => ?_, rfl⟩
  by_cases hf : field ∈ names
  · rw [h.defaults field hf, h'.defaults field hf]
  · rw [h.others field hf, h'.others field hf]

theorem applyDefaults_eq_iff :
    t.applyDefaults r = (filled, names) ↔ t.FillsIn r filled names := by
  constructor
  · intro h
    simpa only [h] using t.fillsIn_applyDefaults r
  · intro h
    obtain ⟨record, list⟩ := (t.fillsIn_applyDefaults r).unique h
    exact Prod.ext record list

/-! ## Filling in again -/

/-- What a filled record shows is its own, or the default. -/
theorem present?_filled (t : ContractType) (r : Record) (field : String) :
    (t.applyDefaults r).1.present? field =
      (r.present? field).or ((t.defaults.get? field).filter fun v => !v.isBlank) := by
  have fills := t.fillsIn_applyDefaults r
  by_cases hf : field ∈ (t.applyDefaults r).2
  · have lacked := Record.lacks_iff.1 ((fills.mem_iff field).1 hf).1
    rw [lacked, Option.none_or, Record.present?, fills.defaults field hf]
  · rw [Record.present?, fills.others field hf, ← Record.present?]
    rw [fills.mem_iff, Record.lacks_iff] at hf
    cases shown : r.present? field with
    | some v => rfl
    | none =>
      have noDefault : t.defaults.get? field = none :=
        Option.eq_none_iff_forall_ne_some.2 fun v hv => hf ⟨shown, v, hv⟩
      rw [noDefault]
      rfl

/-- A default that is blank itself is filled in again. -/
theorem mem_names_again_iff (t : ContractType) (r : Record) (field : String) :
    field ∈ (t.applyDefaults (t.applyDefaults r).1).2 ↔
      field ∈ (t.applyDefaults r).2 ∧ ∃ v, t.defaults.get? field = some v ∧ v.isBlank = true := by
  rw [(t.fillsIn_applyDefaults _).mem_iff, (t.fillsIn_applyDefaults r).mem_iff, Record.lacks_iff,
    Record.lacks_iff, present?_filled, Option.or_eq_none_iff]
  cases t.defaults.get? field <;> simp

/-- White space as a default is no value, so it is put in every time. -/
example :
    let t := (ContractType.new "memo" "Memo" "letters").withDefault "remarks" (.string " ")
    (t.applyDefaults (t.applyDefaults .empty).1).2 = ["remarks"] := by decide

theorem applyDefaults_again (t : ContractType) (r : Record) :
    (t.applyDefaults (t.applyDefaults r).1).1 = (t.applyDefaults r).1 := by
  have again := t.fillsIn_applyDefaults (t.applyDefaults r).1
  refine Dict.ext_get? fun field => ?_
  by_cases hf : field ∈ (t.applyDefaults (t.applyDefaults r).1).2
  · have first := ((t.mem_names_again_iff r field).1 hf).1
    rw [again.defaults field hf, (t.fillsIn_applyDefaults r).defaults field first]
  · exact again.others field hf

theorem names_again (t : ContractType) (r : Record)
    (notBlank : ∀ field v, t.defaults.get? field = some v → v.isBlank = false) :
    (t.applyDefaults (t.applyDefaults r).1).2 = [] := by
  refine List.eq_nil_iff_forall_not_mem.2 fun field hf => ?_
  obtain ⟨-, v, hv, blank⟩ := (t.mem_names_again_iff r field).1 hf
  rw [notBlank field v hv] at blank
  cases blank

end ContractType

/-! ## Requests -/

namespace Registry

variable {reg : Registry} {s : Settings} {typeId : String} {t : ContractType} {r r' : Record}
  {wantBlueprint on : Bool}

/-- A filled record is complete, whatever the settings say about defaults. -/
theorem complete_filled (type : reg.types.get? typeId = some t) (r : Record) :
    (reg.complete s typeId (t.applyDefaults r).1).1 = (t.applyDefaults r).1 := by
  simp only [complete, type]
  split
  · exact t.applyDefaults_again r
  · rfl

/-- Once a record is complete, nothing but the names tells whether defaults were filled in. -/
theorem process_of_complete (on' : Bool)
    (same : (reg.complete { s with applyDefaults := on } typeId r).1 =
      (reg.complete { s with applyDefaults := on' } typeId r').1) :
    reg.process { s with applyDefaults := on } ⟨typeId, r, wantBlueprint⟩ =
      { reg.process { s with applyDefaults := on' } ⟨typeId, r', wantBlueprint⟩ with
        appliedDefaults := (reg.complete { s with applyDefaults := on } typeId r).2 } := by
  simp only [process, same]
  rfl

theorem process_filled (type : reg.types.get? typeId = some t) (r : Record) :
    reg.process { s with applyDefaults := true } ⟨typeId, r, wantBlueprint⟩ =
      { reg.process { s with applyDefaults := on } ⟨typeId, (t.applyDefaults r).1, wantBlueprint⟩
        with appliedDefaults := (t.applyDefaults r).2 } := by
  have filled : reg.complete { s with applyDefaults := true } typeId r = t.applyDefaults r := by
    simp only [complete, type, if_true]
  rw [process_of_complete on (by rw [filled, complete_filled type]), filled]

/-- A type that is not known has no defaults. -/
theorem process_of_noType (noType : reg.types.get? typeId = none) (r : Record) :
    reg.process { s with applyDefaults := true } ⟨typeId, r, wantBlueprint⟩ =
      reg.process { s with applyDefaults := on } ⟨typeId, r, wantBlueprint⟩ := by
  have same : ∀ on, reg.complete { s with applyDefaults := on } typeId r = (r, []) := fun on => by
    simp only [complete, noType]
  simp only [process, same]
  rfl

end Registry

/-- A generation leaves the records in the store as they are, but for what it says about their
documents: no default gets there. -/
theorem Service.alike_generate (sv : Service) (contractId : String) (wantBlueprint : Bool) :
    (sv.generate contractId wantBlueprint).1.store.Alike sv.store := by
  have alike := Office.alike_run (o := Office.opened sv) (.refl sv.store)
    (.generate contractId wantBlueprint ::
      .replicate 3 (.advance (Office.opened sv).jobs.length))
  rwa [((Office.opened sv).run_generate contractId wantBlueprint).1] at alike

/-- **Defaults** are filled in exactly, and once, and might as well have been
filled in by the caller. Of every type and record,
- the defaults go to the fields that were missing, null or blank, nothing else
  changes, and the names are those of these fields, in order;
- to fill the record again changes nothing, and no name is given again unless
  its default is blank;
- a request with this record comes to what a request with the filled record
  comes to, with defaults or without, but for the names; a type that is not
  known has no defaults;
- the record itself is left alone: a generation writes nothing to the store but
  what came of the document. -/
theorem defaults_filled_in (t : ContractType) (r : Record) :
    (∀ filled names, t.applyDefaults r = (filled, names) ↔ t.FillsIn r filled names) ∧
    ((t.applyDefaults (t.applyDefaults r).1).1 = (t.applyDefaults r).1 ∧
      ((∀ field v, t.defaults.get? field = some v → v.isBlank = false) →
        (t.applyDefaults (t.applyDefaults r).1).2 = [])) ∧
    (∀ (reg : Registry) (s : Settings) (typeId : String) (wantBlueprint on : Bool),
      (reg.types.get? typeId = some t →
        reg.process { s with applyDefaults := true } ⟨typeId, r, wantBlueprint⟩ =
          { reg.process { s with applyDefaults := on }
              ⟨typeId, (t.applyDefaults r).1, wantBlueprint⟩ with
            appliedDefaults := (t.applyDefaults r).2 }) ∧
      (reg.types.get? typeId = none →
        reg.process { s with applyDefaults := true } ⟨typeId, r, wantBlueprint⟩ =
          reg.process { s with applyDefaults := on } ⟨typeId, r, wantBlueprint⟩)) ∧
    ∀ (sv : Service) (contractId : String) (wantBlueprint : Bool),
      (sv.generate contractId wantBlueprint).1.store.Alike sv.store :=
  ⟨fun _ _ => ContractType.applyDefaults_eq_iff, ⟨t.applyDefaults_again r, t.names_again r⟩,
    fun _ _ _ _ _ => ⟨fun type => Registry.process_filled type r,
      fun noType => Registry.process_of_noType noType r⟩,
    Service.alike_generate⟩

/-- The currency was left open, so it is filled in with the notice and the hours; whoever has done
that before needs no defaults. -/
theorem defaults_filled_in_openCurrency :
    (∀ field v, unlimitedType.defaults.get? field = some v → v.isBlank = false) ∧
      Catalog.builtin.registry.types.get? unlimitedType.id = some unlimitedType ∧
      (unlimitedType.applyDefaults openCurrency).2 =
        ["currency", "notice_period_days", "working_hours_per_week"] ∧
      unlimitedType.FillsIn openCurrency (unlimitedType.applyDefaults openCurrency).1
        (unlimitedType.applyDefaults openCurrency).2 ∧
      (unlimitedType.applyDefaults (unlimitedType.applyDefaults openCurrency).1).2 = [] ∧
      Catalog.builtin.registry.process .standard ⟨unlimitedType.id, openCurrency, true⟩ =
        { Catalog.builtin.registry.process { Settings.standard with applyDefaults := false }
            ⟨unlimitedType.id, (unlimitedType.applyDefaults openCurrency).1, true⟩ with
          appliedDefaults := (unlimitedType.applyDefaults openCurrency).2 } := by
  have notBlank : ∀ field v, unlimitedType.defaults.get? field = some v → v.isBlank = false :=
    fun field v hv =>
      (by decide : ∀ e ∈ unlimitedType.defaults.entries, e.2.isBlank = false) (field, v)
        (Dict.get?_eq_some_iff.1 hv)
  have type : Catalog.builtin.registry.types.get? unlimitedType.id = some unlimitedType := by rfl
  obtain ⟨filled, ⟨-, again⟩, requests, -⟩ := defaults_filled_in unlimitedType openCurrency
  exact ⟨notBlank, type, by decide +kernel, (filled _ _).1 rfl, again notBlank,
    (requests Catalog.builtin.registry .standard unlimitedType.id true false).1 type⟩

end ContractDocs
