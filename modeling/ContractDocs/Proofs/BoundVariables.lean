/-
Which variables are bound, to what, and at which of them the binding fails.

A binding does not look at the variables before it. So whether all of them can
be bound is a question to each binding alone (`Template.exists_foldlM_iff`),
and the error is that of the first binding, by name, that cannot be
(`Template.bind_eq_error_iff`).
-/
import ContractDocs.Proofs.Compilation
import ContractDocs.Proofs.Variables

namespace ContractDocs

open Checks Dict

/-! ## One binding -/

/-- A binding has no input exactly when none of its fields is there. -/
theorem Source.read?_eq_none_iff {source : Source} {r : Record} :
    source.read? r = none ↔ ∀ field ∈ source.fields, ¬ r.Provides field := by
  cases source with
  | field name => simp [read?, fields, Record.present?_eq_none_iff]
  | concat names separator =>
    simp only [read?, fields, ← Record.present?_eq_none_iff, ← List.filterMap_eq_nil_iff]
    cases names.filterMap r.present? <;> simp

/-- A binding that works out leaves its variable out exactly when none of its fields is there. -/
theorem Binding.evaluate_eq_none_iff {b : Binding} {formats : DateFormats} {r : Record}
    {v : Option Json} (evaluated : b.evaluate formats r = .ok v) :
    v = none ↔ ∀ field ∈ b.fields, ¬ r.Provides field := by
  rw [fields, ← Source.read?_eq_none_iff]
  rw [evaluate] at evaluated
  cases read : b.source.read? r with
  | none =>
    rw [read] at evaluated
    cases evaluated
    simp
  | some w =>
    rw [read] at evaluated
    dsimp only at evaluated
    split at evaluated
    · cases evaluated
      simp
    · obtain ⟨x, -, rfl⟩ := map_eq_ok.1 evaluated
      simp

namespace Template

/-- The record has all fields of the binding that the template requires. -/
def Supplied (t : Template) (r : Record) (b : Binding) : Prop :=
  ∀ field ∈ b.fields, t.requires field = true → r.Provides field

/-- The variable of the binding has a value on the record, or is rightly left out. -/
def Bindable (t : Template) (formats : DateFormats) (r : Record) (b : Binding) : Prop :=
  t.Supplied r b ∧ ∃ v, b.evaluate formats r = .ok v

/-- How a binding fails. A field that is lacking comes before whatever else is wrong. -/
inductive FailsAt (t : Template) (formats : DateFormats) (r : Record) (name : String)
    (b : Binding) : CompileError → Prop
  | missing {before after : List String} {field : String}
    (fields : b.fields = before ++ field :: after) (required : t.requires field = true)
    (absent : ¬ r.Provides field)
    (first : ∀ other ∈ before, t.requires other = true → r.Provides other) :
    FailsAt t formats r name b (.missingRequiredField t.id name field)
  | transform {e : BindingError} (supplied : t.Supplied r b)
    (failed : b.evaluate formats r = .error e) :
    FailsAt t formats r name b (.transformFailed name e)

variable {t : Template} {formats : DateFormats} {r : Record} {name : String} {b : Binding}
  {e : CompileError} {values : Variables}

/-- The field is not one that the template requires and the record lacks. -/
theorem not_lacked_iff {field : String} :
    (!(t.requires field && (r.present? field).isNone)) = true ↔
      (t.requires field = true → r.Provides field) := by
  rw [Record.provides_iff, ← Option.isSome_iff_exists]
  cases t.requires field <;> cases r.present? field <;> simp

theorem lackedField?_eq_none_iff : t.lackedField? r b = none ↔ t.Supplied r b := by
  simp only [lackedField?, List.find?_eq_none, ← Bool.not_eq_true', Bool.not_eq_true,
    not_lacked_iff, Supplied]

theorem lackedField?_eq_some_iff {field : String} :
    t.lackedField? r b = some field ↔
      (t.requires field = true ∧ ¬ r.Provides field) ∧ ∃ before after,
        b.fields = before ++ field :: after ∧
          ∀ other ∈ before, t.requires other = true → r.Provides other := by
  simp only [lackedField?, List.find?_eq_some_iff_append, not_lacked_iff, Bool.and_eq_true,
    Option.isNone_iff_eq_none, Record.present?_eq_none_iff, exists_and_right]

theorem exists_variableValue_iff (name : String) :
    (∃ v, t.variableValue formats r name b = .ok v) ↔ t.Bindable formats r b := by
  simp only [variableValue_eq_ok_iff, lackedField?_eq_none_iff, exists_and_left, Bindable]

theorem variableValue_eq_error_iff_failsAt :
    t.variableValue formats r name b = .error e ↔ t.FailsAt formats r name b e := by
  rw [variableValue_eq_error_iff]
  constructor
  · rintro (⟨field, lacked, rfl⟩ | ⟨supplied, be, failed, rfl⟩)
    · obtain ⟨⟨required, absent⟩, before, after, fields, first⟩ := lackedField?_eq_some_iff.1 lacked
      exact .missing fields required absent first
    · exact .transform (lackedField?_eq_none_iff.1 supplied) failed
  · rintro (⟨fields, required, absent, first⟩ | ⟨supplied, failed⟩)
    · exact .inl ⟨_, lackedField?_eq_some_iff.2 ⟨⟨required, absent⟩, _, _, fields, first⟩, rfl⟩
    · exact .inr ⟨lackedField?_eq_none_iff.2 supplied, _, failed, rfl⟩

/-! ## One binding after the other -/

theorem exists_bindVariable_iff {bound : Variables} :
    (∃ bound', t.bindVariable formats r bound (name, b) = .ok bound') ↔
      t.Bindable formats r b := by
  rw [← exists_variableValue_iff name]
  constructor
  · rintro ⟨bound', h⟩
    obtain ⟨v, value, -⟩ := bind_eq_ok.1 h
    exact ⟨v, value⟩
  · rintro ⟨v, value⟩
    cases v with
    | none => exact ⟨bound, bind_eq_ok.2 ⟨none, value, rfl⟩⟩
    | some v => exact ⟨bound.insert name v, bind_eq_ok.2 ⟨some v, value, rfl⟩⟩

theorem bindVariable_eq_error_iff {bound : Variables} :
    t.bindVariable formats r bound (name, b) = .error e ↔ t.FailsAt formats r name b e := by
  rw [← variableValue_eq_error_iff_failsAt, bindVariable, bind_eq_error]
  refine or_iff_left ?_
  rintro ⟨v, -, failed⟩
  cases v <;> cases failed

theorem exists_foldlM_iff {es : List (String × Binding)} {bound : Variables} :
    (∃ values, es.foldlM (t.bindVariable formats r) bound = .ok values) ↔
      ∀ e ∈ es, t.Bindable formats r e.2 := by
  induction es generalizing bound with
  | nil => simp [pure_eq_ok]
  | cons e es ih =>
    obtain ⟨name, b⟩ := e
    simp only [List.foldlM_cons, List.forall_mem_cons, bind_eq_ok]
    constructor
    · rintro ⟨values, bound', step, rest⟩
      exact ⟨exists_bindVariable_iff.1 ⟨bound', step⟩, ih.1 ⟨values, rest⟩⟩
    · rintro ⟨bindable, others⟩
      obtain ⟨bound', step⟩ := exists_bindVariable_iff.2 bindable
      obtain ⟨values, rest⟩ := ih.2 others
      exact ⟨values, bound', step, rest⟩

/-! ## All bindings -/

theorem exists_bind_iff :
    (∃ values, t.bind formats r = .ok values) ↔
      ∀ name b, t.bindings.get? name = some b → t.Bindable formats r b := by
  simp only [bind, exists_foldlM_iff, get?_eq_some_iff, Prod.forall]

/-- The bindings before an entry are those of the earlier names. -/
theorem mem_before_iff {before after : List (String × Binding)} {e : String × Binding}
    (entries : t.bindings.entries = before ++ (name, b) :: after) :
    e ∈ before ↔ e.1 < name ∧ t.bindings.get? e.1 = some e.2 := by
  have ordered := t.bindings.ordered
  rw [entries, List.pairwise_append, List.pairwise_cons] at ordered
  rw [get?_eq_some_iff, entries, List.mem_append, List.mem_cons]
  constructor
  · intro he
    exact ⟨ordered.2.2 e he _ List.mem_cons_self, .inl he⟩
  · rintro ⟨hlt, he | he | he⟩
    · exact he
    · cases he
      exact absurd hlt (String.lt_irrefl _)
    · exact absurd (String.lt_trans hlt (ordered.2.1.1 e he)) (String.lt_irrefl _)

theorem bind_eq_error_iff :
    t.bind formats r = .error e ↔
      ∃ name b, t.bindings.get? name = some b ∧ t.FailsAt formats r name b e ∧
        ∀ earlier b', earlier < name → t.bindings.get? earlier = some b' →
          t.Bindable formats r b' := by
  rw [bind, foldlM_eq_error_iff]
  constructor
  · rintro ⟨before, ⟨name, b⟩, after, bound, entries, passed, failed⟩
    refine ⟨name, b, ?_, bindVariable_eq_error_iff.1 failed, fun earlier b' hlt hb' => ?_⟩
    · rw [get?_eq_some_iff, entries]
      exact List.mem_append_right _ List.mem_cons_self
    · exact exists_foldlM_iff.1 ⟨bound, passed⟩ (earlier, b')
        ((mem_before_iff entries).2 ⟨hlt, hb'⟩)
  · rintro ⟨name, b, hb, failed, earlier⟩
    obtain ⟨before, after, entries⟩ := List.append_of_mem (get?_eq_some_iff.1 hb)
    have passed : ∀ e ∈ before, t.Bindable formats r e.2 := fun e he =>
      have first := (mem_before_iff entries).1 he
      earlier e.1 e.2 first.1 first.2
    obtain ⟨bound, passed⟩ := exists_foldlM_iff.2 passed
    exact ⟨before, (name, b), after, bound, entries, passed, bindVariable_eq_error_iff.2 failed⟩

/-- These are the variables of the record: every binding works out, and those with a field that is
there have their values. -/
structure Binds (t : Template) (formats : DateFormats) (r : Record) (values : Variables) :
    Prop where
  bindable : ∀ name b, t.bindings.get? name = some b → t.Bindable formats r b
  value_iff : ∀ name v, values.get? name = some v ↔
    ∃ b, t.bindings.get? name = some b ∧ b.evaluate formats r = .ok (some v)
  contains_iff : ∀ name, values.contains name = true ↔
    ∃ b, t.bindings.get? name = some b ∧ ∃ field ∈ b.fields, r.Provides field

theorem binds_of_bind (h : t.bind formats r = .ok values) : t.Binds formats r values := by
  have bindable := exists_bind_iff.1 ⟨values, h⟩
  have value_iff (name : String) (v : Json) : values.get? name = some v ↔
      ∃ b, t.bindings.get? name = some b ∧ b.evaluate formats r = .ok (some v) := by
    rw [bind_get?_eq_some_iff h]
    refine exists_congr fun b => and_congr_right fun hb => ?_
    rw [variableValue_eq_ok_iff, lackedField?_eq_none_iff]
    exact and_iff_right (bindable name b hb).1
  refine ⟨bindable, value_iff, fun name => ?_⟩
  rw [contains, Option.isSome_iff_exists]
  constructor
  · rintro ⟨v, hv⟩
    obtain ⟨b, hb, evaluated⟩ := (value_iff name v).1 hv
    refine ⟨b, hb, Classical.byContradiction fun none => ?_⟩
    have left := (Binding.evaluate_eq_none_iff evaluated).2 fun field hf provides =>
      none ⟨field, hf, provides⟩
    cases left
  · rintro ⟨b, hb, field, hf, provides⟩
    obtain ⟨-, v, evaluated⟩ := bindable name b hb
    cases v with
    | none => exact absurd provides ((Binding.evaluate_eq_none_iff evaluated).1 rfl field hf)
    | some v => exact ⟨v, (value_iff name v).2 ⟨b, hb, evaluated⟩⟩

theorem bind_eq_ok_iff : t.bind formats r = .ok values ↔ t.Binds formats r values := by
  refine ⟨binds_of_bind, fun h => ?_⟩
  obtain ⟨values', bound⟩ := exists_bind_iff.2 h.bindable
  have same : values' = values := Dict.ext_get? fun name => Option.ext fun v => by
    rw [(binds_of_bind bound).value_iff, h.value_iff]
  rw [bound, same]

/-- **Exactly the bindable variables are bound.** The variables of a record can
be bound if and only if the record has every field that a binding reads and the
template requires, and every binding works out. Then they are the variables
with a field that is there, each with what its binding gives. Otherwise the
error is that of the first variable, by name, that cannot be bound: the first
field that it lacks, or else what went wrong with its value. -/
theorem bind_bindable (t : Template) (formats : DateFormats) (r : Record) :
    ((∃ values, t.bind formats r = .ok values) ↔
      ∀ name b, t.bindings.get? name = some b → t.Bindable formats r b) ∧
    (∀ values, t.bind formats r = .ok values ↔ t.Binds formats r values) ∧
    ∀ e, t.bind formats r = .error e ↔
      ∃ name b, t.bindings.get? name = some b ∧ t.FailsAt formats r name b e ∧
        ∀ earlier b', earlier < name → t.bindings.get? earlier = some b' →
          t.Bindable formats r b' :=
  ⟨exists_bind_iff, fun _ => bind_eq_ok_iff, fun _ => bind_eq_error_iff⟩

end Template

end ContractDocs
