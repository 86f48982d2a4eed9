/-
The variables of a document: which value each of them has. A variable is
bound once, so what its binding gives is neither lost nor overwritten by the
bindings before and after it.

`Template.bind_get?_eq_some_iff`: the value of a variable.
-/
import ContractDocs.Payload
import ContractDocs.Proofs.Checks

namespace ContractDocs

open Checks Dict

namespace Template

variable {t : Template} {formats : DateFormats} {r : Record}

/-- One binding adds the value of its variable, if it has one. -/
theorem get?_of_bindVariable {bound bound' : Variables} {name : String} {b : Binding}
    (h : t.bindVariable formats r bound (name, b) = .ok bound') (fresh : bound.get? name = none)
    (k : String) (v : Json) :
    bound'.get? k = some v ↔
      bound.get? k = some v ∨ k = name ∧ t.variableValue formats r name b = .ok (some v) := by
  obtain ⟨w, hw, h⟩ := bind_eq_ok.1 h
  by_cases hk : k = name
  · subst hk
    cases w with
    | none =>
      rw [pure_eq_ok.1 h]
      simp [fresh, hw]
    | some w =>
      rw [pure_eq_ok.1 h]
      simp [fresh, hw]
  · cases w with
    | none =>
      rw [pure_eq_ok.1 h]
      simp [hk]
    | some w =>
      rw [pure_eq_ok.1 h, get?_insert_other bound w hk]
      simp [hk]

/-- Bindings of different variables, none of them bound before, add their
values one after the other. -/
theorem get?_of_foldlM_bindVariable {es : List (String × Binding)}
    (ordered : es.Pairwise fun e f => e.1 < f.1) :
    ∀ {bound values : Variables}, es.foldlM (t.bindVariable formats r) bound = .ok values →
      (∀ e ∈ es, bound.get? e.1 = none) → ∀ (k : String) (v : Json),
        values.get? k = some v ↔ bound.get? k = some v ∨
          ∃ b, (k, b) ∈ es ∧ t.variableValue formats r k b = .ok (some v) := by
  induction es with
  | nil =>
    intro bound values h _ k v
    rw [pure_eq_ok.1 h]
    simp
  | cons e es ih =>
    intro bound values h fresh k v
    obtain ⟨name, b⟩ := e
    rw [List.pairwise_cons] at ordered
    rw [List.forall_mem_cons] at fresh
    rw [List.foldlM_cons, bind_eq_ok] at h
    obtain ⟨bound', step, rest⟩ := h
    have added := get?_of_bindVariable step fresh.1
    have fresh' : ∀ e ∈ es, bound'.get? e.1 = none := by
      intro e he
      rw [Option.eq_none_iff_forall_ne_some]
      intro w hw
      rcases (added e.1 w).1 hw with hw | ⟨same, -⟩
      · rw [fresh.2 e he] at hw
        cases hw
      · exact String.lt_irrefl name (same ▸ ordered.1 e he)
    rw [ih ordered.2 rest fresh' k v, added k v, or_assoc]
    refine or_congr_right ?_
    constructor
    · rintro (⟨rfl, hv⟩ | ⟨b', hb', hv⟩)
      · exact ⟨b, List.mem_cons_self, hv⟩
      · exact ⟨b', List.mem_cons_of_mem _ hb', hv⟩
    · rintro ⟨b', hb', hv⟩
      rcases List.mem_cons.1 hb' with heq | hb'
      · cases heq
        exact .inl ⟨rfl, hv⟩
      · exact .inr ⟨b', hb', hv⟩

/-- **A variable has the value** that its binding gives, and a variable that
is not bound has none. -/
theorem bind_get?_eq_some_iff {values : Variables} (h : t.bind formats r = .ok values)
    {name : String} {v : Json} :
    values.get? name = some v ↔
      ∃ b, t.bindings.get? name = some b ∧ t.variableValue formats r name b = .ok (some v) := by
  rw [get?_of_foldlM_bindVariable t.bindings.ordered h (by simp) name v]
  simp only [get?_empty, reduceCtorEq, false_or, get?_eq_some_iff]

/-- If the variables can be bound, each of them can. -/
theorem exists_variableValue_of_bind {values : Variables} (h : t.bind formats r = .ok values)
    {name : String} {b : Binding} (hb : t.bindings.get? name = some b) :
    ∃ v, t.variableValue formats r name b = .ok v := by
  obtain ⟨bound, bound', step⟩ := exists_of_foldlM_eq_ok h (name, b) (get?_eq_some_iff.1 hb)
  obtain ⟨v, hv, -⟩ := bind_eq_ok.1 step
  exact ⟨v, hv⟩

theorem variableValue_eq_ok_iff {name : String} {b : Binding} {v : Option Json} :
    t.variableValue formats r name b = .ok v ↔
      t.lackedField? r b = none ∧ b.evaluate formats r = .ok v := by
  rw [variableValue]
  cases t.lackedField? r b with
  | none => simp [mapError_eq_ok]
  | some field => simp

end Template

theorem Transform.apply_scale_eq_ok_iff {formats : DateFormats} {v w : Json} {factor : Float}
    {decimals : Option UInt32} :
    (Transform.scale factor decimals).apply formats v = .ok w ↔
      ∃ x, v.quantity? = some x ∧ (scaled x factor decimals).isFinite = true ∧
        w = .float (scaled x factor decimals) := by
  rw [apply]
  cases v.quantity? with
  | none => simp
  | some x =>
    simp only [Option.some.injEq, exists_eq_left']
    split
    · next h => simp [h, @eq_comm _ w]
    · next h => simp [h]

/-- What a binding with a transform makes of one field. -/
theorem Binding.evaluate_field_eq_some_iff {field : String} {f : Transform} {formats : DateFormats}
    {r : Record} {w : Json} :
    (⟨.field field, some f⟩ : Binding).evaluate formats r = .ok (some w) ↔
      ∃ v, r.present? field = some v ∧ f.apply formats v = .ok w := by
  simp only [evaluate, Source.read?]
  cases r.present? field with
  | none => simp
  | some v => simp [map_eq_ok]

/-- A variable that a field is transformed for has the transformed value of the field. -/
theorem Template.exists_of_bind_field {t : Template} {formats : DateFormats} {r : Record}
    {values : Variables} (h : t.bind formats r = .ok values) {name field : String} {f : Transform}
    (hb : t.bindings.get? name = some ⟨.field field, some f⟩) {w : Json}
    (hw : values.get? name = some w) :
    ∃ v, r.present? field = some v ∧ f.apply formats v = .ok w := by
  obtain ⟨b, hbound, hvalue⟩ := (bind_get?_eq_some_iff h).1 hw
  obtain rfl := Option.some.inj (hb.symm.trans hbound)
  exact Binding.evaluate_field_eq_some_iff.1 (variableValue_eq_ok_iff.1 hvalue).2

theorem Registry.payload_eq_ok_iff {reg : Registry} {formats : DateFormats} {typeId : String}
    {r : Record} {p : Payload} :
    reg.payload formats typeId r = .ok p ↔
      ∃ t values, reg.linkedTemplate typeId = .ok t ∧ t.bind formats r = .ok values ∧
        p = ⟨typeId, t.externalRef, t.outputFormat, values,
          t.storage.map fun s => s.render values⟩ := by
  simp only [payload, Template.payload, bind_eq_ok, pure_eq_ok]
  constructor
  · rintro ⟨t, ht, values, hvalues, rfl⟩
    exact ⟨t, values, ht, hvalues, rfl⟩
  · rintro ⟨t, values, ht, hvalues, rfl⟩
    exact ⟨t, ht, values, hvalues, rfl⟩

end ContractDocs
