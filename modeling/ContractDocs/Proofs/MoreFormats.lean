/-
More date formats: what becomes of documents when further patterns are
accepted. The patterns are tried in their order and the new ones come last, so
what could be read is read as before, and only what could not be read may
become a date.

Whatever stops a document can change that way, so little is kept of a record
that is not valid. But a payload is there only if every date that it depends on
was read, in the validation (`ContractType.Legal.validate_eq`) and in the
bindings (`Template.Binds.of_readsAs`).
-/
import ContractDocs.Catalog.Samples
import ContractDocs.Proofs.BoundVariables
import ContractDocs.Proofs.Outcomes

namespace ContractDocs

open Calendar Checks

/-- What these formats read, the others read as the same date. -/
def DateFormats.ReadsAs (formats formats' : DateFormats) : Prop :=
  ∀ text d, formats.parse text = .ok d → formats'.parse text = .ok d

/-- The formats with further patterns after their own. -/
def DateFormats.followedBy (formats : DateFormats) (more : List String) : DateFormats :=
  ⟨formats.patterns ++ more⟩

/-- The settings with further formats accepted. -/
def Settings.accepting (s : Settings) (more : List String) : Settings :=
  { s with dateFormats := s.dateFormats.followedBy more }

theorem DateFormats.readsAs_followedBy (formats : DateFormats) (more : List String) :
    formats.ReadsAs (formats.followedBy more) := by
  intro text d read
  rw [parse] at read ⊢
  split at read
  · cases read
  · next given =>
    rw [if_neg given, followedBy, List.findSome?_append]
    cases iso : parseIso? (Text.trimChars text.toList) with
    | some first =>
      rw [iso] at read
      exact read
    | none =>
      rw [iso] at read
      cases own : formats.patterns.findSome? (parseBy? · (Text.trimChars text.toList)) with
      | some first =>
        rw [own] at read
        exact read
      | none =>
        rw [own] at read
        cases read

variable {formats formats' : DateFormats} {r : Record}

/-! ## Validation -/

/-- A field that is no bad date is read as before: it is absent, or a date. -/
theorem Record.date_eq_of_readsAs (h : formats.ReadsAs formats') {f : Field}
    (readable : r.DateIfAny formats f) : r.date formats' f.name = r.date formats f.name := by
  rw [date, date]
  cases there : r.present? f.name with
  | none => rfl
  | some v =>
    obtain ⟨d, w, hw, hd⟩ := readable (provides_iff.2 ⟨v, there⟩)
    obtain rfl := Option.some.inj (there.symm.trans hw)
    simp only [Reading.ofPresent, hd, h _ _ hd]

/-- Of a legal record nothing else is found. -/
theorem ContractType.Legal.validate_eq {t : ContractType} {policy : DurationPolicy}
    (h : formats.ReadsAs formats') (legal : t.Legal ⟨policy, formats⟩ r) :
    t.validate ⟨policy, formats'⟩ r = t.validate ⟨policy, formats⟩ r := by
  have dates : t.dateFindings ⟨policy, formats'⟩ r = t.dateFindings ⟨policy, formats⟩ r := by
    simp only [dateFindings, Record.date_eq_of_readsAs h legal.startDate,
      Record.date_eq_of_readsAs h legal.endDate]
  rw [validate, validate, dates]

theorem Registry.validate_eq_of_readsAs {reg : Registry} {policy : DurationPolicy}
    {typeId : String} (h : formats.ReadsAs formats')
    (valid : (reg.validate ⟨policy, formats⟩ typeId r).isValid = true) :
    reg.validate ⟨policy, formats'⟩ typeId r = reg.validate ⟨policy, formats⟩ typeId r := by
  obtain ⟨t, type, legal⟩ := legal_of_isValid valid
  rw [validate, validate, type]
  exact legal.validate_eq h

/-! ## Variables -/

theorem Transform.apply_of_readsAs (h : formats.ReadsAs formats') {f : Transform} {v w : Json}
    (applied : f.apply formats v = .ok w) : f.apply formats' v = .ok w := by
  cases f with
  | trim | uppercaseAlphanumeric | scale => exact applied
  | dateFormat pattern =>
    rw [apply] at applied ⊢
    cases read : formats.parse v.display with
    | error e =>
      rw [read] at applied
      cases applied
    | ok d =>
      rw [read] at applied
      rwa [h _ _ read]

theorem Binding.evaluate_of_readsAs (h : formats.ReadsAs formats') {b : Binding}
    {v : Option Json} (evaluated : b.evaluate formats r = .ok v) :
    b.evaluate formats' r = .ok v := by
  rw [evaluate] at evaluated ⊢
  cases read : b.source.read? r with
  | none =>
    rw [read] at evaluated
    exact evaluated
  | some input =>
    rw [read] at evaluated
    cases transform : b.transform with
    | none =>
      rw [transform] at evaluated
      exact evaluated
    | some f =>
      rw [transform] at evaluated
      obtain ⟨w, applied, rfl⟩ := map_eq_ok.1 evaluated
      exact map_eq_ok.2 ⟨w, f.apply_of_readsAs h applied, rfl⟩

/-- Variables that can be bound are bound to the same values. -/
theorem Template.Binds.of_readsAs {t : Template} {values : Variables}
    (h : formats.ReadsAs formats') (binds : t.Binds formats r values) :
    t.Binds formats' r values := by
  refine ⟨fun name b hb => ?_, fun name v => ?_, binds.contains_iff⟩
  · obtain ⟨supplied, v, evaluated⟩ := binds.bindable name b hb
    exact ⟨supplied, v, b.evaluate_of_readsAs h evaluated⟩
  · rw [binds.value_iff]
    refine exists_congr fun b => and_congr_right fun hb => ?_
    obtain ⟨-, w, evaluated⟩ := binds.bindable name b hb
    rw [evaluated, b.evaluate_of_readsAs h evaluated]

/-! ## Requests -/

namespace Registry

variable {reg : Registry} {typeId : String}

theorem payload_of_readsAs (h : formats.ReadsAs formats') {p : Payload}
    (made : reg.payload formats typeId r = .ok p) : reg.payload formats' typeId r = .ok p := by
  obtain ⟨t, values, linked, bound, rfl⟩ := payload_eq_ok_iff.1 made
  have binds := (Template.bind_eq_ok_iff.1 bound).of_readsAs h
  exact payload_eq_ok_iff.2 ⟨t, values, linked, Template.bind_eq_ok_iff.2 binds, rfl⟩

/-- **Accepting more date formats changes no document** that there is: a
request that has a payload comes to the same with further formats after those
that are accepted, the payload with its fingerprint, the findings, the
blueprint and the error. -/
theorem process_accepting (reg : Registry) (s : Settings) (q : Request) (more : List String)
    (made : (reg.process s q).payload.isSome = true) :
    reg.process (s.accepting more) q = reg.process s q := by
  obtain ⟨p, hp⟩ := Option.isSome_iff_exists.1 made
  obtain ⟨valid, compiled⟩ := process_payload_eq_some_iff.1 hp
  have reads := s.dateFormats.readsAs_followedBy more
  have completed : reg.complete (s.accepting more) q.typeId q.record =
      reg.complete s q.typeId q.record := rfl
  have validation : reg.validate (s.accepting more).dateRules q.typeId
      (reg.complete s q.typeId q.record).1 =
        reg.validate s.dateRules q.typeId (reg.complete s q.typeId q.record).1 :=
    validate_eq_of_readsAs reads valid
  have payload : reg.payload (s.accepting more).dateFormats q.typeId
      (reg.complete s q.typeId q.record).1 =
        reg.payload s.dateFormats q.typeId (reg.complete s q.typeId q.record).1 := by
    rw [compiled]
    exact payload_of_readsAs reads compiled
  have blueprint : reg.blueprintIfWanted (s.accepting more) q.typeId q.wantBlueprint =
      reg.blueprintIfWanted s q.typeId q.wantBlueprint := rfl
  simp only [process, payloadIfValid, completed, validation, payload, blueprint]

end Registry

/-- Employment that starts on the fifth of June, written with the day first. -/
def juneStart : Request where
  typeId := Catalog.Builtin.unlimitedType.id
  record := Catalog.Samples.employment.insert Field.startDate.name (.string "05/06/2024")
  wantBlueprint := true

/-- With the month first the text would be a day in May, but the document is as it was. -/
theorem Registry.process_accepting_juneStart :
    (Catalog.builtin.registry.process .standard juneStart).payload.isSome = true ∧
      ((DateFormats.mk ["%m/%d/%Y"]).parse "05/06/2024").toOption.map Date.text =
        some "2024-05-06" ∧
      Catalog.builtin.registry.process (Settings.standard.accepting ["%m/%d/%Y"]) juneStart =
        Catalog.builtin.registry.process .standard juneStart := by
  have made : (Catalog.builtin.registry.process .standard juneStart).payload.isSome = true := by
    decide +kernel
  exact ⟨made, by decide +kernel, process_accepting _ .standard juneStart _ made⟩

end ContractDocs
