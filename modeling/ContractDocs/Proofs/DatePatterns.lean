/-
Date patterns of a catalog: what the check of a binding promises, and what it
leaves to the records. The check reads the pattern; but a pattern may ask for
a time of day or an offset, and a date has neither.

`Binding.written_iff_of_checked`: among the bindings that pass, those whose
pattern asks for no time write every date, and no payload fails for such a
pattern; the others write none.
`Binding.not_written_of_checked`: there are others.
-/
import ContractDocs.Proofs.Outcomes

namespace ContractDocs

open Calendar Checks

/-! ## Bindings -/

theorem DateFormats.parse_ne_badPattern {formats : DateFormats} {text pattern : String} :
    formats.parse text ≠ .error (.badPattern pattern) := by
  rw [parse]
  split
  · simp
  · split <;> simp

/-- Of the transforms only a date fails for a pattern, and that when it is written. -/
theorem Transform.formatDate_of_apply_eq_badPattern {f : Transform} {formats : DateFormats}
    {v : Json} {pattern : String} (h : f.apply formats v = .error (.date (.badPattern pattern))) :
    ∃ d, formatDate d pattern = .error (.badPattern pattern) := by
  cases f with
  | trim | uppercaseAlphanumeric => cases h
  | scale factor decimals =>
    simp only [apply] at h
    split at h
    · cases h
    · split at h <;> cases h
  | dateFormat written =>
    simp only [apply] at h
    split at h
    · next unread =>
      -- A text that is no date does not speak of patterns.
      cases h
      exact absurd unread DateFormats.parse_ne_badPattern
    · next d _ =>
      split at h
      · next unwritten =>
        cases h
        cases (formatDate_eq_error_iff.1 unwritten).1
        exact ⟨d, unwritten⟩
      · cases h

namespace Binding

variable {b : Binding} {pattern : String} {formats : DateFormats} {r : Record}

/-- What a binding makes of an input that reads as a date. -/
theorem evaluate_of_date (writes : b.transform = some (.dateFormat pattern)) {v : Json} {d : Date}
    (read : b.source.read? r = some v) (date : formats.parse v.display = .ok d) :
    b.evaluate formats r =
      ((formatDate d pattern).mapError .date).map fun text => some (.string text) := by
  rw [evaluate, read, writes]
  simp only [Transform.apply, date]
  cases formatDate d pattern <;> rfl

theorem formatDate_of_evaluate_eq_badPattern
    (h : b.evaluate formats r = .error (.date (.badPattern pattern))) :
    ∃ d, formatDate d pattern = .error (.badPattern pattern) := by
  rw [evaluate] at h
  split at h
  · cases h
  · split at h
    · cases h
    · exact Transform.formatDate_of_apply_eq_badPattern (map_eq_error.1 h)

/-- The check reads the pattern. -/
theorem exists_pattern_of_checked (writes : b.transform = some (.dateFormat pattern))
    (checked : b.problem? = none) : ∃ ps, Pattern.ofText? pattern = some ps := by
  rw [← checkDatePattern_eq_ok_iff]
  rw [problem?, writes] at checked
  split at checked
  · cases checked
  · split at checked
    · cases checked
    · cases check : checkDatePattern pattern with
      | ok u => rfl
      | error e => simp [check] at checked

theorem exists_evaluate_of_plain (writes : b.transform = some (.dateFormat pattern)) {ps : Pattern}
    (reads : Pattern.ofText? pattern = some ps) (plain : ps.asksTime = false) {v : Json} {d : Date}
    (read : b.source.read? r = some v) (date : formats.parse v.display = .ok d) :
    ∃ text, b.evaluate formats r = .ok (some (.string text)) := by
  obtain ⟨text, written⟩ := (exists_formatDate_iff (d := d)).2 ⟨ps, reads, plain⟩
  rw [evaluate_of_date writes read date, written]
  exact ⟨text, rfl⟩

theorem evaluate_of_asksTime (writes : b.transform = some (.dateFormat pattern)) {ps : Pattern}
    (reads : Pattern.ofText? pattern = some ps) (asks : ps.asksTime = true) {v : Json} {d : Date}
    (read : b.source.read? r = some v) (date : formats.parse v.display = .ok d) :
    b.evaluate formats r = .error (.date (.badPattern pattern)) := by
  have unwritten : formatDate d pattern = .error (.badPattern pattern) :=
    formatDate_eq_error_iff.2 ⟨rfl, fun ps' reads' => by
      rw [reads, Option.some.injEq] at reads'
      rw [← reads', asks]⟩
  rw [evaluate_of_date writes read date, unwritten]
  rfl

end Binding

/-! ## Payloads -/

/-- A pattern for which a payload fails asks for a time, if it is a pattern at all. -/
theorem Registry.asksTime_of_payload_eq_badPattern {reg : Registry} {formats : DateFormats}
    {typeId : String} {r : Record} {name pattern : String}
    (h : reg.payload formats typeId r = .error (.transformFailed name (.date (.badPattern pattern)))) :
    ∀ ps, Pattern.ofText? pattern = some ps → ps.asksTime = true := by
  rcases payload_eq_error_iff.1 h with unlinked | ⟨t, linked, unbound⟩
  · -- Without a template no binding is tried, and the failure is another one.
    exact absurd (.transform name _) (not_atVariable_of_linkedTemplate_eq_error unlinked)
  · obtain ⟨_, b, bound, failed⟩ := Template.exists_of_bind_eq_error unbound
    rcases Template.variableValue_eq_error_iff.1 failed with ⟨_, -, he⟩ | ⟨-, e, failed, he⟩
    · cases he
    · cases he
      obtain ⟨d, unwritten⟩ := Binding.formatDate_of_evaluate_eq_badPattern failed
      exact (formatDate_eq_error_iff.1 unwritten).2

/-! ## What the check is worth -/

/-- **A checked binding writes the dates that it reads exactly if its pattern
asks for no time of day and no offset.** It then writes all of them, and no
payload fails for the pattern; otherwise it fails on every one, for the
pattern. -/
theorem Binding.written_iff_of_checked {b : Binding} {pattern : String}
    (writes : b.transform = some (.dateFormat pattern)) (checked : b.problem? = none) :
    ∃ ps, Pattern.ofText? pattern = some ps ∧
      (∀ (formats : DateFormats) (r : Record) (v : Json) (d : Date),
        b.source.read? r = some v → formats.parse v.display = .ok d →
          ((∃ text, b.evaluate formats r = .ok (some (.string text))) ↔ ps.asksTime = false) ∧
          (ps.asksTime = true → b.evaluate formats r = .error (.date (.badPattern pattern)))) ∧
      (ps.asksTime = false →
        ∀ (reg : Registry) (s : Settings) (typeId : String) (r : Record) (name : String),
          reg.payload s.dateFormats typeId r ≠
            .error (.transformFailed name (.date (.badPattern pattern)))) := by
  obtain ⟨ps, reads⟩ := exists_pattern_of_checked writes checked
  refine ⟨ps, reads, fun formats r v d read date => ?_,
    fun plain reg s typeId r name failed => ?_⟩
  · have failing := fun asks => evaluate_of_asksTime writes reads asks read date
    refine ⟨⟨?_, fun plain => exists_evaluate_of_plain writes reads plain read date⟩, failing⟩
    rintro ⟨text, written⟩
    rw [Bool.eq_false_iff]
    intro asks
    rw [failing asks] at written
    cases written
  · have asks := Registry.asksTime_of_payload_eq_badPattern failed ps reads
    rw [plain] at asks
    cases asks

/-- The day on which a contract starts. -/
def firstDay : Binding := .date Field.startDate.name "%d.%m.%Y"

/-- The time at which a contract starts, which the day does not tell. -/
def firstHour : Binding := .date Field.startDate.name "%H:%M"

/-- A letter with the day and the time at which the contract starts. -/
def timedLetters : Catalog where
  contractTypes := [{ ContractType.new "notice" "Notice" "letters" with
    requiredFields := [Field.startDate.name]
    templateId := some "letter" }]
  templates := [((Template.new "letter" "Letter" "letters" "ref-1").withBinding "day" firstDay
    "First day").withBinding "hour" firstHour "Time of the first day"]

def newYear : Record := Dict.empty.insert Field.startDate.name (.string "2024-01-01")

/-- Both bindings pass; the day is written, and the time is not. -/
theorem Binding.written_iff_of_checked_newYear :
    firstDay.problem? = none ∧ firstHour.problem? = none ∧
      (∃ text, firstDay.evaluate .standard newYear = .ok (some (.string text))) ∧
      firstHour.evaluate .standard newYear = .error (.date (.badPattern "%H:%M")) := by
  obtain ⟨day, readsDay, dates, -⟩ := written_iff_of_checked (b := firstDay) rfl rfl
  obtain ⟨hour, readsHour, times, -⟩ := written_iff_of_checked (b := firstHour) rfl rfl
  have plain : day.asksTime = false := by
    cases readsDay
    rfl
  have asks : hour.asksTime = true := by
    cases readsHour
    rfl
  exact ⟨rfl, rfl, (dates .standard newYear _ _ rfl rfl).1.2 plain,
    (times .standard newYear _ _ rfl rfl).2 asks⟩

/-- A binding that passes, and a record whose date is read, but no value; so a catalog that builds
under strict coverage fails on a valid record. -/
theorem Binding.not_written_of_checked :
    firstHour.problem? = none ∧
      (∃ v d, firstHour.source.read? newYear = some v ∧
        DateFormats.standard.parse v.display = .ok d) ∧
      (¬ ∃ w, firstHour.evaluate .standard newYear = .ok (some w)) ∧
      timedLetters.build true = .ok timedLetters.registry ∧
      (timedLetters.registry.validate Settings.standard.dateRules "notice" newYear).isValid = true ∧
      timedLetters.registry.payload Settings.standard.dateFormats "notice" newYear =
        .error (.transformFailed "hour" (.date (.badPattern "%H:%M"))) := by
  have failed : firstHour.evaluate .standard newYear = .error (.date (.badPattern "%H:%M")) := by
    rfl
  refine ⟨rfl, ⟨_, _, rfl, rfl⟩, ?_, rfl, rfl, rfl⟩
  rintro ⟨w, written⟩
  rw [failed] at written
  cases written

end ContractDocs
