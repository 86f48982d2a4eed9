/-
Fields that cannot be read: a date that is none, a number that is none. Such a
field counts as absent, and one error says that it could not be read.

`Finds.unreadable_of_isAbout`: all else that there is to say of a field is said
of its date or its number. So of a field that cannot be read there is one thing
to say and of an absent one nothing, and the other findings do not know the
field (`drops_otherFindings`). The lines about required fields are told apart:
the field is now one of the absent ones, in its place among them.
-/
import ContractDocs.Proofs.Locality

namespace ContractDocs

/-- The field is there and cannot be read, and this is said of it. -/
inductive Record.Unreadable (r : Record) (formats : DateFormats) : Field → Finding → Prop
  | date {f : Field} (dated : f ∈ ContractType.dateFields) (invalid : ¬ r.DateIfAny formats f) :
    Unreadable r formats f (.notADate f)
  | number {f : Field} (numeric : f ∈ ContractType.numericFields) (invalid : ¬ r.NumberIfAny f) :
    Unreadable r formats f (.notANumber f)

/-- The field is to have a date or a number, and has none. -/
inductive Record.Unread (r : Record) (formats : DateFormats) (f : Field) : Prop
  | date (dated : f ∈ ContractType.dateFields) (none : ∀ d, ¬ r.HasDate formats f d)
  | number (numeric : f ∈ ContractType.numericFields) (none : ∀ x, ¬ r.HasNumber f x)

theorem Field.name_injective : Function.Injective Field.name := by
  intro f g h
  cases f <;> cases g <;> simp [name] at h ⊢

/-- No field is read in both ways. -/
theorem ContractType.not_mem_numericFields {f : Field} (dated : f ∈ dateFields) :
    f ∉ numericFields := by
  cases f <;> revert dated <;> decide

namespace Record

variable {r : Record} {formats : DateFormats} {f : Field} {complaint : Finding}

theorem present?_erase_self (r : Record) (field : String) :
    present? (r.erase field) field = none := by
  rw [present?, Dict.get?_erase_self, Option.filter_none]

theorem present?_erase_other (r : Record) {field other : String} (h : other ≠ field) :
    present? (r.erase field) other = r.present? other := by
  rw [present?, Dict.get?_erase_other r h, present?]

namespace Unreadable

theorem provides (h : r.Unreadable formats f complaint) : r.Provides f.name := by
  cases h with
  | date dated invalid => exact (Classical.not_imp.1 invalid).1
  | number numeric invalid => exact (Classical.not_imp.1 invalid).1

theorem rejects (h : r.Unreadable formats f complaint) : complaint.rejects = true := by
  cases h <;> rfl

theorem isAbout (h : r.Unreadable formats f complaint) : complaint.isAbout f.name = true := by
  cases h <;> simp [Finding.isAbout, Finding.fields]

theorem unique {other : Finding} (h : r.Unreadable formats f complaint)
    (h' : r.Unreadable formats f other) : other = complaint := by
  cases h with
  | date dated invalid =>
    cases h' with
    | date => rfl
    | number numeric => exact absurd numeric (ContractType.not_mem_numericFields dated)
  | number numeric invalid =>
    cases h' with
    | date dated => exact absurd numeric (ContractType.not_mem_numericFields dated)
    | number => rfl

theorem unread (h : r.Unreadable formats f complaint) : r.Unread formats f := by
  cases h with
  | date dated invalid => exact .date dated fun d hd => invalid fun _ => ⟨d, hd⟩
  | number numeric invalid =>
    refine .number numeric fun x hx => invalid fun _ => ⟨x, hx, ?_⟩
    obtain ⟨v, -, hv⟩ := hx
    exact Json.isFinite_of_quantity? hv

theorem erase (h : r.Unreadable formats f complaint) : Unread (r.erase f.name) formats f := by
  have gone : field? (r.erase f.name) f = none := r.present?_erase_self f.name
  cases h with
  | date dated invalid =>
    refine .date dated fun d hd => ?_
    obtain ⟨v, there, -⟩ := hd
    cases gone.symm.trans there
  | number numeric invalid =>
    refine .number numeric fun x hx => ?_
    obtain ⟨v, there, -⟩ := hx
    cases gone.symm.trans there

theorem not_mem_requiredFindings (h : r.Unreadable formats f complaint)
    (t : ContractType) (r' : Record) : complaint ∉ t.requiredFindings r' := by
  intro mem
  obtain ⟨field, -, -, rfl⟩ := ContractType.mem_requiredFindings.1 mem
  cases h

end Unreadable

namespace Unread

theorem mem (h : r.Unread formats f) : f ∈ ContractType.errorFields := by
  cases h with
  | date dated _ => exact List.mem_append_left _ dated
  | number numeric _ => exact List.mem_append_right _ numeric

theorem not_hasDate (h : r.Unread formats f) (dated : f ∈ ContractType.dateFields)
    {d : Calendar.Date} : ¬ r.HasDate formats f d := by
  cases h with
  | date _ none => exact none d
  | number numeric _ => exact absurd numeric (ContractType.not_mem_numericFields dated)

theorem not_hasNumber (h : r.Unread formats f) (numeric : f ∈ ContractType.numericFields)
    {x : Float} : ¬ r.HasNumber f x := by
  cases h with
  | date dated _ => exact absurd numeric (ContractType.not_mem_numericFields dated)
  | number _ none => exact none x

end Unread

end Record

/-! ## One finding less -/

/-- The one list is the other without a finding. -/
def Drops (complaint : Finding) (fs gs : List Finding) : Prop :=
  ∃ before after, fs = before ++ complaint :: after ∧ gs = before ++ after

namespace Drops

variable {complaint : Finding} {fs gs : List Finding}

theorem filter (h : Drops complaint fs gs) {p : Finding → Bool} (kept : p complaint = true) :
    Drops complaint (fs.filter p) (gs.filter p) := by
  obtain ⟨before, after, rfl, rfl⟩ := h
  exact ⟨before.filter p, after.filter p, by simp [kept], by simp⟩

theorem filter_eq (h : Drops complaint fs gs) {p : Finding → Bool} (left : p complaint = false) :
    fs.filter p = gs.filter p := by
  obtain ⟨before, after, rfl, rfl⟩ := h
  simp [left]

end Drops

/-- Findings in the order of the rules have each but once. -/
theorem InOrder.not_mem {l n : Nat} {complaint : Finding} {before after : List Finding}
    (ordered : InOrder l n (before ++ complaint :: after)) : complaint ∉ before ++ after := by
  obtain ⟨-, later, earlier⟩ := List.pairwise_append.1 ordered.sorted
  rw [List.mem_append]
  rintro (h | h)
  · exact Nat.lt_irrefl _ (earlier complaint h complaint List.mem_cons_self)
  · exact Nat.lt_irrefl _ ((List.pairwise_cons.1 later).1 complaint h)

namespace ContractType

variable {t : ContractType} {rules : DateRules} {r : Record} {f : Field} {complaint : Finding}

/-! ## What there is to say of the field -/

/-- Without its date or its number there is nothing to say of a field but that it is required, or
that it could not be read. -/
theorem Finds.unreadable_of_isAbout {x : Finding} (finds : t.Finds rules r x)
    (unread : r.Unread rules.formats f) (about : x.isAbout f.name = true) :
    (∃ field, x = .missing field t.name) ∨ r.Unreadable rules.formats f x := by
  have eq_of_single {g : Field} (fields : x.fields = [g.name]) : f = g := by
    rw [Finding.isAbout, fields, List.contains_iff_mem, List.mem_singleton] at about
    exact Field.name_injective about
  cases finds with
  | missing required absent => exact .inl ⟨_, rfl⟩
  | startNotADate invalid =>
    obtain rfl := eq_of_single rfl
    exact .inr (.date (by decide) invalid)
  | endNotADate invalid =>
    obtain rfl := eq_of_single rfl
    exact .inr (.date (by decide) invalid)
  | term start stop finds =>
    rw [Finding.isAbout, finds.fields_eq, List.contains_iff_mem, List.mem_pair] at about
    rcases about with same | same
    · obtain rfl := Field.name_injective same
      exact absurd start (unread.not_hasDate (by decide))
    · obtain rfl := Field.name_injective same
      exact absurd stop (unread.not_hasDate (by decide))
  | notANumber numeric invalid =>
    obtain rfl := eq_of_single rfl
    exact .inr (.number numeric invalid)
  | belowMinimumWage salary =>
    rw [Finding.isAbout, Finding.fields, List.contains_iff_mem, List.mem_pair] at about
    rcases about with same | same
    · obtain rfl := Field.name_injective same
      exact absurd salary (unread.not_hasNumber (by decide))
    · obtain rfl := Field.name_injective same
      exact absurd unread.mem (by decide)
  | salaryDisallowed has | tooManyHours has | probationDisallowed has | probationTooLong has
  | noticeTooShort has | noticeTooLong has =>
    obtain rfl := eq_of_single rfl
    exact absurd has (unread.not_hasNumber (by decide))
  | remoteWorkDisallowed =>
    obtain rfl := eq_of_single rfl
    exact absurd unread.mem (by decide)

theorem finds_of_mem_otherFindings {x : Finding} (h : x ∈ t.otherFindings rules r) :
    t.Finds rules r x := by
  rw [← mem_findings_iff, findings_eq]
  exact List.mem_append_right _ h

theorem not_missing_of_mem_otherFindings {x : Finding} (h : x ∈ t.otherFindings rules r)
    (field name : String) : x ≠ .missing field name := by
  rintro rfl
  exact Nat.not_succ_le_zero 0 ((t.inOrder_otherFindings rules r).low _ h)

/-- Of a field that cannot be read there is one thing to say besides that it is required. -/
theorem unreadable_of_mem_otherFindings {x : Finding} (h : x ∈ t.otherFindings rules r)
    (unread : r.Unread rules.formats f) (about : x.isAbout f.name = true) :
    r.Unreadable rules.formats f x :=
  ((finds_of_mem_otherFindings h).unreadable_of_isAbout unread about).resolve_left
    fun ⟨field, same⟩ => not_missing_of_mem_otherFindings h field t.name same

theorem mem_otherFindings_of_unreadable (h : r.Unreadable rules.formats f complaint) :
    complaint ∈ t.otherFindings rules r := by
  have finds : t.Finds rules r complaint := by
    cases h with
    | date dated invalid =>
      simp only [dateFields, List.mem_cons, List.not_mem_nil, or_false] at dated
      rcases dated with rfl | rfl
      · exact .startNotADate invalid
      · exact .endNotADate invalid
    | number numeric invalid => exact .notANumber numeric invalid
  rw [← mem_findings_iff, findings_eq, List.mem_append] at finds
  exact finds.resolve_left (h.not_mem_requiredFindings t r)

/-- Nothing is said of an absent field. -/
theorem isAbout_eq_false_of_erase (h : r.Unreadable rules.formats f complaint) {x : Finding}
    (hx : x ∈ t.otherFindings rules (r.erase f.name)) : x.isAbout f.name = false := by
  refine Bool.eq_false_iff.2 fun about => ?_
  obtain ⟨v, there, blank⟩ := (unreadable_of_mem_otherFindings hx h.erase about).provides
  rw [Dict.get?_erase_self] at there
  cases there

theorem drops_otherFindings (h : r.Unreadable rules.formats f complaint) :
    Drops complaint (t.otherFindings rules r) (t.otherFindings rules (r.erase f.name)) := by
  obtain ⟨before, after, split⟩ := List.append_of_mem (mem_otherFindings_of_unreadable (t := t) h)
  have ordered := t.inOrder_otherFindings rules r
  rw [split] at ordered
  -- Whatever is about the field is the complaint, and this is there but once.
  have rest : ∀ x ∈ before ++ after, (!x.isAbout f.name) = true := fun x hx => by
    rw [Bool.not_eq_true', Bool.eq_false_iff]
    intro about
    have mem : x ∈ t.otherFindings rules r := by
      rw [split, List.mem_append, List.mem_cons]
      exact (List.mem_append.1 hx).imp_right .inr
    obtain rfl := h.unique (unreadable_of_mem_otherFindings mem h.unread about)
    exact ordered.not_mem hx
  have alike : AlikeOn (· != f.name) (t.otherFindings rules r)
      (t.otherFindings rules (r.erase f.name)) :=
    alikeOn_otherFindings fun other hk => (r.present?_erase_other (by simpa using hk)).symm
  simp only [AlikeOn, all_ne_eq_not_isAbout] at alike
  refine ⟨before, after, split, ?_⟩
  calc t.otherFindings rules (r.erase f.name)
      = (t.otherFindings rules (r.erase f.name)).filter (!·.isAbout f.name) :=
        (List.filter_eq_self.2 fun x hx => by rw [isAbout_eq_false_of_erase h hx]; rfl).symm
    _ = (before ++ complaint :: after).filter (!·.isAbout f.name) := by rw [← alike, split]
    _ = (before ++ after).filter (!·.isAbout f.name) := by
        simp [List.filter_append, h.isAbout]
    _ = before ++ after := List.filter_eq_self.2 rest

/-! ## Required fields -/

/-- The lines about some of the required fields, in the order of the type. -/
def missingLines (t : ContractType) (absent : String → Bool) : List Finding :=
  (t.requiredFields.filter absent).map (.missing · t.name)

theorem requiredFindings_of_provides {field : String} (provides : r.Provides field) :
    t.requiredFindings r =
      t.missingLines fun other => other != field && (r.present? other).isNone := by
  obtain ⟨v, hv⟩ := Record.provides_iff.1 provides
  rw [requiredFindings, missingLines]
  congr 1
  refine List.filter_congr fun other _ => ?_
  by_cases same : other = field
  · simp [same, hv]
  · simp [same]

theorem requiredFindings_erase (t : ContractType) (r : Record) (field : String) :
    t.requiredFindings (r.erase field) =
      t.missingLines fun other => other == field || (r.present? other).isNone := by
  rw [requiredFindings, missingLines]
  congr 1
  refine List.filter_congr fun other _ => ?_
  by_cases same : other = field
  · simp [same, Record.present?_erase_self]
  · simp [same, Record.present?_erase_other r same]

/-! ## The field counts as absent -/

/-- What becomes of the validation when the field is taken out of the record: the complaint goes
away, and the field joins the required ones that are absent. -/
structure CountsAsAbsent (t : ContractType) (rules : DateRules) (r : Record) (f : Field)
    (complaint : Finding) : Prop where
  /-- The lines about required fields stand before the others; all of the others stay, but for the
  complaint. -/
  errors : ∃ before after,
    (t.validate rules r).errors =
        t.missingLines (fun field => field != f.name && (r.present? field).isNone)
          ++ before ++ complaint :: after ∧
      (t.validate rules (r.erase f.name)).errors =
        t.missingLines (fun field => field == f.name || (r.present? field).isNone)
          ++ before ++ after
  once : (t.validate rules r).errors.count complaint = 1
  gone : complaint ∉ (t.validate rules (r.erase f.name)).errors
  warnings : (t.validate rules (r.erase f.name)).warnings = (t.validate rules r).warnings

/-- **A field that cannot be read counts as absent**, plus one error. -/
theorem unreadable_counts_as_absent (t : ContractType) (rules : DateRules) (r : Record) (f : Field)
    (complaint : Finding) (h : r.Unreadable rules.formats f complaint) :
    t.CountsAsAbsent rules r f complaint := by
  have drops := drops_otherFindings (t := t) h
  have warning : complaint.isWarning = false := by
    simpa [Finding.rejects] using h.rejects
  obtain ⟨before, after, old, new⟩ := drops.filter h.rejects
  have ordered := (t.inOrder_otherFindings rules r).filter Finding.rejects
  rw [old] at ordered
  have absent := ordered.not_mem
  have notRequired := h.not_mem_requiredFindings t
  constructor
  · refine ⟨before, after, ?_, ?_⟩
    · rw [errors_eq, requiredFindings_of_provides h.provides, old, List.append_assoc]
    · rw [errors_eq, requiredFindings_erase, new, List.append_assoc]
  · rw [List.mem_append, not_or] at absent
    rw [errors_eq, old, List.count_append, List.count_append, List.count_cons_self,
      List.count_eq_zero.2 (notRequired r), List.count_eq_zero.2 absent.1,
      List.count_eq_zero.2 absent.2]
  · rw [errors_eq, new, List.mem_append, not_or]
    exact ⟨notRequired _, absent⟩
  · rw [warnings_eq, warnings_eq, drops.filter_eq warning]

end ContractType

/-- Work that begins on a day that has to be known. -/
def datedWork : ContractType :=
  { ContractType.new "dated" "Dated Work" "employment" with
    requiredFields := ["badge", Field.startDate.name, "job_title"] }

def startsSoon : Record := Dict.empty.insert Field.startDate.name (.string "soon")

/-- Once the start is gone, it takes its place between the badge and the job title. -/
theorem unreadable_counts_as_absent_soon :
    startsSoon.Unreadable DateFormats.standard .startDate (.notADate .startDate) ∧
      datedWork.CountsAsAbsent Settings.standard.dateRules startsSoon .startDate
        (.notADate .startDate) ∧
      (datedWork.validate Settings.standard.dateRules startsSoon).errors =
        [.missing "badge" "Dated Work", .missing "job_title" "Dated Work",
          .notADate .startDate] ∧
      (datedWork.validate Settings.standard.dateRules
          (startsSoon.erase Field.startDate.name)).errors =
        [.missing "badge" "Dated Work", .missing Field.startDate.name "Dated Work",
          .missing "job_title" "Dated Work"] := by
  have invalid : ¬ startsSoon.DateIfAny DateFormats.standard .startDate := by
    rw [← Record.isInvalid_date_eq_false_iff]
    decide
  have unreadable := Record.Unreadable.date (by decide) invalid
  exact ⟨unreadable, datedWork.unreadable_counts_as_absent Settings.standard.dateRules _ _ _
    unreadable, by decide, by decide⟩

end ContractDocs
