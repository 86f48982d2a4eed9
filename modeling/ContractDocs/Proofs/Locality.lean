/-
Locality: what a field of a record has a say in. Each finding is about the
fields that its rule reads, and the rules are taken in one order, whatever the
record says.

`alikeOn_validate`: where records agree in some fields, the findings about
these fields are the same. `inRuleOrder_validate`: the lines about required
fields come first, in the order of the type, and of each other rule there is at
most one finding, at the place of the rule. So a field can only add, change or
take away findings that are about it, and of each field it is known which these
can be (`Finds.exists_errorField`, `exists_warningField`).
-/
import ContractDocs.Proofs.Dependence
import ContractDocs.Proofs.Findings

namespace ContractDocs

/-! ## What findings are about -/

namespace Finding

/-- The fields that the rule of the finding reads. -/
def fields : Finding → List String
  | .unknownType => []
  | .missing field _ => [field]
  | .notADate field | .notANumber field => [field.name]
  | .endNotAfterStart | .tooLong _ _ _ | .tooShort _ _ _ =>
    [Field.startDate.name, Field.endDate.name]
  | .salaryDisallowed _ _ => [Field.salary.name]
  | .belowMinimumWage _ _ _ => [Field.salary.name, Field.currency.name]
  | .tooManyHours _ _ _ => [Field.weeklyHours.name]
  | .probationDisallowed _ | .probationTooLong _ _ _ => [Field.probationMonths.name]
  | .noticeTooShort _ _ _ | .noticeTooLong _ _ _ => [Field.noticeDays.name]
  | .remoteWorkDisallowed _ => [Field.workLocation.name]

/-- Is the finding about the field, alone or with another? -/
def isAbout (f : Finding) (field : String) : Bool := f.fields.contains field

/-- The place of the finding's rule among the rules. All lines about required fields come from
one. -/
def place : Finding → Nat
  | .unknownType | .missing _ _ => 0
  | .notADate .startDate => 1
  | .notADate _ => 2
  | .endNotAfterStart => 3
  | .tooLong _ _ _ => 4
  | .tooShort _ _ _ => 5
  | .notANumber .salary => 6
  | .salaryDisallowed _ _ => 7
  | .belowMinimumWage _ _ _ => 8
  | .notANumber .weeklyHours => 9
  | .tooManyHours _ _ _ => 10
  | .notANumber .probationMonths => 11
  | .probationDisallowed _ => 12
  | .probationTooLong _ _ _ => 13
  | .notANumber _ => 14
  | .noticeTooShort _ _ _ => 15
  | .noticeTooLong _ _ _ => 16
  | .remoteWorkDisallowed _ => 17

end Finding

/-- The findings that are about these fields alone are the same, in the same order. -/
def AlikeOn (kept : String → Bool) (fs gs : List Finding) : Prop :=
  fs.filter (·.fields.all kept) = gs.filter (·.fields.all kept)

namespace AlikeOn

variable {kept : String → Bool} {fs gs fs' gs' : List Finding}

theorem append (h : AlikeOn kept fs gs) (h' : AlikeOn kept fs' gs') :
    AlikeOn kept (fs ++ fs') (gs ++ gs') := by
  rw [AlikeOn, List.filter_append, List.filter_append, h, h']

/-- Findings about the same fields are the same if all of these are kept, and left out if not. -/
theorem of_fields {own : List String} (hf : ∀ f ∈ fs, f.fields = own)
    (hg : ∀ f ∈ gs, f.fields = own) (same : own.all kept = true → fs = gs) :
    AlikeOn kept fs gs := by
  by_cases all : own.all kept = true
  · rw [same all]
    rfl
  · have left : ∀ {hs : List Finding}, (∀ f ∈ hs, f.fields = own) →
        hs.filter (·.fields.all kept) = [] := fun h =>
      List.filter_eq_nil_iff.2 fun f hf => by rwa [h f hf]
    rw [AlikeOn, left hf, left hg]

theorem filter (h : AlikeOn kept fs gs) (p : Finding → Bool) :
    AlikeOn kept (fs.filter p) (gs.filter p) := by
  simp only [AlikeOn, List.filter_filter, Bool.and_comm _ (p _)]
  rw [← List.filter_filter, ← List.filter_filter, h]

end AlikeOn

namespace ContractType

variable {t : ContractType} {rules : DateRules} {r r' : Record} {kept : String → Bool}

/-! ## The groups of rules -/

/-- What is found besides required fields that are absent. -/
def otherFindings (t : ContractType) (rules : DateRules) (r : Record) : List Finding :=
  t.dateFindings rules r ++ t.salaryFindings r ++ t.hoursFindings r ++ t.probationFindings r
    ++ t.noticeFindings r ++ t.remoteWorkFindings r

theorem findings_eq (t : ContractType) (rules : DateRules) (r : Record) :
    (t.validate rules r).findings = t.requiredFindings r ++ t.otherFindings rules r := by
  simp only [validate, otherFindings, List.append_assoc]

theorem fields_of_mem_unreadable {complaint f : Finding} {reading : Reading α}
    (h : f ∈ unreadable complaint reading) : f.fields = complaint.fields := by
  rw [(mem_unreadable.1 h).2]

/-- What there is to say of a contract that has both dates. -/
def termFindings (t : ContractType) (rules : DateRules) (r : Record) : List Finding :=
  match (r.date rules.formats Field.startDate.name).get?,
      (r.date rules.formats Field.endDate.name).get? with
  | some first, some last => t.durationFindings rules.policy first last
  | _, _ => []

theorem dateFindings_eq (t : ContractType) (rules : DateRules) (r : Record) :
    t.dateFindings rules r =
      unreadable (.notADate .startDate) (r.date rules.formats Field.startDate.name)
        ++ unreadable (.notADate .endDate) (r.date rules.formats Field.endDate.name)
        ++ t.termFindings rules r := rfl

theorem FindsTerm.fields_eq {policy : DurationPolicy} {first last : Calendar.Date} {f : Finding}
    (h : t.FindsTerm policy first last f) : f.fields = [Field.startDate.name, Field.endDate.name] := by
  cases h <;> rfl

theorem fields_of_mem_termFindings {f : Finding} (h : f ∈ t.termFindings rules r) :
    f.fields = [Field.startDate.name, Field.endDate.name] := by
  rw [termFindings] at h
  split at h
  · exact (mem_durationFindings.1 h).fields_eq
  · cases h

theorem fields_of_mem_hoursFindings {f : Finding} (h : f ∈ t.hoursFindings r) :
    f.fields = [Field.weeklyHours.name] := by
  rcases mem_hoursFindings.1 h with ⟨-, rfl⟩ | ⟨_, -, _, -, -, rfl⟩ <;> rfl

theorem fields_of_mem_probationFindings {f : Finding} (h : f ∈ t.probationFindings r) :
    f.fields = [Field.probationMonths.name] := by
  rcases mem_probationFindings.1 h with ⟨-, rfl⟩ | ⟨_, -, ⟨-, -, rfl⟩ | ⟨-, _, -, -, rfl⟩⟩ <;> rfl

theorem fields_of_mem_noticeFindings {f : Finding} (h : f ∈ t.noticeFindings r) :
    f.fields = [Field.noticeDays.name] := by
  rcases mem_noticeFindings.1 h with ⟨-, rfl⟩ | ⟨_, -, ⟨_, -, -, rfl⟩ | ⟨_, -, -, rfl⟩⟩ <;> rfl

theorem fields_of_mem_remoteWorkFindings {f : Finding} (h : f ∈ t.remoteWorkFindings r) :
    f.fields = [Field.workLocation.name] := by
  obtain ⟨_, -, -, -, rfl⟩ := mem_remoteWorkFindings.1 h
  rfl

/-- What there is to say of the salary without its currency. -/
def amountFindings (t : ContractType) (r : Record) : List Finding :=
  numberFindings r .salary (t.salaryRules none)

/-- What there is to say of the salary in its currency. -/
def floorFindings (t : ContractType) (r : Record) : List Finding :=
  match (r.quantity Field.salary.name).get?, r.field? .currency with
  | some amount, some currency => t.wageFindings amount currency
  | _, _ => []

theorem salaryFindings_eq (t : ContractType) (r : Record) :
    t.salaryFindings r = t.amountFindings r ++ t.floorFindings r := by
  simp only [salaryFindings, amountFindings, floorFindings, numberFindings, List.append_assoc]
  congr 1
  cases (r.quantity Field.salary.name).get? with
  | none => rfl
  | some amount => cases r.field? .currency <;> simp [salaryRules]

theorem fields_of_mem_amountFindings {f : Finding} (h : f ∈ t.amountFindings r) :
    f.fields = [Field.salary.name] := by
  rcases mem_numberFindings.1 h with ⟨-, rfl⟩ | ⟨_, -, h⟩
  · rfl
  · rcases mem_salaryRules.1 h with ⟨-, -, rfl⟩ | ⟨_, none, -⟩
    · rfl
    · cases none

theorem fields_of_mem_floorFindings {f : Finding} (h : f ∈ t.floorFindings r) :
    f.fields = [Field.salary.name, Field.currency.name] := by
  rw [floorFindings] at h
  split at h
  · obtain ⟨_, -, -, rfl⟩ := mem_wageFindings.1 h
    rfl
  · cases h

/-! ## Records that agree in some fields -/

theorem alikeOn_requiredFindings (agree : r.AgreeOn (kept · = true) r') :
    AlikeOn kept (t.requiredFindings r) (t.requiredFindings r') := by
  simp only [AlikeOn, requiredFindings, List.filter_map, List.filter_filter]
  congr 1
  refine List.filter_congr fun field _ => ?_
  by_cases hk : kept field = true
  · rw [agree field hk]
  · simp [Finding.fields, hk]

theorem alikeOn_dateFindings (agree : r.AgreeOn (kept · = true) r') :
    AlikeOn kept (t.dateFindings rules r) (t.dateFindings rules r') := by
  have reading (f : Field) (hk : kept f.name = true) :
      r.date rules.formats f.name = r'.date rules.formats f.name := by
    rw [Record.date, Record.date, agree f.name hk]
  have complaint (f : Field) : AlikeOn kept
      (unreadable (.notADate f) (r.date rules.formats f.name))
      (unreadable (.notADate f) (r'.date rules.formats f.name)) :=
    .of_fields (fun _ => fields_of_mem_unreadable) (fun _ => fields_of_mem_unreadable) fun all => by
      rw [reading f (by simpa [Finding.fields] using all)]
  have term : AlikeOn kept (t.termFindings rules r) (t.termFindings rules r') :=
    .of_fields (fun _ => fields_of_mem_termFindings) (fun _ => fields_of_mem_termFindings)
      fun all => by
        simp only [List.all_cons, List.all_nil, Bool.and_true, Bool.and_eq_true] at all
        rw [termFindings, termFindings, reading .startDate all.1, reading .endDate all.2]
  exact ((complaint .startDate).append (complaint .endDate)).append term

theorem alikeOn_salaryFindings (agree : r.AgreeOn (kept · = true) r') :
    AlikeOn kept (t.salaryFindings r) (t.salaryFindings r') := by
  have amount : AlikeOn kept (t.amountFindings r) (t.amountFindings r') :=
    .of_fields (fun _ => fields_of_mem_amountFindings) (fun _ => fields_of_mem_amountFindings)
      fun all => numberFindings_congr (agree _ (by simpa using all)) _
  have floor : AlikeOn kept (t.floorFindings r) (t.floorFindings r') :=
    .of_fields (fun _ => fields_of_mem_floorFindings) (fun _ => fields_of_mem_floorFindings)
      fun all => by
        simp only [List.all_cons, List.all_nil, Bool.and_true, Bool.and_eq_true] at all
        rw [floorFindings, floorFindings, Record.quantity, Record.quantity, Record.field?,
          Record.field?, agree _ all.1, agree _ all.2]
  rw [salaryFindings_eq, salaryFindings_eq]
  exact amount.append floor

theorem alikeOn_otherFindings (agree : r.AgreeOn (kept · = true) r') :
    AlikeOn kept (t.otherFindings rules r) (t.otherFindings rules r') := by
  have own (f : Field) (all : [f.name].all kept = true) : r.present? f.name = r'.present? f.name :=
    agree f.name (by simpa using all)
  have hours : AlikeOn kept (t.hoursFindings r) (t.hoursFindings r') :=
    .of_fields (fun _ => fields_of_mem_hoursFindings) (fun _ => fields_of_mem_hoursFindings)
      fun all => numberFindings_congr (own _ all) _
  have probation : AlikeOn kept (t.probationFindings r) (t.probationFindings r') :=
    .of_fields (fun _ => fields_of_mem_probationFindings) (fun _ => fields_of_mem_probationFindings)
      fun all => numberFindings_congr (own _ all) _
  have notice : AlikeOn kept (t.noticeFindings r) (t.noticeFindings r') :=
    .of_fields (fun _ => fields_of_mem_noticeFindings) (fun _ => fields_of_mem_noticeFindings)
      fun all => numberFindings_congr (own _ all) _
  have remote : AlikeOn kept (t.remoteWorkFindings r) (t.remoteWorkFindings r') :=
    .of_fields (fun _ => fields_of_mem_remoteWorkFindings)
      (fun _ => fields_of_mem_remoteWorkFindings) fun all => remoteWorkFindings_congr (own _ all)
  exact (alikeOn_dateFindings agree).append (alikeOn_salaryFindings agree) |>.append hours
    |>.append probation |>.append notice |>.append remote

/-- **What is found of some fields** depends on these fields alone. -/
theorem alikeOn_validate (agree : r.AgreeOn (kept · = true) r') :
    AlikeOn kept (t.validate rules r).findings (t.validate rules r').findings := by
  rw [findings_eq, findings_eq]
  exact (alikeOn_requiredFindings agree).append (alikeOn_otherFindings agree)

end ContractType

/-! ## The order of the rules -/

/-- The findings stand in the order of their rules, whose places are from `l` on and below `n`. -/
structure InOrder (l n : Nat) (fs : List Finding) : Prop where
  room : l ≤ n
  sorted : fs.Pairwise fun f g => f.place < g.place
  low : ∀ f ∈ fs, l ≤ f.place
  high : ∀ f ∈ fs, f.place < n

namespace InOrder

variable {l m n : Nat} {fs gs : List Finding}

theorem nil (room : l ≤ n) : InOrder l n [] := ⟨room, .nil, by simp, by simp⟩

theorem singleton {f : Finding} (place : f.place = l) (room : l < n) : InOrder l n [f] :=
  ⟨room.le, List.pairwise_singleton .., by simp [place], by simp [place, room]⟩

/-- What rules find that are taken one after the other. -/
theorem append (hf : InOrder l m fs) (hg : InOrder m n gs) : InOrder l n (fs ++ gs) := by
  refine ⟨hf.room.trans hg.room, ?_, fun f h => ?_, fun f h => ?_⟩
  · refine List.pairwise_append.2 ⟨hf.sorted, hg.sorted, fun f hf' g hg' => ?_⟩
    exact (hf.high f hf').trans_le (hg.low g hg')
  · rcases List.mem_append.1 h with h | h
    · exact hf.low f h
    · exact hf.room.trans (hg.low f h)
  · rcases List.mem_append.1 h with h | h
    · exact (hf.high f h).trans_le hg.room
    · exact hg.high f h

/-- Rules before these may find nothing. -/
theorem after (h : InOrder m n fs) (room : l ≤ m) : InOrder l n fs := (nil room).append h

theorem filter (h : InOrder l n fs) (p : Finding → Bool) : InOrder l n (fs.filter p) :=
  ⟨h.room, h.sorted.filter p, fun f hf => h.low f (List.mem_of_mem_filter hf),
    fun f hf => h.high f (List.mem_of_mem_filter hf)⟩

end InOrder

namespace ContractType

variable {t : ContractType} {rules : DateRules} {r r' : Record} {l n : Nat}

theorem inOrder_unreadable {complaint : Finding} (reading : Reading α)
    (place : complaint.place = l) (room : l < n) :
    InOrder l n (unreadable complaint reading) := by
  rw [unreadable]
  split
  · exact .singleton place room
  · exact .nil room.le

theorem inOrder_beyond (limit : Option β) (isBeyond : β → Bool) {complaint : β → Finding}
    (place : ∀ b, (complaint b).place = l) (room : l < n) :
    InOrder l n (beyond limit isBeyond complaint) := by
  unfold beyond
  split
  · split
    · exact .singleton (place _) room
    · exact .nil room.le
  · exact .nil room.le

theorem inOrder_numberFindings (r : Record) {f : Field} {numberRules : Float → List Finding}
    (place : (Finding.notANumber f).place = l) (ordered : ∀ x, InOrder (l + 1) n (numberRules x)) :
    InOrder l n (numberFindings r f numberRules) := by
  refine .append (inOrder_unreadable _ place (Nat.lt_succ_self l)) ?_
  split
  · exact .nil (ordered 0).room
  · exact ordered _

theorem inOrder_termFindings (t : ContractType) (rules : DateRules) (r : Record) :
    InOrder 3 6 (t.termFindings rules r) := by
  rw [termFindings]
  split
  · rw [durationFindings]
    split
    · exact .singleton rfl (by decide)
    · refine .after (m := 4) (.append (m := 5) ?_ ?_) (by decide)
      · exact inOrder_beyond _ _ (fun _ => rfl) (by decide)
      · exact inOrder_beyond _ _ (fun _ => rfl) (by decide)
  · exact .nil (by decide)

theorem inOrder_dateFindings (t : ContractType) (rules : DateRules) (r : Record) :
    InOrder 1 6 (t.dateFindings rules r) := by
  rw [dateFindings_eq]
  refine .append (.append (m := 2) ?_ ?_) (t.inOrder_termFindings rules r)
  · exact inOrder_unreadable _ rfl (by decide)
  · exact inOrder_unreadable _ rfl (by decide)

theorem inOrder_salaryFindings (t : ContractType) (r : Record) :
    InOrder 6 9 (t.salaryFindings r) := by
  refine inOrder_numberFindings r rfl fun amount => .append (m := 8) ?_ ?_
  · split
    · exact .singleton rfl (by decide)
    · exact .nil (by decide)
  · split
    · exact inOrder_beyond _ _ (fun _ => rfl) (by decide)
    · exact .nil (by decide)

theorem inOrder_hoursFindings (t : ContractType) (r : Record) : InOrder 9 11 (t.hoursFindings r) :=
  inOrder_numberFindings r rfl fun _ => inOrder_beyond _ _ (fun _ => rfl) (by decide)

theorem inOrder_probationFindings (t : ContractType) (r : Record) :
    InOrder 11 14 (t.probationFindings r) := by
  refine inOrder_numberFindings r rfl fun months => ?_
  split
  · split
    · exact .singleton rfl (by decide)
    · exact .nil (by decide)
  · exact .after (m := 13) (inOrder_beyond _ _ (fun _ => rfl) (by decide)) (by decide)

theorem inOrder_noticeFindings (t : ContractType) (r : Record) :
    InOrder 14 17 (t.noticeFindings r) := by
  refine inOrder_numberFindings r rfl fun days => .append (m := 16) ?_ ?_
  · exact inOrder_beyond _ _ (fun _ => rfl) (by decide)
  · exact inOrder_beyond _ _ (fun _ => rfl) (by decide)

theorem inOrder_remoteWorkFindings (t : ContractType) (r : Record) :
    InOrder 17 18 (t.remoteWorkFindings r) := by
  rw [remoteWorkFindings]
  split
  · split
    · exact .singleton rfl (by decide)
    · exact .nil (by decide)
  · exact .nil (by decide)

/-- Of every other rule there is at most one finding. -/
theorem inOrder_otherFindings (t : ContractType) (rules : DateRules) (r : Record) :
    InOrder 1 18 (t.otherFindings rules r) :=
  (t.inOrder_dateFindings rules r).append (t.inOrder_salaryFindings r)
    |>.append (t.inOrder_hoursFindings r)
    |>.append (t.inOrder_probationFindings r)
    |>.append (t.inOrder_noticeFindings r)
    |>.append (t.inOrder_remoteWorkFindings r)

theorem rejects_of_mem_requiredFindings {f : Finding} (h : f ∈ t.requiredFindings r) :
    f.rejects = true := by
  obtain ⟨field, -, -, rfl⟩ := mem_requiredFindings.1 h
  rfl

theorem errors_eq (t : ContractType) (rules : DateRules) (r : Record) :
    (t.validate rules r).errors =
      t.requiredFindings r ++ (t.otherFindings rules r).filter Finding.rejects := by
  have all : (t.requiredFindings r).filter Finding.rejects = t.requiredFindings r :=
    List.filter_eq_self.2 fun _ => rejects_of_mem_requiredFindings
  rw [Validation.errors, findings_eq, List.filter_append, all]

theorem warnings_eq (t : ContractType) (rules : DateRules) (r : Record) :
    (t.validate rules r).warnings = (t.otherFindings rules r).filter Finding.isWarning := by
  have none : (t.requiredFindings r).filter Finding.isWarning = [] :=
    List.filter_eq_nil_iff.2 fun f hf warning => by
      have rejects := rejects_of_mem_requiredFindings hf
      rw [Finding.rejects, warning] at rejects
      cases rejects
  rw [Validation.warnings, findings_eq, List.filter_append, none, List.nil_append]

/-- The errors and the warnings about a record stand in the order of the rules. -/
structure InRuleOrder (t : ContractType) (rules : DateRules) (r : Record) : Prop where
  /-- Required fields that are absent come first, in the order of the type. -/
  errors : ∃ others, (t.validate rules r).errors = t.requiredFindings r ++ others ∧
    InOrder 1 18 others
  warnings : InOrder 1 18 (t.validate rules r).warnings

theorem inRuleOrder_validate (t : ContractType) (rules : DateRules) (r : Record) :
    t.InRuleOrder rules r where
  errors := ⟨_, t.errors_eq rules r, (t.inOrder_otherFindings rules r).filter _⟩
  warnings := by
    rw [warnings_eq]
    exact (t.inOrder_otherFindings rules r).filter _

/-! ## One field -/

/-- Findings that are not about a field are about the others alone. -/
theorem all_ne_eq_not_isAbout (f : Finding) (field : String) :
    f.fields.all (· != field) = !f.isAbout field := by
  rw [Bool.eq_iff_iff]
  simp [Finding.isAbout, List.forall_mem_ne']

/-- The fields that are read as dates. -/
def dateFields : List Field := [.startDate, .endDate]

/-- The fields that errors can be about, besides those that are required. -/
def errorFields : List Field := dateFields ++ numericFields

/-- The fields that warnings can be about. -/
def warningFields : List Field := [.salary, .currency, .workLocation]

theorem Finds.exists_errorField {f : Finding} {field : String} (h : t.Finds rules r f)
    (rejects : f.rejects = true) (about : f.isAbout field = true) :
    field ∈ t.requiredFields ∨ ∃ own ∈ errorFields, own.name = field := by
  rw [Finding.isAbout, List.contains_iff_mem] at about
  cases h with
  | missing required =>
    obtain rfl := List.mem_singleton.1 about
    exact .inl required
  | term _ _ finds =>
    rw [finds.fields_eq, List.mem_pair] at about
    rcases about with rfl | rfl
    · exact .inr ⟨.startDate, by decide, rfl⟩
    · exact .inr ⟨.endDate, by decide, rfl⟩
  | notANumber numeric =>
    obtain rfl := List.mem_singleton.1 about
    exact .inr ⟨_, List.mem_append_right _ numeric, rfl⟩
  | salaryDisallowed | belowMinimumWage | remoteWorkDisallowed => cases rejects
  | startNotADate | endNotADate | tooManyHours | probationDisallowed | probationTooLong
  | noticeTooShort | noticeTooLong =>
    obtain rfl := List.mem_singleton.1 about
    exact .inr ⟨_, by decide, rfl⟩

theorem exists_warningField {f : Finding} {field : String} (warning : f.isWarning = true)
    (about : f.isAbout field = true) : ∃ own ∈ warningFields, own.name = field := by
  rw [Finding.isAbout, List.contains_iff_mem] at about
  cases f with
  | salaryDisallowed =>
    obtain rfl := List.mem_singleton.1 about
    exact ⟨.salary, by decide, rfl⟩
  | belowMinimumWage =>
    rcases List.mem_pair.1 about with rfl | rfl
    · exact ⟨.salary, by decide, rfl⟩
    · exact ⟨.currency, by decide, rfl⟩
  | remoteWorkDisallowed =>
    obtain rfl := List.mem_singleton.1 about
    exact ⟨.workLocation, by decide, rfl⟩
  | _ => cases warning

/-- Findings that are the same but for those about a field are the same, if none is about it. -/
theorem eq_of_not_isAbout {fs gs : List Finding} {field : String}
    (same : fs.filter (!·.isAbout field) = gs.filter (!·.isAbout field))
    (others : ∀ f, f ∈ fs ∨ f ∈ gs → f.isAbout field = false) : fs = gs := by
  rwa [List.filter_eq_self.2 fun f hf => by rw [others f (.inl hf), Bool.not_false],
    List.filter_eq_self.2 fun f hf => by rw [others f (.inr hf), Bool.not_false]] at same

/-- The errors are not about a field that is neither required nor one that errors can be about. -/
theorem isAbout_eq_false_of_mem_errors {field : String} (free : field ∉ t.requiredFields)
    (unread : ∀ f ∈ errorFields, f.name ≠ field) {f : Finding}
    (hf : f ∈ (t.validate rules r).errors) : f.isAbout field = false := by
  obtain ⟨found, rejects⟩ := List.mem_filter.1 hf
  refine Bool.eq_false_iff.2 fun about => ?_
  rcases (mem_findings_iff.1 found).exists_errorField rejects about with required | ⟨own, hown, name⟩
  · exact free required
  · exact unread own hown name

theorem isAbout_eq_false_of_mem_warnings {field : String}
    (unread : ∀ f ∈ warningFields, f.name ≠ field) {f : Finding}
    (hf : f ∈ (t.validate rules r).warnings) : f.isAbout field = false := by
  refine Bool.eq_false_iff.2 fun about => ?_
  obtain ⟨own, hown, name⟩ := exists_warningField (List.mem_filter.1 hf).2 about
  exact unread own hown name

/-- **A field has a say in its own findings only.** Of two records that differ
in one field, all findings are the same in the same order, but for those about
this field: that it is required, and what the rules that read it find. All
findings are the same if the field is neither required nor known to the
validation, all errors if it is neither required nor one that errors can be
about, and all warnings if it is none that warnings can be about. -/
theorem findings_of_one_field (t : ContractType) (rules : DateRules) (field : String)
    (r r' : Record) (alike : ∀ other, other ≠ field → r.get? other = r'.get? other) :
    (field ∉ t.requiredFields → (∀ f : Field, f.name ≠ field) →
        t.validate rules r = t.validate rules r') ∧
      (field ∉ t.requiredFields → (∀ f ∈ errorFields, f.name ≠ field) →
        (t.validate rules r).errors = (t.validate rules r').errors) ∧
      ((∀ f ∈ warningFields, f.name ≠ field) →
        (t.validate rules r).warnings = (t.validate rules r').warnings) ∧
      (t.validate rules r).errors.filter (!·.isAbout field) =
        (t.validate rules r').errors.filter (!·.isAbout field) ∧
      (t.validate rules r).warnings.filter (!·.isAbout field) =
        (t.validate rules r').warnings.filter (!·.isAbout field) ∧
      t.InRuleOrder rules r ∧ t.InRuleOrder rules r' := by
  have present (other : String) (h : other ≠ field) : r.present? other = r'.present? other := by
    rw [Record.present?, Record.present?, alike other h]
  have same : AlikeOn (· != field) (t.validate rules r).findings (t.validate rules r').findings :=
    alikeOn_validate fun other h => present other (by simpa using h)
  have about (p : Finding → Bool) :
      ((t.validate rules r).findings.filter p).filter (!·.isAbout field) =
        ((t.validate rules r').findings.filter p).filter (!·.isAbout field) := by
    simpa only [AlikeOn, all_ne_eq_not_isAbout] using same.filter p
  refine ⟨fun free unread => ?_, fun free unread => ?_, fun unread => ?_, about _, about _,
    t.inRuleOrder_validate rules r, t.inRuleOrder_validate rules r'⟩
  · exact validate_congr (fun other h => present other fun same => free (same ▸ h))
      fun f => present f.name (unread f)
  · refine eq_of_not_isAbout (about _) fun f hf => ?_
    rcases hf with hf | hf <;> exact isAbout_eq_false_of_mem_errors free unread hf
  · refine eq_of_not_isAbout (about _) fun f hf => ?_
    rcases hf with hf | hf <;> exact isAbout_eq_false_of_mem_warnings unread hf

end ContractType

/-- Part-time work of at most 25 hours, paid with 325 OMR or more. -/
def partTimeWork : ContractType :=
  { ContractType.new "part-time" "Part-Time" "employment" with
    constraints := { Constraints.unlimited with maxWeeklyHours := some 25 }.withMinimumWage "OMR"
      325 }

/-- Work of thirty hours for this salary, whatever is written there. -/
def thirtyHoursFor (salary : Json) : Record :=
  ((Dict.empty.insert Field.weeklyHours.name (.int 30)).insert Field.currency.name
    (.string "OMR")).insert Field.salary.name salary

/-- A salary that is too low and one that is no number make no difference to the hours. -/
theorem findings_of_one_field_salary :
    (∀ other, other ≠ Field.salary.name →
        (thirtyHoursFor (.int 300)).get? other = (thirtyHoursFor (.string "low")).get? other) ∧
      (partTimeWork.validate Settings.standard.dateRules (thirtyHoursFor (.int 300))).findings =
        [.belowMinimumWage 300 325 "OMR", .tooManyHours 30 25 "Part-Time"] ∧
      (partTimeWork.validate Settings.standard.dateRules (thirtyHoursFor (.string "low"))).findings =
        [.notANumber .salary, .tooManyHours 30 25 "Part-Time"] ∧
      (partTimeWork.validate Settings.standard.dateRules
          (thirtyHoursFor (.int 300))).errors.filter (!·.isAbout Field.salary.name) =
        (partTimeWork.validate Settings.standard.dateRules
          (thirtyHoursFor (.string "low"))).errors.filter (!·.isAbout Field.salary.name) := by
  have alike : ∀ other, other ≠ Field.salary.name →
      (thirtyHoursFor (.int 300)).get? other = (thirtyHoursFor (.string "low")).get? other :=
    fun other h => by
      rw [thirtyHoursFor, thirtyHoursFor, Dict.get?_insert_other _ _ h,
        Dict.get?_insert_other _ _ h]
  have own := partTimeWork.findings_of_one_field Settings.standard.dateRules _ _ _ alike
  exact ⟨alike, by decide +kernel, by decide +kernel, own.2.2.2.1⟩

end ContractDocs
