/-
Types that can be satisfied: for which of them there is a valid record at all.

A build looks at ids, fields, links and bindings, and at which limits are set,
but not at what the limits are. So it accepts a type that requires a field for
which the limits leave no value. `ContractType.LimitsAgree` says of each
required field with limits that some value keeps them, and each of its parts is
exactly that (`exists_term_iff`, `exists_hours_iff`, `exists_days_iff`). The
fields do not depend on each other, so a record that fills the required ones
with such values is valid (`Filling.legal_record`).
-/
import ContractDocs.Proofs.CalendarSpan
import ContractDocs.Proofs.Currency
import ContractDocs.Proofs.DateText
import ContractDocs.Proofs.Legality
import ContractDocs.Proofs.NumberOrder

namespace ContractDocs

open Calendar Decimal

/-! ## Limits and values -/

/-- Some finite number is not above the limit unless the limit is the negative infinity. -/
theorem exists_hours_iff {limit : Option Float} :
    (∃ x : Float, x.isFinite = true ∧ ∀ max, limit = some max → ¬ max < x) ↔
      ∀ max, limit = some max → max < 0 → max.isFinite = true := by
  constructor
  · rintro ⟨x, finite, within⟩ max hmax below
    by_contra infinite
    exact within max hmax (lt_of_not_isFinite (Bool.eq_false_iff.2 infinite) below finite)
  · intro h
    cases limit with
    | none => exact ⟨0, by decide, by simp⟩
    | some max =>
      by_cases finite : max.isFinite = true
      · exact ⟨max, finite, by simp [not_lt_self]⟩
      · exact ⟨0, by decide, by simpa using fun below => finite (h max rfl below)⟩

/-- Some finite number is within two limits exactly when these are in order. -/
theorem exists_days_iff {min max : Option UInt32} :
    (∃ x : Float, x.isFinite = true ∧ (∀ m, min = some m → ¬ x < m.toFloat) ∧
        ∀ n, max = some n → ¬ n.toFloat < x) ↔
      ∀ m n, min = some m → max = some n → m ≤ n := by
  constructor
  · rintro ⟨x, finite, low, high⟩ m n hm hn
    by_contra disagree
    have above : m.toFloat ≤ x := le_of_not_lt finite (isFinite_uint32 m) (low m hm)
    have order : n.toFloat < m.toFloat := toFloat_lt_toFloat_iff.2 (UInt32.not_le.1 disagree)
    exact high n hn (lt_of_lt_of_le order above)
  · intro h
    -- The least number of days will do.
    refine ⟨(min.getD 0).toFloat, isFinite_uint32 _, ?_, ?_⟩
    · rintro m rfl
      exact not_lt_self _
    · intro n hn below
      rw [toFloat_lt_toFloat_iff] at below
      cases min with
      | none => exact absurd below (by simp)
      | some m => exact absurd (h m n rfl hn) (UInt32.not_le.2 below)

namespace ContractType

/-- Some two dates keep the limits of duration exactly when these are in order and the calendar is
long enough. -/
theorem exists_term_iff {t : ContractType} {policy : DurationPolicy} :
    (∃ first last, t.LegalTerm policy first last) ↔
      ∀ min, t.constraints.minDurationMonths = some min → (min.toNat : Int) ≤ policy.longest ∧
        ∀ max, t.constraints.maxDurationMonths = some max → min ≤ max := by
  constructor
  · rintro ⟨first, last, term⟩ min hmin
    have short := term.shortest min hmin
    refine ⟨short.trans (policy.elapsedMonths_le_longest first last), fun max hmax => ?_⟩
    have long := term.longest max hmax
    exact UInt32.le_iff_toNat_le.2 (by omega)
  · intro h
    -- The least number of months will do.
    have room : ∃ n : Nat, (n : Int) ≤ policy.longest ∧
        (∀ max, t.constraints.maxDurationMonths = some max → n ≤ max.toNat) ∧
        ∀ min, t.constraints.minDurationMonths = some min → min.toNat ≤ n := by
      cases hmin : t.constraints.minDurationMonths with
      | none => exact ⟨0, policy.longest_nonneg, fun max _ => Nat.zero_le _, by simp⟩
      | some min => exact ⟨min.toNat, (h min hmin).1, (h min hmin).2, by simp⟩
    obtain ⟨n, within, long, short⟩ := room
    obtain ⟨first, last, order, months⟩ := (policy.exists_elapsedMonths_iff n).2 within
    refine ⟨first, last, order, fun max hmax => ?_, fun min hmin => ?_⟩
    · rw [months]
      exact Int.ofNat_le.2 (long max hmax)
    · rw [months]
      exact Int.ofNat_le.2 (short min hmin)

/-! ## Limits of required fields -/

/-- Each required field with limits has a value that keeps them. -/
structure LimitsAgree (t : ContractType) (policy : DurationPolicy) : Prop where
  term : Field.startDate.name ∈ t.requiredFields ∧ Field.endDate.name ∈ t.requiredFields →
    ∀ min, t.constraints.minDurationMonths = some min → (min.toNat : Int) ≤ policy.longest ∧
      ∀ max, t.constraints.maxDurationMonths = some max → min ≤ max
  /-- The limit of hours is not the negative infinity. -/
  hours : Field.weeklyHours.name ∈ t.requiredFields →
    ∀ max, t.constraints.maxWeeklyHours = some max → max < 0 → max.isFinite = true
  notice : Field.noticeDays.name ∈ t.requiredFields →
    ∀ min max, t.constraints.minNoticeDays = some min → t.constraints.maxNoticeDays = some max →
      min ≤ max

/-- A legal record shows that the limits agree. -/
theorem Legal.limitsAgree {t : ContractType} {rules : DateRules} {r : Record}
    (h : t.Legal rules r) : t.LimitsAgree rules.policy where
  term both := by
    obtain ⟨first, hfirst⟩ := h.startDate (h.required _ both.1)
    obtain ⟨last, hlast⟩ := h.endDate (h.required _ both.2)
    exact exists_term_iff.1 ⟨first, last, h.term first last hfirst hlast⟩
  hours required := by
    obtain ⟨x, hx, finite⟩ := h.weeklyHours (h.required _ required)
    exact exists_hours_iff.1 ⟨x, finite, fun max => h.maxHours x max hx⟩
  notice required := by
    obtain ⟨x, hx, finite⟩ := h.notice (h.required _ required)
    exact exists_days_iff.1 ⟨x, finite, fun min => h.minNotice x min hx,
      fun max => h.maxNotice x max hx⟩

end ContractType

/-! ## Filled records -/

theorem Dict.get?_insertAll_map {α : Type} (f : String → α) (names : List String) (d : Dict α)
    (k : String) : (d.insertAll (names.map fun name => (name, f name))).get? k =
      if k ∈ names then some (f k) else d.get? k := by
  induction names generalizing d with
  | nil => rfl
  | cons name names ih =>
    rw [List.map_cons, insertAll, List.foldl_cons, ← insertAll, ih]
    by_cases same : k = name
    · subst same
      simp
    · rw [get?_insert_other d _ same]
      simp [same]

theorem Calendar.Date.isBlankText_text (d : Date) : Text.isBlankText d.text = false := by
  have mark : ('-' : Char) ∈ d.isoChars := by simp [isoChars]
  rw [d.text_eq, Text.isBlankText, String.toList_ofList, List.all_eq_false]
  exact ⟨'-', mark, by decide⟩

theorem Json.quantity?_float {x : Float} (finite : x.isFinite = true) :
    (Json.float x).quantity? = some x := by
  rw [float, quantity?, Number.toFloat, Option.filter_some, if_pos finite]

/-- What the required fields of a record are filled with; all others hold a zero. -/
structure Filling where
  first : Date
  last : Date
  hours : Float
  days : Float

namespace Filling

def value (s : Filling) (field : String) : Json :=
  if field = Field.startDate.name then .string s.first.text
  else if field = Field.endDate.name then .string s.last.text
  else if field = Field.weeklyHours.name then .float s.hours
  else if field = Field.noticeDays.name then .float s.days
  else .int 0

/-- The record with these fields and no others. -/
def record (s : Filling) (fields : List String) : Record :=
  .ofList (fields.map fun field => (field, s.value field))

/-- The values keep the limits of the fields that the type requires. -/
structure Fits (s : Filling) (t : ContractType) (policy : DurationPolicy) : Prop where
  term : Field.startDate.name ∈ t.requiredFields ∧ Field.endDate.name ∈ t.requiredFields →
    t.LegalTerm policy s.first s.last
  hours : Field.weeklyHours.name ∈ t.requiredFields → s.hours.isFinite = true ∧
    ∀ max, t.constraints.maxWeeklyHours = some max → ¬ max < s.hours
  days : Field.noticeDays.name ∈ t.requiredFields → s.days.isFinite = true ∧
    (∀ min, t.constraints.minNoticeDays = some min → ¬ s.days < min.toFloat) ∧
      ∀ max, t.constraints.maxNoticeDays = some max → ¬ max.toFloat < s.days

variable {s : Filling} {fields : List String} {formats : DateFormats} {f : Field}

theorem isBlank_value (s : Filling) (field : String) : (s.value field).isBlank = false := by
  unfold value
  split
  · exact s.first.isBlankText_text
  · split
    · exact s.last.isBlankText_text
    · split
      · rfl
      · split <;> rfl

theorem present?_record (s : Filling) (fields : List String) (field : String) :
    (s.record fields).present? field = if field ∈ fields then some (s.value field) else none := by
  rw [Record.present?, record, Dict.ofList, Dict.get?_insertAll_map, Dict.get?_empty]
  split
  · simp [isBlank_value]
  · rfl

theorem provides_record_iff {field : String} :
    (s.record fields).Provides field ↔ field ∈ fields := by
  rw [Record.provides_iff, present?_record]
  split <;> simp_all

theorem hasDate_record_iff {d : Date} : (s.record fields).HasDate formats f d ↔
    f.name ∈ fields ∧ formats.parse (s.value f.name).display = .ok d := by
  rw [Record.HasDate, Record.field?, present?_record]
  split <;> simp_all

theorem hasNumber_record_iff {x : Float} : (s.record fields).HasNumber f x ↔
    f.name ∈ fields ∧ (s.value f.name).quantity? = some x := by
  rw [Record.HasNumber, Record.field?, present?_record]
  split <;> simp_all

theorem eq_of_hasDate_record {d e : Date} (h : formats.parse (s.value f.name).display = .ok d)
    (he : (s.record fields).HasDate formats f e) : f.name ∈ fields ∧ d = e := by
  obtain ⟨mem, read⟩ := hasDate_record_iff.1 he
  exact ⟨mem, Except.ok.inj (h.symm.trans read)⟩

theorem eq_of_hasNumber_record {x y : Float}
    (h : f.name ∈ fields → (s.value f.name).quantity? = some x)
    (hy : (s.record fields).HasNumber f y) : f.name ∈ fields ∧ x = y := by
  obtain ⟨mem, read⟩ := hasNumber_record_iff.1 hy
  exact ⟨mem, Option.some.inj ((h mem).symm.trans read)⟩

theorem dateIfAny_record {d : Date} (h : formats.parse (s.value f.name).display = .ok d) :
    (s.record fields).DateIfAny formats f := fun provides =>
  ⟨d, hasDate_record_iff.2 ⟨provides_record_iff.1 provides, h⟩⟩

theorem numberIfAny_record {x : Float}
    (h : f.name ∈ fields → (s.value f.name).quantity? = some x) :
    (s.record fields).NumberIfAny f := by
  intro provides
  have mem := provides_record_iff.1 provides
  exact ⟨x, hasNumber_record_iff.2 ⟨mem, h mem⟩, Json.isFinite_of_quantity? (h mem)⟩

/-- A record that is filled with fitting values is legal. -/
theorem Fits.legal_record {t : ContractType} {rules : DateRules} (h : s.Fits t rules.policy) :
    t.Legal rules (s.record t.requiredFields) := by
  have start : rules.formats.parse (s.value Field.startDate.name).display = .ok s.first :=
    DateFormats.parse_text _ _
  have stop : rules.formats.parse (s.value Field.endDate.name).display = .ok s.last :=
    DateFormats.parse_text _ _
  have hours (required : Field.weeklyHours.name ∈ t.requiredFields) :
      (s.value Field.weeklyHours.name).quantity? = some s.hours :=
    Json.quantity?_float (h.hours required).1
  have days (required : Field.noticeDays.name ∈ t.requiredFields) :
      (s.value Field.noticeDays.name).quantity? = some s.days :=
    Json.quantity?_float (h.days required).1
  have zero : (Json.int 0).quantity? = some 0 := by decide
  have salary (_ : Field.salary.name ∈ t.requiredFields) :
      (s.value Field.salary.name).quantity? = some 0 := zero
  have probation (_ : Field.probationMonths.name ∈ t.requiredFields) :
      (s.value Field.probationMonths.name).quantity? = some 0 := zero
  exact {
    required := fun field hfield => provides_record_iff.2 hfield
    startDate := dateIfAny_record start
    endDate := dateIfAny_record stop
    term := fun first last hfirst hlast => by
      obtain ⟨hasStart, rfl⟩ := eq_of_hasDate_record start hfirst
      obtain ⟨hasEnd, rfl⟩ := eq_of_hasDate_record stop hlast
      exact h.term ⟨hasStart, hasEnd⟩
    salary := numberIfAny_record salary
    weeklyHours := numberIfAny_record hours
    probation := numberIfAny_record probation
    notice := numberIfAny_record days
    maxHours := fun x max hx => by
      obtain ⟨required, rfl⟩ := eq_of_hasNumber_record hours hx
      exact (h.hours required).2 max
    noProbation := fun x hx _ => by
      obtain ⟨-, rfl⟩ := eq_of_hasNumber_record probation hx
      exact not_lt_self 0
    maxProbation := fun x max hx _ _ below => by
      obtain ⟨-, rfl⟩ := eq_of_hasNumber_record probation hx
      exact not_lt_self 0 (lt_of_le_of_lt (zero_le_toFloat max) below)
    minNotice := fun x min hx => by
      obtain ⟨required, rfl⟩ := eq_of_hasNumber_record days hx
      exact (h.days required).2.1 min
    maxNotice := fun x max hx => by
      obtain ⟨required, rfl⟩ := eq_of_hasNumber_record days hx
      exact (h.days required).2.2 max }

end Filling

namespace ContractType

/-- Where a value is not called for, any will do. -/
theorem exists_of_called {α : Type} (any : α) {called : Prop} {p : α → Prop}
    (h : called → ∃ x, p x) : ∃ x, called → p x := by
  by_cases now : called
  · obtain ⟨x, hx⟩ := h now
    exact ⟨x, fun _ => hx⟩
  · exact ⟨any, fun later => absurd later now⟩

theorem LimitsAgree.exists_fits {t : ContractType} {policy : DurationPolicy}
    (h : t.LimitsAgree policy) : ∃ s : Filling, s.Fits t policy := by
  have term : Field.startDate.name ∈ t.requiredFields ∧ Field.endDate.name ∈ t.requiredFields →
      ∃ dates : Date × Date, t.LegalTerm policy dates.1 dates.2 := by
    intro both
    obtain ⟨first, last, term⟩ := exists_term_iff.2 (h.term both)
    exact ⟨(first, last), term⟩
  obtain ⟨dates, term⟩ := exists_of_called (Date.first, Date.last) term
  obtain ⟨x, hours⟩ := exists_of_called 0 fun required => exists_hours_iff.2 (h.hours required)
  obtain ⟨y, days⟩ := exists_of_called 0 fun required => exists_days_iff.2 (h.notice required)
  exact ⟨⟨dates.1, dates.2, x, y⟩, term, hours, days⟩

/-- Some record is valid exactly when the limits of the required fields agree. -/
theorem exists_isValid_iff {t : ContractType} {rules : DateRules} :
    (∃ r, (t.validate rules r).isValid = true) ↔ t.LimitsAgree rules.policy := by
  simp only [isValid_iff_legal]
  constructor
  · rintro ⟨r, legal⟩
    exact legal.limitsAgree
  · intro agree
    obtain ⟨s, fits⟩ := agree.exists_fits
    exact ⟨s.record t.requiredFields, fits.legal_record⟩

end ContractType

/-! ## Registries -/

/-- Some record of the type is valid. -/
def Registry.Satisfiable (reg : Registry) (rules : DateRules) (typeId : String) : Prop :=
  ∃ r, (reg.validate rules typeId r).isValid = true

theorem Catalog.satisfiable_iff {c : Catalog} {strict : Bool} {reg : Registry}
    (hb : c.build strict = .ok reg) (rules : DateRules) {t : ContractType}
    (ht : t ∈ c.contractTypes) : reg.Satisfiable rules t.id ↔ t.LimitsAgree rules.policy := by
  have found : reg.types.get? t.id = some t := ((holds_of_build hb).type_iff _ _).2 ⟨ht, rfl⟩
  simp only [Registry.Satisfiable, Registry.validate_of_get? found]
  exact ContractType.exists_isValid_iff

/-- **A type of a built registry can be satisfied** exactly when the limits of
the fields it requires agree: the limits of notice are in order, those of the
duration are in order and within the calendar, and the limit of weekly hours is
not the negative infinity. So all its types can be satisfied exactly when this
holds of every type of the catalog, which the build does not ask for. -/
theorem Catalog.types_satisfiable_iff {c : Catalog} {strict : Bool} {reg : Registry}
    (hb : c.build strict = .ok reg) (rules : DateRules) :
    (∀ t ∈ c.contractTypes, reg.Satisfiable rules t.id ↔ t.LimitsAgree rules.policy) ∧
      ((∀ typeId t, reg.types.get? typeId = some t → reg.Satisfiable rules typeId) ↔
        ∀ t ∈ c.contractTypes, t.LimitsAgree rules.policy) := by
  have each : ∀ t ∈ c.contractTypes, reg.Satisfiable rules t.id ↔ t.LimitsAgree rules.policy :=
    fun t => satisfiable_iff hb rules
  have holds := holds_of_build hb
  refine ⟨each, fun all t ht => ?_, fun agree typeId t found => ?_⟩
  · exact (each t ht).1 (all t.id t ((holds.type_iff _ _).2 ⟨ht, rfl⟩))
  · obtain ⟨ht, rfl⟩ := (holds.type_iff _ _).1 found
    exact (each t ht).2 (agree t ht)

/-- A notice of resignation with limits for its days. -/
def resignation (min max : UInt32) : ContractType :=
  { ContractType.new "resignation" "Resignation" "employment" with
    requiredFields := [Field.noticeDays.name]
    rules := [.enforced "The days of notice must be stated" .requiredFields,
      .enforced "The days of notice must be within their limits" .noticeBounds]
    constraints := Constraints.unlimited.withNotice (some min) (some max) }

def resignations (min max : UInt32) : Catalog := ⟨[resignation min max], []⟩

theorem types_satisfiable_iff_resignations :
    (resignations 30 90).build true = .ok (resignations 30 90).registry ∧
      ∀ rules typeId t, (resignations 30 90).registry.types.get? typeId = some t →
        (resignations 30 90).registry.Satisfiable rules typeId := by
  have built : (resignations 30 90).build true = .ok (resignations 30 90).registry := by rfl
  refine ⟨built, fun rules => (Catalog.types_satisfiable_iff built rules).2.2 fun t ht => ?_⟩
  obtain rfl := List.mem_singleton.1 ht
  refine ⟨fun both => absurd both.1 (by decide), fun required => absurd required (by decide), ?_⟩
  rintro - min max hmin hmax
  cases hmin
  cases hmax
  decide

/-- The build accepts limits the wrong way round, and no record keeps them. -/
theorem not_valid_resignations :
    (resignations 90 30).build true = .ok (resignations 90 30).registry ∧
      (resignations 90 30).registry.types.get? "resignation" = some (resignation 90 30) ∧
      ∀ rules r,
        ((resignations 90 30).registry.validate rules "resignation" r).isValid = false := by
  have found : (resignations 90 30).registry.types.get? "resignation" =
      some (resignation 90 30) := by rfl
  refine ⟨by rfl, found, fun rules r => Bool.eq_false_iff.2 fun valid => ?_⟩
  rw [Registry.validate_of_get? found] at valid
  have agree := ContractType.exists_isValid_iff.1 ⟨r, valid⟩
  exact absurd (agree.notice List.mem_cons_self 90 30 rfl rfl) (by decide)

end ContractDocs
