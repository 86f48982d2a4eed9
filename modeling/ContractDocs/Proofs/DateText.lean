/-
Dates read back: a text that a date has been written as gives the date again
(`DateFormats.parse_written`), whatever other form is tried before the one
that was meant.

A number before a mark is a day as well as a year, so a form may take much of
a text that is not its own. But it does not take all of it. Read in the ISO
form, a date that begins with its day has too long a year for a day
(`isoDay_scan?_dayFirst`), and RFC 3339 asks for four digits at once; a
timestamp leaves its time. So each form is passed over until its own turn:
`DateFormats.parseIso?_dayFirst`, `DateFormats.parseIso?_timestamp`.
-/
import ContractDocs.Catalog.Builtin
import ContractDocs.Proofs.ScannedDates

namespace ContractDocs

namespace Calendar

open Decimal (isDigit EndsDigits)

/-! ## Texts -/

/-- A time of day. The last second of a minute may be a leap second. -/
structure TimeOfDay where
  hour : Nat
  minute : Nat
  second : Nat
  hour_lt : hour < 24
  minute_lt : minute < 60
  second_le : second ≤ 60

/-- What a timestamp has to tell of its offset from universal time. -/
inductive Zone
  | unstated
  | universal
  | offset (ahead : Bool) (hours : Fin 24) (minutes : Fin 60)

/-- A time of day as `HH:MM:SS`. -/
def TimeOfDay.chars (t : TimeOfDay) : List Char :=
  padNat .zero 2 t.hour ++ ':' :: (padNat .zero 2 t.minute ++ ':' :: padNat .zero 2 t.second)

/-- Nothing, `Z`, or the offset as `+HH:MM` or `-HH:MM`. -/
def Zone.chars : Zone → List Char
  | .unstated => []
  | .universal => ['Z']
  | .offset ahead hours minutes =>
    (if ahead then '+' else '-') :: (padNat .zero 2 hours ++ ':' :: padNat .zero 2 minutes)

namespace Date

/-- The year first. -/
def isoChars (d : Date) : List Char :=
  padYear .zero d.year ++ '-' :: (padNat .zero 2 d.month ++ '-' :: padNat .zero 2 d.day)

/-- The day first, and a mark between the numbers. -/
def dayFirstChars (d : Date) (mark : Char) : List Char :=
  padNat .zero 2 d.day ++ mark :: (padNat .zero 2 d.month ++ mark :: padYear .zero d.year)

def timestampChars (d : Date) (t : TimeOfDay) (z : Zone) : List Char :=
  d.isoChars ++ 'T' :: (t.chars ++ z.chars)

/-- A date, a time of day and what is told of its offset, as `YYYY-MM-DDTHH:MM:SS+HH:MM`. -/
def timestamp (d : Date) (t : TimeOfDay) (z : Zone) : String :=
  d.text ++ "T" ++ String.ofList t.chars ++ String.ofList z.chars

/-- What the numbers of a date say. -/
def clues (d : Date) : Clues := [(.day, (d.day : Int)), (.month, (d.month : Int)), (.year, d.year)]

end Date

/-- What the numbers of a time of day say. -/
def TimeOfDay.clues (t : TimeOfDay) : Clues :=
  [(.second, (t.second : Int)), (.minute, (t.minute : Int)), (.hourOfHalf, (t.hour : Int) % 12),
    (.halfDay, (t.hour : Int) / 12)]

/-! ## Patterns -/

def isoDay : Pattern :=
  [.number .year .zero, .literal '-', .number .month .zero, .literal '-', .number .day .zero]

def dayFirst (mark : Char) : Pattern :=
  [.number .day .zero, .literal mark, .number .month .zero, .literal mark, .number .year .zero]

def clock : Pattern :=
  [.literal 'T', .number .hour .zero, .literal ':', .number .minute .zero, .literal ':',
    .number .second .zero]

variable (d : Date) (t : TimeOfDay)

theorem Date.text_eq : d.text = String.ofList d.isoChars := by
  simp [text, isoChars]

theorem Date.timestamp_eq (z : Zone) : d.timestamp t z = String.ofList (d.timestampChars t z) := by
  have mark : "T" = String.ofList ['T'] := rfl
  rw [timestamp, text_eq, mark, ← String.ofList_append, ← String.ofList_append,
    ← String.ofList_append, timestampChars]
  simp

theorem format?_isoDay : isoDay.format? d = some d.isoChars := by
  simp [Pattern.format?, isoDay, Piece.format?, NumberKind.format?, Date.isoChars]

theorem format?_dayFirst (mark : Char) :
    (dayFirst mark).format? d = some (d.dayFirstChars mark) := by
  simp [Pattern.format?, dayFirst, Piece.format?, NumberKind.format?, Date.dayFirstChars]

theorem Date.not_blank_of_mem_isoChars : ∀ c ∈ d.isoChars, Text.isBlank c = false := by
  simp only [isoChars, List.forall_mem_append, List.forall_mem_cons]
  exact ⟨fun _ => not_blank_of_mem_padYear, rfl, fun _ => not_blank_of_mem_padNat, rfl,
    fun _ => not_blank_of_mem_padNat⟩

theorem Date.not_blank_of_mem_dayFirstChars {mark : Char} (shown : Text.isBlank mark = false) :
    ∀ c ∈ d.dayFirstChars mark, Text.isBlank c = false := by
  simp only [dayFirstChars, List.forall_mem_append, List.forall_mem_cons]
  exact ⟨fun _ => not_blank_of_mem_padNat, shown, fun _ => not_blank_of_mem_padNat, shown,
    fun _ => not_blank_of_mem_padYear⟩

theorem TimeOfDay.not_blank_of_mem_chars : ∀ c ∈ t.chars, Text.isBlank c = false := by
  simp only [chars, List.forall_mem_append, List.forall_mem_cons]
  exact ⟨fun _ => not_blank_of_mem_padNat, rfl, fun _ => not_blank_of_mem_padNat, rfl,
    fun _ => not_blank_of_mem_padNat⟩

theorem Zone.not_blank_of_mem_chars (z : Zone) : ∀ c ∈ z.chars, Text.isBlank c = false := by
  cases z with
  | unstated => simp [chars]
  | universal => exact List.forall_mem_singleton.2 rfl
  | offset ahead hours minutes =>
    simp only [chars, List.forall_mem_append, List.forall_mem_cons]
    exact ⟨by cases ahead <;> rfl, fun _ => not_blank_of_mem_padNat, rfl,
      fun _ => not_blank_of_mem_padNat⟩

theorem Date.not_blank_of_mem_timestampChars (z : Zone) :
    ∀ c ∈ d.timestampChars t z, Text.isBlank c = false := by
  simp only [timestampChars, List.forall_mem_append, List.forall_mem_cons]
  exact ⟨d.not_blank_of_mem_isoChars, rfl, t.not_blank_of_mem_chars, z.not_blank_of_mem_chars⟩

/-! ## Reading them -/

namespace Date

theorem tells_clues : d.clues.Tells d where
  year := rfl
  month := rfl
  day := rfl
  agree := by simp [clues, Clues.agrees]

theorem month_lt : d.month < 100 := by
  have := d.month_mem
  omega

theorem day_lt : d.day < 100 := by
  have := d.day_mem.2.trans (daysInMonth_le d.year d.month)
  omega

theorem clues?_year : NumberKind.year.clues? [] d.year = some (d.clues.drop 2) :=
  NumberKind.clues?_year _ d rfl

theorem clues?_month : NumberKind.month.clues? (d.clues.drop 2) d.month = some (d.clues.drop 1) :=
  NumberKind.clues?_month _ d rfl

theorem clues?_day : NumberKind.day.clues? (d.clues.drop 1) d.day = some d.clues :=
  NumberKind.clues?_day _ d rfl

end Date

namespace TimeOfDay

theorem tells_clues : (t.clues ++ d.clues).Tells d where
  year := rfl
  month := rfl
  day := rfl
  agree := by simp [clues, Date.clues, Clues.agrees]

theorem lt_hundred : t.hour < 100 ∧ t.minute < 100 ∧ t.second < 100 := by
  have := t.hour_lt
  have := t.minute_lt
  have := t.second_le
  omega

/-- An hour is known as one of a half of the day. -/
theorem clues?_hour : NumberKind.hour.clues? d.clues t.hour =
    some (t.clues.drop 2 ++ d.clues) := by
  have := t.hour_lt
  have half : d.clues.add? .halfDay ((t.hour : Int) / 12) = some (t.clues.drop 3 ++ d.clues) :=
    Clues.add?_of_new (by show (0 : Int) ≤ _; omega) (by show _ ≤ (1 : Int); omega) rfl
  rw [NumberKind.clues?, if_neg (by simp; omega), half, Option.bind_some]
  exact Clues.add?_of_new (by show (0 : Int) ≤ _; omega) (by show _ ≤ (11 : Int); omega) rfl

theorem clues?_minute : NumberKind.minute.clues? (t.clues.drop 2 ++ d.clues) t.minute =
    some (t.clues.drop 1 ++ d.clues) := by
  have := t.minute_lt
  have new : Clues.get? (t.clues.drop 2 ++ d.clues) .minute = none := rfl
  exact Clues.add?_of_new (by show (0 : Int) ≤ _; omega) (by show _ ≤ (59 : Int); omega) new

theorem clues?_second : NumberKind.second.clues? (t.clues.drop 1 ++ d.clues) t.second =
    some (t.clues ++ d.clues) := by
  have := t.second_le
  have new : Clues.get? (t.clues.drop 1 ++ d.clues) .second = none := rfl
  exact Clues.add?_of_new (by show (0 : Int) ≤ _; omega) (by show _ ≤ (60 : Int); omega) new

end TimeOfDay

/-- The ISO form reads its date off any text that begins with it. -/
theorem scan?_isoDay (rest : List Char) :
    isoDay.scan? ([], d.isoChars ++ rest) = some (d.clues, rest) := by
  have year : _ = some (d.clues.drop 2, _) := NumberKind.scan?_year [] d rfl
    (endsDigits_cons (show isDigit '-' = false from rfl)
      (padNat .zero 2 d.month ++ '-' :: (padNat .zero 2 d.day ++ rest)))
  simp only [Date.isoChars, List.append_assoc, List.cons_append]
  rw [isoDay, Pattern.scan?_number_cons year, Pattern.scan?_literal_cons,
    Pattern.scan?_number_cons (NumberKind.scan?_of_isPair rfl d.month_lt d.clues?_month _),
    Pattern.scan?_literal_cons,
    Pattern.scan?_number_cons (NumberKind.scan?_of_isPair rfl d.day_lt d.clues?_day _),
    Pattern.scan?_nil]

/-- So does the form that begins with the day, off a text that has been written by it. -/
theorem scan?_dayFirst (mark : Char) :
    (dayFirst mark).scan? ([], d.dayFirstChars mark) =
      some ([(.year, d.year), (.month, (d.month : Int)), (.day, (d.day : Int))], []) := by
  have day := NumberKind.clues?_day [] d rfl
  have month := NumberKind.clues?_month [(.day, (d.day : Int))] d rfl
  have year := NumberKind.scan?_year [(.month, (d.month : Int)), (.day, (d.day : Int))] d rfl
    (show EndsDigits [] by intro c hc; cases hc)
  rw [List.append_nil] at year
  rw [dayFirst, Date.dayFirstChars,
    Pattern.scan?_number_cons (NumberKind.scan?_of_isPair rfl d.day_lt day _),
    Pattern.scan?_literal_cons,
    Pattern.scan?_number_cons (NumberKind.scan?_of_isPair rfl d.month_lt month _),
    Pattern.scan?_literal_cons, Pattern.scan?_number_cons year, Pattern.scan?_nil]

/-- A time of day is read after a date, and what follows it is left. -/
theorem scan?_clock (rest : List Char) :
    clock.scan? (d.clues, 'T' :: (t.chars ++ rest)) = some (t.clues ++ d.clues, rest) := by
  obtain ⟨hour, minute, second⟩ := t.lt_hundred
  simp only [TimeOfDay.chars, List.append_assoc, List.cons_append]
  rw [clock, Pattern.scan?_literal_cons,
    Pattern.scan?_number_cons (NumberKind.scan?_of_isPair rfl hour (t.clues?_hour d) _),
    Pattern.scan?_literal_cons,
    Pattern.scan?_number_cons (NumberKind.scan?_of_isPair rfl minute (t.clues?_minute d) _),
    Pattern.scan?_literal_cons,
    Pattern.scan?_number_cons (NumberKind.scan?_of_isPair rfl second (t.clues?_second d) _),
    Pattern.scan?_nil]

/-! ## RFC 3339 -/

/-- How RFC 3339 has an offset written. -/
abbrev fullOffset : OffsetStyle := ⟨true, false, false, false⟩

theorem scan?_timeMark (known : Clues) (rest : List Char) :
    Piece.timeMark.scan? (known, 'T' :: rest) = some (known, rest) := rfl

theorem twoDigits?_padNat {n : Nat} (h : n < 100) (rest : List Char) :
    Scan.twoDigits? (padNat .zero 2 n ++ rest) = some ((n : Int), rest) :=
  Scan.number?_of_filled (by decide) le_rfl h (by omega) rest

theorem offsetMinutes?_padNat {n : Nat} (h : n < 60) :
    Scan.offsetMinutes? fullOffset (padNat .zero 2 n) = some ((n : Int), []) := by
  have digits := twoDigits?_padNat (by omega : n < 100) []
  have nonempty : (padNat .zero 2 n).isEmpty = false :=
    List.isEmpty_eq_false_iff.2 (padNat_ne_nil (by decide))
  rw [List.append_nil] at digits
  have small : ¬ 59 < (n : Int) := by omega
  simp [Scan.offsetMinutes?, nonempty, digits, small]

namespace Zone

theorem scan?_fraction_chars (z : Zone) (known : Clues) :
    Piece.fraction.scan? (known, z.chars) = some (known, z.chars) := by
  cases z with
  | unstated | universal => rfl
  | offset ahead hours minutes => cases ahead <;> rfl

/-- An offset that is stated is taken whole, and is less than a day. -/
theorem offset?_chars {z : Zone} (stated : z ≠ .unstated) : ∃ seconds : Int,
    Scan.offset? fullOffset z.chars = some (seconds, []) ∧
      -maxOffset ≤ seconds ∧ seconds ≤ maxOffset := by
  cases z with
  | unstated => exact absurd rfl stated
  | universal => exact ⟨0, rfl, by decide, by decide⟩
  | offset ahead hours minutes =>
    have first := twoDigits?_padNat (by omega : (hours : Nat) < 100)
      (':' :: padNat .zero 2 minutes)
    have second := offsetMinutes?_padNat minutes.isLt
    have bound : maxOffset = 86340 := rfl
    cases ahead with
    | true =>
      refine ⟨(hours : Nat) * 3600 + (minutes : Nat) * 60, ?_, by omega, by omega⟩
      simp [chars, Scan.offset?, first, Scan.char?, second]
    | false =>
      refine ⟨-((hours : Nat) * 3600 + (minutes : Nat) * 60), ?_, by omega, by omega⟩
      simp [chars, Scan.offset?, first, Scan.char?, second]

end Zone

/-- A timestamp of a year with four digits is read up to its offset. -/
theorem rfc3339Clues?_timestamp (low : 0 ≤ d.year) (high : d.year ≤ 9999) (z : Zone) :
    rfc3339Clues? (d.timestampChars t z) =
      (Scan.offset? fullOffset z.chars).bind fun (seconds, rest) =>
        if !rest.isEmpty || maxOffset < seconds || seconds < -maxOffset then none
        else some (t.clues ++ d.clues) := by
  obtain ⟨hourLt, minuteLt, secondLt⟩ := t.lt_hundred
  have clue := d.clues?_year
  rw [← Int.toNat_of_nonneg low] at clue
  have year := fun rest => NumberKind.scanExact?_padNat (by decide)
    (show d.year.toNat < 10 ^ 4 by omega) (by omega) clue rest
  have month := NumberKind.scanExact?_pair d.month_lt d.clues?_month
  have day := NumberKind.scanExact?_pair d.day_lt d.clues?_day
  have hour := NumberKind.scanExact?_pair hourLt (t.clues?_hour d)
  have minute := NumberKind.scanExact?_pair minuteLt (t.clues?_minute d)
  have second := NumberKind.scanExact?_pair secondLt (t.clues?_second d)
  simp only [rfc3339Clues?, Date.timestampChars, Date.isoChars, TimeOfDay.chars, List.append_assoc,
    List.cons_append, padYear_of_plain low high, year, month, day, hour, minute, second,
    Piece.scan?_literal, scan?_timeMark, z.scan?_fraction_chars, Option.bind_eq_bind,
    Option.bind_some, Option.pure_def]

theorem ofRfc3339?_timestamp (low : 0 ≤ d.year) (high : d.year ≤ 9999) {z : Zone}
    (stated : z ≠ .unstated) : Date.ofRfc3339? (d.timestampChars t z) = some d := by
  obtain ⟨seconds, taken, least, most⟩ := Zone.offset?_chars stated
  have kept : (maxOffset < seconds || seconds < -maxOffset) = false := by
    simp [least, most]
  rw [Date.ofRfc3339?, rfc3339Clues?_timestamp d t low high, taken, Option.bind_some]
  simp [kept, Clues.date?_of_tells (t.tells_clues d)]

/-- Without an offset it is not RFC 3339. -/
theorem ofRfc3339?_timestamp_unstated (low : 0 ≤ d.year) (high : d.year ≤ 9999) :
    Date.ofRfc3339? (d.timestampChars t .unstated) = none := by
  rw [Date.ofRfc3339?, rfc3339Clues?_timestamp d t low high]
  rfl

/-! ## Forms that are passed over -/

theorem isoDay_parse?_timestamp (z : Zone) : isoDay.parse? (d.timestampChars t z) = none := by
  refine Pattern.parse?_eq_none fun known scanned => ?_
  rw [Date.timestampChars, scan?_isoDay] at scanned
  cases scanned

/-- A year that is taken for a day is not taken whole, be it a long one or one with a sign. -/
theorem isoDay_scan?_dayFirst {mark : Char} (plain : isDigit mark = false) {known : Clues}
    {rest : List Char} (h : isoDay.scan? ([], d.dayFirstChars mark) = some (known, rest)) :
    rest ≠ [] ∧ rest <:+ padYear .zero d.year := by
  have ends := endsDigits_cons plain (padNat .zero 2 d.month ++ mark :: padYear .zero d.year)
  rw [isoDay, Date.dayFirstChars,
    Pattern.scan?_number_cons (NumberKind.scan?_year_padNat [] rfl d.day_lt ends)] at h
  by_cases same : mark = '-'
  · -- The day is read as a year, the month as a month, and then the year is not.
    subst same
    have month := NumberKind.clues?_month [(.year, (d.day : Int))] d rfl
    rw [Pattern.scan?_literal_cons,
      Pattern.scan?_number_cons (NumberKind.scan?_of_isPair rfl d.month_lt month _),
      Pattern.scan?_literal_cons, Pattern.scan?_cons] at h
    obtain ⟨_, day, left⟩ := Option.bind_eq_some_iff.1 h
    cases left
    exact NumberKind.ne_nil_of_scan?_padYear (show NumberKind.day.isPair = true from rfl) day
  · rw [Pattern.scan?_cons, Piece.scan?_literal_of_ne same] at h
    cases h

/-- Nor is it, when a time is asked for after the day. -/
theorem isoDay_append_parse?_dayFirst {mark : Char} (plain : isDigit mark = false) {ps : Pattern}
    (after : ps = [] ∨ ps.head? = some (.literal 'T')) :
    Pattern.parse? (isoDay ++ ps) (d.dayFirstChars mark) = none := by
  refine Pattern.parse?_eq_none fun known scanned => ?_
  rw [Pattern.scan?_append] at scanned
  obtain ⟨⟨known', rest⟩, day, left⟩ := Option.bind_eq_some_iff.1 scanned
  obtain ⟨nonempty, suffix⟩ := isoDay_scan?_dayFirst d plain day
  obtain ⟨c, cs, rfl⟩ := List.exists_cons_of_ne_nil nonempty
  rcases after with rfl | after
  · cases left
  · -- What is left of a year does not begin with the mark of a time.
    obtain ⟨ps, rfl⟩ := List.head?_eq_some_iff.1 after
    have other : c ≠ 'T' := by
      rintro rfl
      rcases mem_padYear (suffix.mem List.mem_cons_self) with sign | sign | digit
      · cases sign
      · cases sign
      · cases digit
    rw [Pattern.scan?_cons, Piece.scan?_literal_of_ne other] at left
    cases left

theorem ofRfc3339?_dayFirst {mark : Char} (plain : isDigit mark = false) :
    Date.ofRfc3339? (d.dayFirstChars mark) = none := by
  have ends := endsDigits_cons plain (padNat .zero 2 d.month ++ mark :: padYear .zero d.year)
  have few : (padNat .zero 2 d.day).length < 4 := by
    rw [length_padNat (by decide) d.day_lt]
    decide
  have year : scanExact? .year 4 ([], d.dayFirstChars mark) = none := by
    rw [scanExact?, Date.dayFirstChars,
      Scan.number?_of_few (fun _ => isDigit_of_mem_padNat) few ends]
    rfl
  rw [Date.ofRfc3339?, rfc3339Clues?, year]
  rfl

theorem dayFirst_parse? (mark : Char) : (dayFirst mark).parse? (d.dayFirstChars mark) = some d :=
  Pattern.parse?_of_scan? (scan?_dayFirst d mark) ⟨rfl, rfl, rfl, by simp [Clues.agrees]⟩

theorem dayFirst_parse?_of_ne {mark other : Char} (h : mark ≠ other) :
    (dayFirst other).parse? (d.dayFirstChars mark) = none := by
  refine Pattern.parse?_eq_none fun known scanned => ?_
  have day := NumberKind.clues?_day [] d rfl
  rw [dayFirst, Date.dayFirstChars,
    Pattern.scan?_number_cons (NumberKind.scan?_of_isPair rfl d.day_lt day _), Pattern.scan?_cons,
    Piece.scan?_literal_of_ne h] at scanned
  cases scanned

end Calendar

open Calendar

/-! ## Formats -/

namespace DateFormats

variable (d : Date) (t : TimeOfDay)

theorem parseBy?_isoDay (cs : List Char) : parseBy? "%Y-%m-%d" cs = isoDay.parse? cs := rfl

theorem parseBy?_timestamp (cs : List Char) :
    parseBy? "%Y-%m-%dT%H:%M:%S" cs = Pattern.parse? (isoDay ++ clock) cs := rfl

theorem parseBy?_fraction (cs : List Char) :
    parseBy? "%Y-%m-%dT%H:%M:%S%.f" cs = Pattern.parse? (isoDay ++ (clock ++ [.fraction])) cs := rfl

theorem parseBy?_strokes (cs : List Char) : parseBy? "%d/%m/%Y" cs = (dayFirst '/').parse? cs := rfl

theorem parseBy?_hyphens (cs : List Char) : parseBy? "%d-%m-%Y" cs = (dayFirst '-').parse? cs := rfl

theorem parseIso?_isoChars : parseIso? d.isoChars = some d := by
  have scanned := scan?_isoDay d []
  rw [List.append_nil] at scanned
  rw [parseIso?, parseBy?_isoDay, Pattern.parse?_of_scan? scanned d.tells_clues]
  rfl

theorem parseIso?_timestamp (low : 0 ≤ d.year) (high : d.year ≤ 9999) (z : Zone) :
    parseIso? (d.timestampChars t z) = some d := by
  rw [parseIso?, parseBy?_isoDay, isoDay_parse?_timestamp]
  by_cases stated : z = .unstated
  · subst stated
    have scanned : Pattern.scan? (isoDay ++ clock) ([], d.timestampChars t .unstated) =
        some (t.clues ++ d.clues, []) := by
      rw [Pattern.scan?_append, Date.timestampChars, scan?_isoDay, Option.bind_some]
      exact scan?_clock d t []
    rw [ofRfc3339?_timestamp_unstated d t low high, parseBy?_timestamp,
      Pattern.parse?_of_scan? scanned (t.tells_clues d)]
    rfl
  · rw [ofRfc3339?_timestamp d t low high stated]
    rfl

/-- No ISO form takes a date for one that begins with the day. -/
theorem parseIso?_dayFirst {mark : Char} (plain : Decimal.isDigit mark = false) :
    parseIso? (d.dayFirstChars mark) = none := by
  have day := isoDay_append_parse?_dayFirst d plain (.inl rfl)
  rw [List.append_nil] at day
  rw [parseIso?, parseBy?_isoDay, day, ofRfc3339?_dayFirst d plain, parseBy?_timestamp,
    isoDay_append_parse?_dayFirst d plain (.inr rfl), parseBy?_fraction,
    isoDay_append_parse?_dayFirst d plain (.inr rfl)]
  rfl

theorem formatDate_isoDay : formatDate d "%Y-%m-%d" = .ok d.text := by
  rw [formatDate, show Pattern.ofText? "%Y-%m-%d" = some isoDay from rfl, Option.bind_some,
    format?_isoDay, d.text_eq]

theorem formatDate_strokes :
    formatDate d "%d/%m/%Y" = .ok (String.ofList (d.dayFirstChars '/')) := by
  rw [formatDate, show Pattern.ofText? "%d/%m/%Y" = some (dayFirst '/') from rfl, Option.bind_some,
    format?_dayFirst]

theorem formatDate_hyphens :
    formatDate d "%d-%m-%Y" = .ok (String.ofList (d.dayFirstChars '-')) := by
  rw [formatDate, show Pattern.ofText? "%d-%m-%Y" = some (dayFirst '-') from rfl, Option.bind_some,
    format?_dayFirst]

/-- A text without white space is read as it stands. -/
theorem parse_ofList {formats : DateFormats} {cs : List Char}
    (shown : ∀ c ∈ cs, Text.isBlank c = false) (nonempty : cs ≠ []) {d : Date}
    (read : (parseIso? cs <|> formats.patterns.findSome? (parseBy? · cs)) = some d) :
    formats.parse (String.ofList cs) = .ok d := by
  have trimmed := (Text.isTrimmed_of_not_blank shown).trimChars_eq
  simp only [parse, String.toList_ofList, trimmed, read]
  rw [if_neg (by simpa using nonempty)]

/-! ## Dates read back -/

theorem parse_text (formats : DateFormats) : formats.parse d.text = .ok d := by
  rw [d.text_eq]
  refine parse_ofList d.not_blank_of_mem_isoChars (by simp [Date.isoChars]) ?_
  rw [parseIso?_isoChars]
  rfl

theorem parse_timestamp (low : 0 ≤ d.year) (high : d.year ≤ 9999) (z : Zone)
    (formats : DateFormats) : formats.parse (d.timestamp t z) = .ok d := by
  rw [d.timestamp_eq t z]
  refine parse_ofList (d.not_blank_of_mem_timestampChars t z) (by simp [Date.timestampChars]) ?_
  rw [parseIso?_timestamp d t low high]
  rfl

theorem parse_strokes : standard.parse (String.ofList (d.dayFirstChars '/')) = .ok d := by
  refine parse_ofList (d.not_blank_of_mem_dayFirstChars rfl) (by simp [Date.dayFirstChars]) ?_
  rw [parseIso?_dayFirst d rfl, standard, List.findSome?_cons, parseBy?_strokes, dayFirst_parse?]
  rfl

theorem parse_hyphens : standard.parse (String.ofList (d.dayFirstChars '-')) = .ok d := by
  refine parse_ofList (d.not_blank_of_mem_dayFirstChars rfl) (by simp [Date.dayFirstChars]) ?_
  rw [parseIso?_dayFirst d rfl, standard, List.findSome?_cons, parseBy?_strokes,
    dayFirst_parse?_of_ne d (by decide), List.findSome?_cons, parseBy?_hyphens, dayFirst_parse?]
  rfl

/-- **A date that is written is read back.** In the ISO form it is whatever
else is accepted; as documents show it, or with strokes, where the standard
patterns are. A timestamp of a year with four digits gives the date that it
shows, at every time of day and with every offset. -/
theorem parse_written :
    (∀ formats : DateFormats, (formatDate d "%Y-%m-%d").bind formats.parse = .ok d) ∧
    (formatDate d Catalog.Builtin.displayDate).bind standard.parse = .ok d ∧
    (formatDate d "%d/%m/%Y").bind standard.parse = .ok d ∧
    (0 ≤ d.year → d.year ≤ 9999 → ∀ (t : TimeOfDay) (z : Zone) (formats : DateFormats),
      formats.parse (d.timestamp t z) = .ok d) := by
  refine ⟨fun formats => ?_, ?_, ?_, fun low high t z formats =>
    parse_timestamp d t low high z formats⟩
  · rw [formatDate_isoDay, Except.bind, parse_text]
  · rw [Catalog.Builtin.displayDate, formatDate_hyphens, Except.bind, parse_hyphens]
  · rw [formatDate_strokes, Except.bind, parse_strokes]

/-- A day that not every year has. -/
def leapDay : Date := ⟨2024, 2, 29, by decide, by decide, by decide⟩

/-- The last second of such a day, or rather one more. -/
def leapSecond : TimeOfDay := ⟨23, 59, 60, by decide, by decide, by decide⟩

/-- The day is where the timestamp is, not where universal time is. -/
theorem parse_written_leapDay :
    0 ≤ leapDay.year ∧ leapDay.year ≤ 9999 ∧
      leapDay.timestamp leapSecond (.offset false 5 30) = "2024-02-29T23:59:60-05:30" ∧
      standard.parse "2024-02-29T23:59:60-05:30" = .ok leapDay ∧
      formatDate leapDay Catalog.Builtin.displayDate = .ok "29-02-2024" ∧
      standard.parse "29-02-2024" = .ok leapDay := by
  have stamp : leapDay.timestamp leapSecond (.offset false 5 30) = "2024-02-29T23:59:60-05:30" := by
    decide
  have written : formatDate leapDay Catalog.Builtin.displayDate = .ok "29-02-2024" := by
    decide
  obtain ⟨-, shown, -, timestamps⟩ := parse_written leapDay
  have read := timestamps (by decide) (by decide) leapSecond (.offset false 5 30) standard
  rw [stamp] at read
  rw [written] at shown
  exact ⟨by decide, by decide, stamp, read, written, shown⟩

end DateFormats

end ContractDocs
