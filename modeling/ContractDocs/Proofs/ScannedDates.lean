/-
Scanned dates: what the scanner makes of the numbers that a date is written
with, and what it then knows.

`Scan.number?_of_digits`: a number is taken to its last digit, or to its width.
So a number that fills its width can be followed by anything
(`Scan.number?_of_filled`), and a year, which may be longer, by anything but a
digit (`Scan.signedNumber?_padYear`). `Clues.date?_of_tells`: a year, a month and
a day that are those of a date determine it, whatever is known of the time.
-/
import ContractDocs.Proofs.Forms

namespace ContractDocs.Calendar

open Decimal (isDigit digitsValue digitChars EndsDigits)

/-! ## Numbers as they are written -/

theorem isDigit_of_mem_padNat {width n : Nat} {c : Char} (h : c ∈ padNat .zero width n) :
    isDigit c = true := by
  rcases List.mem_append.1 h with h | h
  · rw [List.eq_of_mem_replicate h]
    rfl
  · exact Decimal.isDigit_of_mem_digitChars h

theorem digitsValue_padNat (width n : Nat) : digitsValue (padNat .zero width n) = n := by
  show digitsValue (List.replicate _ '0' ++ digitChars n) = n
  rw [Decimal.digitsValue_append, Decimal.digitsValue_zeros, Decimal.digitsValue_digitChars,
    Nat.zero_mul, Nat.zero_add]

theorem le_length_padNat (width n : Nat) : width ≤ (padNat .zero width n).length := by
  simp only [padNat, fill, List.length_append, List.length_replicate]
  omega

theorem length_padNat {width n : Nat} (positive : 0 < width) (h : n < 10 ^ width) :
    (padNat .zero width n).length = width := by
  have short := (Nat.length_toDigits_le_iff (by decide) positive).2 h
  simp only [padNat, fill, List.length_append, List.length_replicate, digitChars]
  omega

/-- A year of four digits has no sign. -/
theorem padYear_of_plain {year : Int} (low : 0 ≤ year) (high : year ≤ 9999) :
    padYear .zero year = padNat .zero 4 year.toNat := by
  rw [padYear, if_pos (by simp [low, high])]

/-- Every other year has one. -/
theorem padYear_of_not_plain {year : Int} (h : ¬ (0 ≤ year ∧ year ≤ 9999)) :
    padYear .zero year = (if year < 0 then '-' else '+') :: padNat .zero 4 year.natAbs := by
  rw [padYear, if_neg (by simpa using h)]
  rfl

theorem padNat_ne_nil {width n : Nat} (positive : 0 < width) : padNat .zero width n ≠ [] :=
  List.ne_nil_of_length_pos (positive.trans_le (le_length_padNat width n))

theorem four_le_length_padYear (year : Int) : 4 ≤ (padYear .zero year).length := by
  by_cases plain : 0 ≤ year ∧ year ≤ 9999
  · rw [padYear_of_plain plain.1 plain.2]
    exact le_length_padNat 4 _
  · rw [padYear_of_not_plain plain, List.length_cons]
    exact (le_length_padNat 4 _).trans (Nat.le_succ _)

theorem padYear_ne_nil (year : Int) : padYear .zero year ≠ [] :=
  List.ne_nil_of_length_pos (Nat.lt_of_lt_of_le (by decide) (four_le_length_padYear year))

theorem not_blank_of_mem_padNat {width n : Nat} {c : Char} (h : c ∈ padNat .zero width n) :
    Text.isBlank c = false :=
  Slot.IsChar.not_blank (.inr (isDigit_of_mem_padNat h))

/-- A year is written with digits and a sign. -/
theorem mem_padYear {year : Int} {c : Char} (h : c ∈ padYear .zero year) :
    c = '+' ∨ Slot.IsChar c := by
  by_cases plain : 0 ≤ year ∧ year ≤ 9999
  · rw [padYear_of_plain plain.1 plain.2] at h
    exact .inr (.inr (isDigit_of_mem_padNat h))
  · rw [padYear_of_not_plain plain, List.mem_cons] at h
    rcases h with rfl | h
    · split
      · exact .inr (.inl rfl)
      · exact .inl rfl
    · exact .inr (.inr (isDigit_of_mem_padNat h))

theorem not_blank_of_mem_padYear {year : Int} {c : Char} (h : c ∈ padYear .zero year) :
    Text.isBlank c = false := by
  rcases mem_padYear h with rfl | h
  · rfl
  · exact h.not_blank

theorem endsDigits_cons {c : Char} (plain : isDigit c = false) (rest : List Char) :
    EndsDigits (c :: rest) := by
  intro d hd
  cases hd
  exact plain

/-! ## Taking a number -/

namespace Scan

/-- A run of digits is taken if it is long enough, and ends or fills the width. -/
theorem number?_of_digits {least most : Nat} {ds rest : List Char}
    (digits : ∀ c ∈ ds, isDigit c = true) (enough : least ≤ ds.length)
    (ends : ds.length = most ∨ ds.length ≤ most ∧ EndsDigits rest)
    (fits : digitsValue ds < 9223372036854775808) :
    number? least most (ds ++ rest) = some ((digitsValue ds : Int), rest) := by
  have taken : ((ds ++ rest).takeWhile isDigit).take most = ds := by
    rcases ends with full | ⟨room, ends⟩
    · rw [List.takeWhile_append_of_pos digits, List.take_left' full]
    · rw [(Decimal.span_digits digits ends).1, List.take_of_length_le room]
  have kept : (ds.length < least || 9223372036854775808 ≤ digitsValue ds) = false := by
    simp [enough, fits]
  simp only [number?, taken, kept, Bool.false_eq_true, if_false, List.drop_left]

/-- Too few digits are no number. -/
theorem number?_of_few {least most : Nat} {ds rest : List Char}
    (digits : ∀ c ∈ ds, isDigit c = true) (few : ds.length < least) (ends : EndsDigits rest) :
    number? least most (ds ++ rest) = none := by
  have short : (ds.take most).length < least :=
    (List.length_take_le' most ds).trans_lt few
  simp only [number?, (Decimal.span_digits digits ends).1, short, decide_true, Bool.true_or,
    if_true]

/-- What is left of a text, and how much is taken. -/
theorem number?_eq_some {least most : Nat} {cs rest : List Char} {v : Int}
    (h : number? least most cs = some (v, rest)) :
    rest <:+ cs ∧ cs.length ≤ rest.length + most := by
  simp only [number?] at h
  split at h
  · cases h
  · rw [Option.some.injEq, Prod.mk.injEq] at h
    obtain ⟨-, rfl⟩ := h
    refine ⟨List.drop_suffix _ _, ?_⟩
    rw [List.length_drop, List.length_take]
    omega

theorem number?_padNat {least most width n : Nat} {rest : List Char} (enough : least ≤ width)
    (ends : (padNat .zero width n).length = most ∨
      (padNat .zero width n).length ≤ most ∧ EndsDigits rest)
    (bounded : n < 9223372036854775808) :
    number? least most (padNat .zero width n ++ rest) = some ((n : Int), rest) := by
  have value := digitsValue_padNat width n
  rw [number?_of_digits (fun _ => isDigit_of_mem_padNat) (enough.trans (le_length_padNat width n))
    ends (value.symm ▸ bounded), value]

/-- A number that fills its width can be followed by anything. -/
theorem number?_of_filled {least width n : Nat} (positive : 0 < width) (enough : least ≤ width)
    (fits : n < 10 ^ width) (bounded : n < 9223372036854775808) (rest : List Char) :
    number? least width (padNat .zero width n ++ rest) = some ((n : Int), rest) :=
  number?_padNat enough (.inl (length_padNat positive fits)) bounded

theorem signedNumber?_of_digit {width : Nat} {c : Char} {cs : List Char}
    (digit : isDigit c = true) : signedNumber? width (c :: cs) = number? 1 width (c :: cs) := by
  unfold signedNumber?
  split
  · next same =>
    cases same
    cases digit
  · next same =>
    cases same
    cases digit
  · rfl

/-- Without a sign the width counts. -/
theorem signedNumber?_padNat {most width n : Nat} {rest : List Char} (positive : 0 < width)
    (ends : (padNat .zero width n).length = most ∨
      (padNat .zero width n).length ≤ most ∧ EndsDigits rest)
    (bounded : n < 9223372036854775808) :
    signedNumber? most (padNat .zero width n ++ rest) = some ((n : Int), rest) := by
  obtain ⟨c, cs, split⟩ := List.exists_cons_of_ne_nil (padNat_ne_nil (n := n) positive)
  have digit : isDigit c = true := isDigit_of_mem_padNat (split ▸ List.mem_cons_self)
  rw [← number?_padNat positive ends bounded, split, List.cons_append,
    signedNumber?_of_digit digit]

theorem signedNumber?_padYear {year : Int} (low : minYear ≤ year) (high : year ≤ maxYear)
    {rest : List Char} (ends : EndsDigits rest) :
    signedNumber? 4 (padYear .zero year ++ rest) = some (year, rest) := by
  rw [minYear] at low
  rw [maxYear] at high
  by_cases plain : 0 ≤ year ∧ year ≤ 9999
  · rw [padYear_of_plain plain.1 plain.2, signedNumber?_padNat (by decide)
      (.inl (length_padNat (by decide) (by omega))) (by omega), Int.toNat_of_nonneg plain.1]
  · have room : (padNat .zero 4 year.natAbs).length ≤
        (padNat .zero 4 year.natAbs ++ rest).length := by
      rw [List.length_append]
      omega
    have taken := number?_padNat (by decide : 1 ≤ 4) (.inr ⟨room, ends⟩) (by omega)
    rw [padYear_of_not_plain plain, List.cons_append]
    split
    · next negative =>
      show (number? 1 _ _).map _ = _
      rw [taken, Option.map_some]
      simp only [Option.some.injEq, Prod.mk.injEq, and_true]
      omega
    · next positive =>
      show number? 1 _ _ = _
      rw [taken]
      simp only [Option.some.injEq, Prod.mk.injEq, and_true]
      omega

end Scan

/-! ## What is known -/

namespace Clues

variable {cs : Clues}

theorem add?_of_new {c : Clue} {v : Int} (low : c.range.1 ≤ v) (high : v ≤ c.range.2)
    (new : cs.get? c = none) : cs.add? c v = some ((c, v) :: cs) := by
  rw [add?, if_neg (by simp [low, high]), new]

/-- Year, month and day are those of the date, and nothing that is known speaks against it. -/
structure Tells (cs : Clues) (d : Date) : Prop where
  year : cs.get? .year = some d.year
  month : cs.get? .month = some (d.month : Int)
  day : cs.get? .day = some (d.day : Int)
  agree : cs.all (agrees d) = true

theorem date?_of_tells {d : Date} (h : cs.Tells d) : cs.date? = some d := by
  have found : Date.of? d.year d.month d.day = some d := by
    rw [Date.of?, dif_pos ⟨d.year_mem, d.month_mem, d.day_mem⟩]
  simp only [date?, h.year, yearFrom, determined?, h.month, h.day, Int.toNat_natCast, found]
  simp [h.agree]

end Clues

/-! ## Numbers of a pattern -/

theorem daysInMonth_le (year : Int) (month : Nat) : daysInMonth year month ≤ 31 := by
  rw [daysInMonth, List.getD_eq_getElem?_getD]
  cases h : (monthLengths year)[month - 1]? with
  | none => decide
  | some n =>
    have member := List.mem_of_getElem? h
    simp only [monthLengths, List.mem_cons, List.not_mem_nil, or_false] at member
    rw [Option.getD_some]
    split at member <;> omega

theorem trimStart_append_of_not_blank {cs : List Char} (nonempty : cs ≠ [])
    (h : ∀ c ∈ cs, Text.isBlank c = false) (rest : List Char) :
    Text.trimStart (cs ++ rest) = cs ++ rest := by
  refine Text.trimStart_eq_self fun c hc => h c ?_
  rw [List.head?_append_of_ne_nil _ nonempty] at hc
  exact List.mem_of_head? hc

theorem trimStart_padNat {width : Nat} (positive : 0 < width) (n : Nat) (rest : List Char) :
    Text.trimStart (padNat .zero width n ++ rest) = padNat .zero width n ++ rest :=
  trimStart_append_of_not_blank (padNat_ne_nil positive) (fun _ => not_blank_of_mem_padNat) rest

theorem trimStart_padYear (year : Int) (rest : List Char) :
    Text.trimStart (padYear .zero year ++ rest) = padYear .zero year ++ rest :=
  trimStart_append_of_not_blank (padYear_ne_nil year) (fun _ => not_blank_of_mem_padYear) rest

namespace NumberKind

/-- The numbers of a timestamp that have two digits. -/
def isPair : NumberKind → Bool
  | .month | .day | .hour | .minute | .second => true
  | _ => false

variable {kind : NumberKind} {known known' : Clues}

theorem scan?_eq_of_isPair (pair : kind.isPair = true) (cs : List Char) :
    kind.scan? (known, cs) = (Scan.number? 1 2 (Text.trimStart cs)).bind fun (v, rest) =>
      (kind.clues? known v).map (·, rest) := by
  cases kind with
  | month | day | hour | minute | second =>
    simp only [scan?, width, Option.bind_eq_bind, Option.pure_def, Option.map_eq_bind,
      Function.comp_def]
  | _ => cases pair

/-- A number that fills its two places can be followed by anything. -/
theorem scan?_of_isPair (pair : kind.isPair = true) {n : Nat} (fits : n < 100)
    (clues : kind.clues? known n = some known') (rest : List Char) :
    kind.scan? (known, padNat .zero 2 n ++ rest) = some (known', rest) := by
  rw [scan?_eq_of_isPair pair, trimStart_padNat (by decide),
    Scan.number?_of_filled (by decide) (by decide) fits (by omega)]
  simp [clues]

theorem scanExact?_padNat {width n : Nat} (positive : 0 < width) (fits : n < 10 ^ width)
    (bounded : n < 9223372036854775808) (clues : kind.clues? known n = some known')
    (rest : List Char) :
    scanExact? kind width (known, padNat .zero width n ++ rest) = some (known', rest) := by
  rw [scanExact?, Scan.number?_of_filled positive le_rfl fits bounded]
  simp [clues]

/-- Two digits where two are asked for. -/
theorem scanExact?_pair {n : Nat} (fits : n < 100) (clues : kind.clues? known n = some known')
    (rest : List Char) :
    scanExact? kind 2 (known, padNat .zero 2 n ++ rest) = some (known', rest) :=
  scanExact?_padNat (by decide) fits (by omega) clues rest

theorem clues?_year (known : Clues) (d : Date) (new : known.get? .year = none) :
    NumberKind.year.clues? known d.year = some ((.year, d.year) :: known) := by
  obtain ⟨low, high⟩ := d.year_mem
  rw [minYear] at low
  rw [maxYear] at high
  exact Clues.add?_of_new (by show (-2147483648 : Int) ≤ _; omega)
    (by show _ ≤ (2147483647 : Int); omega) new

theorem scan?_year (known : Clues) (d : Date) (new : known.get? .year = none) {rest : List Char}
    (ends : EndsDigits rest) :
    NumberKind.year.scan? (known, padYear .zero d.year ++ rest) =
      some ((.year, d.year) :: known, rest) := by
  rw [scan?, trimStart_padYear]
  simp only [width, Scan.signedNumber?_padYear d.year_mem.1 d.year_mem.2 ends]
  simp [clues?_year known d new]

/-- The first two digits of a text are a year if no third one follows. -/
theorem scan?_year_padNat (known : Clues) (new : known.get? .year = none) {n : Nat} (h : n < 100)
    {rest : List Char} (ends : EndsDigits rest) :
    NumberKind.year.scan? (known, padNat .zero 2 n ++ rest) =
      some ((.year, (n : Int)) :: known, rest) := by
  have length := length_padNat (by decide) (show n < 10 ^ 2 from h)
  have taken : Scan.signedNumber? 4 (padNat .zero 2 n ++ rest) = some ((n : Int), rest) :=
    Scan.signedNumber?_padNat (by decide) (.inr ⟨by omega, ends⟩) (by omega)
  have clue : NumberKind.year.clues? known n = some ((.year, (n : Int)) :: known) :=
    Clues.add?_of_new (by show (-2147483648 : Int) ≤ _; omega)
      (by show _ ≤ (2147483647 : Int); omega) new
  rw [scan?, trimStart_padNat (by decide)]
  simp only [width, taken]
  simp [clue]

/-- Two places are never enough for a year. -/
theorem ne_nil_of_scan?_padYear (pair : kind.isPair = true) {year : Int} {rest : List Char}
    (h : kind.scan? (known, padYear .zero year) = some (known', rest)) :
    rest ≠ [] ∧ rest <:+ padYear .zero year := by
  have whole := trimStart_padYear year []
  rw [List.append_nil] at whole
  rw [scan?_eq_of_isPair pair, whole] at h
  simp only [Option.bind_eq_some_iff, Option.map_eq_some_iff, Prod.mk.injEq] at h
  obtain ⟨⟨v, left⟩, taken, _, -, -, rfl⟩ := h
  obtain ⟨suffix, room⟩ := Scan.number?_eq_some taken
  have long := four_le_length_padYear year
  have left : 0 < left.length := by omega
  exact ⟨List.ne_nil_of_length_pos left, suffix⟩

/-! ## What the numbers of a date say -/

theorem clues?_month (known : Clues) (d : Date) (new : known.get? .month = none) :
    NumberKind.month.clues? known d.month = some ((.month, (d.month : Int)) :: known) := by
  obtain ⟨low, high⟩ := d.month_mem
  exact Clues.add?_of_new (by show (1 : Int) ≤ _; omega) (by show _ ≤ (12 : Int); omega) new

theorem clues?_day (known : Clues) (d : Date) (new : known.get? .day = none) :
    NumberKind.day.clues? known d.day = some ((.day, (d.day : Int)) :: known) := by
  have low := d.day_mem.1
  have high := d.day_mem.2.trans (daysInMonth_le d.year d.month)
  exact Clues.add?_of_new (by show (1 : Int) ≤ _; omega) (by show _ ≤ (31 : Int); omega) new

end NumberKind

/-! ## Pieces -/

@[simp] theorem Piece.scan?_literal (c : Char) (known : Clues) (rest : List Char) :
    (Piece.literal c).scan? (known, c :: rest) = some (known, rest) := by
  simp [scan?, Scan.char?]

theorem Piece.scan?_literal_of_ne {c d : Char} (h : d ≠ c) (known : Clues) (rest : List Char) :
    (Piece.literal c).scan? (known, d :: rest) = none := by
  simp [scan?, Scan.char?, h]

namespace Pattern

variable {p : Piece} {ps qs : Pattern} {s : ScanState}

@[simp] theorem scan?_nil : scan? [] s = some s := rfl

theorem scan?_cons : scan? (p :: ps) s = (p.scan? s).bind (scan? ps) := List.foldlM_cons

theorem scan?_append : scan? (ps ++ qs) s = (scan? ps s).bind (scan? qs) := List.foldlM_append

theorem scan?_literal_cons (c : Char) (known : Clues) (rest : List Char) :
    scan? (.literal c :: ps) (known, c :: rest) = scan? ps (known, rest) := by
  rw [scan?_cons, Piece.scan?_literal, Option.bind_some]

/-- A number that is taken leaves the rest to the other pieces. -/
theorem scan?_number_cons {kind : NumberKind} {pad : Pad} {s' : ScanState}
    (h : kind.scan? s = some s') : scan? (.number kind pad :: ps) s = scan? ps s' := by
  rw [scan?_cons, show (Piece.number kind pad).scan? s = some s' from h, Option.bind_some]

theorem parse?_of_scan? {cs : List Char} {known : Clues} {d : Date}
    (h : ps.scan? ([], cs) = some (known, [])) (told : known.Tells d) : ps.parse? cs = some d := by
  rw [parse?, clues?, h]
  exact Clues.date?_of_tells told

theorem parse?_eq_none {cs : List Char} (h : ∀ known, ps.scan? ([], cs) ≠ some (known, [])) :
    ps.parse? cs = none := by
  rw [parse?, clues?]
  split
  · next known scanned => exact absurd scanned (h known)
  · rfl

end Pattern

end ContractDocs.Calendar
