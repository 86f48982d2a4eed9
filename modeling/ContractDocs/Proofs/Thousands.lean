/-
Thousands: what a comma in a number means. It sets off a group of three digits,
and a text in which a comma stands for anything else is no number.

The grammar is read from the left, but thousands are grouped from the right.
`exists_byThrees`: groups from the right are groups from the left.
`Amount.quantity?_byThousands`: they change no number. Below `10 ^ 308` there
is a number to read; from there on it may be too large, with commas or without.
-/
import ContractDocs.Record
import ContractDocs.Proofs.Amounts
import ContractDocs.Proofs.Capitals
import ContractDocs.Proofs.FiniteNumbers

namespace ContractDocs.Decimal

/-! ## Commas -/

/-- The text without its commas. -/
def plain (cs : List Char) : List Char := cs.filter (· ≠ ',')

theorem mem_plain {c : Char} {cs : List Char} : c ∈ plain cs ↔ c ∈ cs ∧ c ≠ ',' := by
  rw [plain, List.mem_filter, decide_eq_true_eq]

theorem plain_append (cs rest : List Char) : plain (cs ++ rest) = plain cs ++ plain rest :=
  List.filter_append ..

theorem plain_eq_self {cs : List Char} (h : ',' ∉ cs) : plain cs = cs :=
  List.filter_eq_self.2 fun _ hc => decide_eq_true fun eq => h (eq ▸ hc)

theorem not_mem_of_digits {cs : List Char} (h : ∀ c ∈ cs, isDigit c = true) : ',' ∉ cs :=
  fun hc => absurd (h _ hc) (by decide)

theorem plain_flatMap {groups : List (List Char)}
    (digits : ∀ c ∈ groups.flatten, isDigit c = true) :
    plain (groups.flatMap (',' :: ·)) = groups.flatten := by
  induction groups with
  | nil => rfl
  | cons ds groups ih =>
    rw [List.flatten_cons, List.forall_mem_append] at digits
    have comma : plain (',' :: ds) = plain ds := List.filter_cons_of_neg (by simp)
    rw [List.flatMap_cons, plain_append, comma, plain_eq_self (not_mem_of_digits digits.1),
      ih digits.2, List.flatten_cons]

theorem Grouped.plain_eq {cs first : List Char} {groups : List (List Char)}
    (h : Grouped isDigit cs first groups) : plain cs = first ++ groups.flatten := by
  have digits := List.forall_mem_append.1 h.digits
  rw [h.whole, plain_append, plain_flatMap digits.2, plain_eq_self (not_mem_of_digits digits.1)]

theorem Grouped.mem {digit : Char → Bool} {cs first : List Char} {groups : List (List Char)}
    (h : Grouped digit cs first groups) : ∀ c ∈ cs, c = ',' ∨ digit c = true := by
  have digits := List.forall_mem_append.1 h.digits
  rw [h.whole]
  refine List.forall_mem_append.2 ⟨fun c hc => .inr (digits.1 c hc), fun c hc => ?_⟩
  obtain ⟨ds, hds, hc⟩ := List.mem_flatMap.1 hc
  exact (List.mem_cons.1 hc).imp_right fun hc => digits.2 c (List.mem_flatten_of_mem hds hc)

/-! ## Grouping -/

/-- The digits with a comma before every third one from the right. -/
def byThrees (ds : List Char) : List Char :=
  if ds.length ≤ 3 then ds
  else byThrees (ds.take (ds.length - 3)) ++ ',' :: ds.drop (ds.length - 3)
termination_by ds.length
decreasing_by
  rw [List.length_take]
  omega

/-- **Groups from the right** read as groups from the left. -/
theorem exists_byThrees {ds : List Char} (nonempty : ds ≠ []) :
    ∃ (first : List Char) (groups : List (List Char)),
      byThrees ds = first ++ groups.flatMap (',' :: ·) ∧ first ≠ [] ∧ first.length ≤ 3 ∧
      (∀ g ∈ groups, g.length = 3) ∧ first ++ groups.flatten = ds := by
  fun_induction byThrees ds with
  | case1 ds short => exact ⟨ds, [], by simp, nonempty, short, by simp, by simp⟩
  | case2 ds long ih =>
    -- The last three digits are one group more behind those of the digits before them.
    have some : ds.take (ds.length - 3) ≠ [] := by
      rw [← List.length_pos_iff, List.length_take]
      omega
    obtain ⟨first, groups, whole, nonempty, atMost, threes, digits⟩ := ih some
    refine ⟨first, groups ++ [ds.drop (ds.length - 3)], ?_, nonempty, atMost, ?_, ?_⟩
    · simp [whole]
    · refine List.forall_mem_append.2 ⟨threes, ?_⟩
      rw [List.forall_mem_singleton, List.length_drop]
      omega
    · rw [List.flatten_append, ← List.append_assoc, digits]
      simp

theorem grouped_byThrees {ds : List Char} (long : 4 ≤ ds.length)
    (digits : ∀ c ∈ ds, isDigit c = true) :
    SetsOffThousands isDigit (byThrees ds) ∧ plain (byThrees ds) = ds := by
  have nonempty : ds ≠ [] := List.ne_nil_of_length_pos (by omega)
  obtain ⟨first, groups, whole, some, atMost, threes, rfl⟩ := exists_byThrees nonempty
  have commas : groups ≠ [] := by
    rintro rfl
    simp at long
    omega
  have grouped : Grouped isDigit (byThrees (first ++ groups.flatten)) first groups :=
    ⟨whole, some, atMost, commas, threes, digits⟩
  exact ⟨⟨first, groups, grouped⟩, grouped.plain_eq⟩

/-! ## Amounts as texts -/

/-- What stands in a number besides digits. -/
def marks : List Char := ['+', '-', '.', ',']

theorem isBlank_eq_false {c : Char} (h : c ∈ marks ∨ isDigit c = true) :
    Text.isBlank c = false := by
  have range : 0x2B ≤ c.toNat ∧ c.toNat ≤ 0x39 := by
    rcases h with h | h
    · simp only [marks, List.mem_cons, List.not_mem_nil, or_false] at h
      rcases h with rfl | rfl | rfl | rfl <;> decide
    · rw [isDigit_iff] at h
      omega
  exact Text.isBlank_of_blankless (by decide : Text.blankless 0x2B 0x39 = true) range.1 range.2

namespace Amount

variable {a : Amount} {digit digit' : Char → Bool} {isWhole : List Char → Prop}

theorem WellFormed.mem_chars (h : a.WellFormed digit isWhole)
    (whole : ∀ c ∈ a.whole, c = ',' ∨ digit c = true) :
    ∀ c ∈ a.chars, c ∈ marks ∨ digit c = true := by
  intro c hc
  simp only [chars, List.mem_append, Option.mem_toList] at hc
  rcases hc with hc | hc | hc
  · rcases h.sign c hc with rfl | rfl <;> simp [marks]
  · exact (whole c hc).imp_left fun eq => by simp [eq, marks]
  · cases fraction : a.fraction with
    | none => simp [fraction, pointed] at hc
    | some ds =>
      rw [fraction, pointed, List.mem_cons] at hc
      rcases hc with rfl | hc
      · simp [marks]
      · exact .inr ((h.fraction ds fraction).2 c hc)

/-- The digits may be those of another class, as far as they are in the text. -/
theorem WellFormed.of_digits (h : a.WellFormed digit (SetsOffThousands digit))
    (others : ∀ c ∈ a.chars, digit c = true → digit' c = true) :
    a.WellFormed digit' (SetsOffThousands digit') := by
  obtain ⟨first, groups, grouped⟩ := h.whole
  refine ⟨h.sign, ⟨first, groups, { grouped with digits := fun c hc => ?_ }⟩, fun ds hds =>
    ⟨(h.fraction ds hds).1, fun c hc => ?_⟩⟩
  · refine others c ?_ (grouped.digits c hc)
    have inWhole : c ∈ a.whole := by
      rw [grouped.whole]
      refine (List.mem_append.1 hc).elim (List.mem_append_left _) fun hc => ?_
      obtain ⟨g, hg, hc⟩ := List.mem_flatten.1 hc
      exact List.mem_append_right _ (List.mem_flatMap.2 ⟨g, hg, List.mem_cons_of_mem _ hc⟩)
    simp [chars, inWhole]
  · refine others c ?_ ((h.fraction ds hds).2 c hc)
    rw [chars, Option.mem_def.1 hds, pointed]
    simp [hc]

/-- Only the whole part can have commas. -/
theorem WellFormed.plain_chars (h : a.WellFormed isDigit isWhole) :
    plain a.chars = { a with whole := plain a.whole }.chars := by
  have sign : ',' ∉ a.sign.toList := fun hc => by
    rcases h.sign _ (Option.mem_toList.1 hc) with eq | eq <;> cases eq
  have fraction : ',' ∉ pointed a.fraction := by
    cases fraction : a.fraction with
    | none => simp [pointed]
    | some ds =>
      rw [pointed, List.mem_cons, not_or]
      exact ⟨by decide, not_mem_of_digits (h.fraction ds fraction).2⟩
  rw [chars, plain_append, plain_append, plain_eq_self sign, plain_eq_self fraction, chars]

end Amount

/-! ## Reading -/

theorem quantity?_eq_some_iff {cs : List Char} (comma : ',' ∈ cs) {x : Float} :
    quantity? cs = some x ↔
      (∃ a : Amount, a.WellFormed isDigit (SetsOffThousands isDigit) ∧ a.chars = cs) ∧
        finite? (plain cs) = some x := by
  rw [quantity?, if_pos (List.contains_iff_mem.2 comma), ← isGrouped_iff]
  split
  · next grouped => rw [plain, and_iff_right grouped]
  · next notGrouped => simp [notGrouped]

theorem quantity?_of_not_mem {cs : List Char} (h : ',' ∉ cs) : quantity? cs = finite? cs := by
  rw [quantity?, if_neg (fun comma => h (List.contains_iff_mem.1 comma))]

/-- A text without white space is read as it stands. -/
theorem quantity?_ofList {cs : List Char} (h : ∀ c ∈ cs, c ∈ marks ∨ isDigit c = true) :
    (Json.string (String.ofList cs)).quantity? = quantity? cs := by
  have trimmed := (Text.isTrimmed_of_not_blank fun c hc => isBlank_eq_false (h c hc)).trimChars_eq
  rw [Json.quantity?, String.toList_ofList, trimmed]

theorem quantity?_plain {cs : List Char} {a : Amount}
    (h : a.WellFormed isDigit (SetsOffThousands isDigit)) (text : a.chars = cs) :
    (Json.string (String.ofList (plain cs))).quantity? = finite? (plain cs) := by
  obtain ⟨first, groups, grouped⟩ := h.whole
  have spelled := h.mem_chars grouped.mem
  rw [text] at spelled
  rw [quantity?_ofList fun c hc => spelled c (mem_plain.1 hc).1, quantity?_of_not_mem]
  simp [mem_plain]

/-- **Commas set off thousands.** -/
theorem quantity?_string_iff {s : String} (comma : ',' ∈ Text.trimChars s.toList) {x : Float} :
    (Json.string s).quantity? = some x ↔
      (∃ a : Amount, a.WellFormed isDigit (SetsOffThousands isDigit) ∧
        a.chars = Text.trimChars s.toList) ∧
      (Json.string (String.ofList (plain (Text.trimChars s.toList)))).quantity? = some x := by
  rw [Json.quantity?, quantity?_eq_some_iff comma]
  refine and_congr_right ?_
  rintro ⟨a, h, text⟩
  rw [quantity?_plain h text]

/-- It makes no difference which other characters are taken for digits. -/
theorem wellFormed_iff_of_ascii {digit : Char → Bool}
    (ascii : ∀ c : Char, c.toNat < 128 → digit c = isDigit c) {cs : List Char} {x : Float}
    (read : finite? (plain cs) = some x) :
    (∃ a : Amount, a.WellFormed digit (SetsOffThousands digit) ∧ a.chars = cs) ↔
      ∃ a : Amount, a.WellFormed isDigit (SetsOffThousands isDigit) ∧ a.chars = cs := by
  have all : ∀ c ∈ cs, digit c = isDigit c := by
    intro c hc
    refine ascii c ?_
    by_cases comma : c = ','
    · rw [comma]
      decide
    · exact isAscii_of_finite? read c (mem_plain.2 ⟨hc, comma⟩)
  constructor
  · rintro ⟨a, h, rfl⟩
    exact ⟨a, h.of_digits fun c hc digit => (all c hc) ▸ digit, rfl⟩
  · rintro ⟨a, h, rfl⟩
    exact ⟨a, h.of_digits fun c hc digit => (all c hc).symm ▸ digit, rfl⟩

namespace Amount

/-- A whole part of at least four digits. -/
def HasThousands (cs : List Char) : Prop := 4 ≤ cs.length ∧ ∀ c ∈ cs, isDigit c = true

/-- The number with its whole part grouped by threes from the right. -/
def byThousands (a : Amount) : Amount := { a with whole := byThrees a.whole }

variable {a : Amount}

theorem WellFormed.byThousands (h : a.WellFormed isDigit HasThousands) :
    a.byThousands.WellFormed isDigit (SetsOffThousands isDigit) :=
  ⟨h.sign, (grouped_byThrees h.whole.1 h.whole.2).1, h.fraction⟩

/-- **Grouping changes no number.** -/
theorem quantity?_byThousands (h : a.WellFormed isDigit HasThousands) :
    (Json.string (String.ofList a.byThousands.chars)).quantity? =
      (Json.string (String.ofList a.chars)).quantity? := by
  have grouped := h.byThousands
  obtain ⟨first, groups, parts⟩ := grouped.whole
  have same : plain a.byThousands.chars = a.chars := by
    rw [grouped.plain_chars, Amount.byThousands, (grouped_byThrees h.whole.1 h.whole.2).2]
  have comma : ',' ∈ a.byThousands.chars := by
    obtain ⟨g, groups, rfl⟩ := List.exists_cons_of_ne_nil parts.commas
    simp [chars, parts.whole]
  rw [quantity?_ofList (grouped.mem_chars parts.mem)]
  refine Option.ext fun x => ?_
  rw [quantity?_eq_some_iff comma, ← same, quantity?_plain grouped rfl]
  exact and_iff_right ⟨_, grouped, rfl⟩

theorem endsDigits_pointed (fraction : Option (List Char)) : EndsDigits (pointed fraction) := by
  cases fraction with
  | none => simp [EndsDigits, pointed]
  | some ds => simp [EndsDigits, pointed, isDigit]

/-- The number as a numeral without an exponent. -/
def numeral (a : Amount) : Numeral :=
  ⟨decide (a.sign = some '-'), a.whole, a.fraction.getD [], 0⟩

theorem WellFormed.ofChars?_chars (h : a.WellFormed isDigit HasThousands) :
    Numeral.ofChars? a.chars = some a.numeral := by
  have nonempty : a.whole ≠ [] := List.ne_nil_of_length_pos (by have := h.whole.1; omega)
  obtain ⟨taken, dropped⟩ := span_digits h.whole.2 (endsDigits_pointed a.fraction)
  have some : a.whole.isEmpty = false := List.isEmpty_eq_false_iff.2 nonempty
  simp only [Numeral.ofChars?, chars, takeSign_digits h.sign nonempty h.whole.2, taken, dropped,
    numeral]
  cases fraction : a.fraction with
  | none => simp [pointed, some, exponentPart?]
  | some ds =>
    have ends : EndsDigits [] := by simp [EndsDigits]
    obtain ⟨all, none⟩ := span_digits (h.fraction ds fraction).2 ends
    rw [List.append_nil] at all none
    simp [pointed, some, all, none, exponentPart?]

theorem WellFormed.not_mem_chars (h : a.WellFormed isDigit HasThousands) : ',' ∉ a.chars := by
  have same := h.plain_chars
  rw [plain_eq_self (not_mem_of_digits h.whole.2)] at same
  rw [← same]
  simp [mem_plain]

/-- **A plain number below `10 ^ 308`** is read. -/
theorem exists_quantity? (h : a.WellFormed isDigit HasThousands)
    (small : digitsValue a.whole < 10 ^ 308) :
    ∃ x, (Json.string (String.ofList a.chars)).quantity? = some x := by
  have fraction : ∀ c ∈ a.numeral.fraction, isDigit c = true := by
    rw [numeral]
    cases fraction : a.fraction with
    | none => simp
    | some ds => exact (h.fraction ds fraction).2
  have whole : (digitsValue a.whole + 1 : ℚ) ≤ 10 ^ 308 := by exact_mod_cast small
  have finite := Numeral.isFinite_toFloat (n := a.numeral)
    (List.forall_mem_append.2 ⟨h.whole.2, fraction⟩)
    ((Numeral.magnitude_lt fraction rfl).trans_le (whole.trans lt_largest.le))
  refine ⟨a.numeral.toFloat, ?_⟩
  rw [quantity?_ofList (h.mem_chars fun c hc => .inr (h.whole.2 c hc)),
    quantity?_of_not_mem h.not_mem_chars, finite?, h.ofChars?_chars]
  simp [finite]

end Amount

/-- **A comma sets off thousands** and means nothing else. -/
theorem commas_set_off_thousands :
    (∀ s : String, ',' ∈ Text.trimChars s.toList → ∀ x, (Json.string s).quantity? = some x ↔
      (∃ a : Amount, a.WellFormed isDigit (SetsOffThousands isDigit) ∧
        a.chars = Text.trimChars s.toList) ∧
      (Json.string (String.ofList (plain (Text.trimChars s.toList)))).quantity? = some x) ∧
    (∀ digit : Char → Bool, (∀ c : Char, c.toNat < 128 → digit c = isDigit c) →
      ∀ s : String, ',' ∈ Text.trimChars s.toList → ∀ x, (Json.string s).quantity? = some x ↔
        (∃ a : Amount, a.WellFormed digit (SetsOffThousands digit) ∧
          a.chars = Text.trimChars s.toList) ∧
        finite? (plain (Text.trimChars s.toList)) = some x) ∧
    ∀ a : Amount, a.WellFormed isDigit Amount.HasThousands →
      a.byThousands.WellFormed isDigit (SetsOffThousands isDigit) ∧
      (Json.string (String.ofList a.byThousands.chars)).quantity? =
        (Json.string (String.ofList a.chars)).quantity? ∧
      (digitsValue a.whole < 10 ^ 308 →
        ∃ x, (Json.string (String.ofList a.byThousands.chars)).quantity? = some x) := by
  refine ⟨fun s comma x => quantity?_string_iff comma, fun digit ascii s comma x => ?_, fun a h =>
    ⟨h.byThousands, Amount.quantity?_byThousands h, fun small => ?_⟩⟩
  · rw [Json.quantity?, quantity?_eq_some_iff comma]
    exact and_congr_left fun read => (wellFormed_iff_of_ascii ascii read).symm
  · rw [Amount.quantity?_byThousands h]
    exact Amount.exists_quantity? h small

/-- An amount of money. -/
def salary : Amount := ⟨none, ['1', '2', '3', '4', '5', '6', '7'], some ['5', '0']⟩

theorem commas_set_off_thousands_salary :
    (Json.string "1,234,567.50").quantity? = (Json.string "1234567.50").quantity? ∧
    (∃ x, (Json.string "1,234,567.50").quantity? = some x) ∧
    (∃ a : Amount, a.WellFormed isDigit (SetsOffThousands isDigit) ∧
      a.chars = "1,234,567.50".toList) := by
  obtain ⟨grammar, -, grouping⟩ := commas_set_off_thousands
  have wellFormed : salary.WellFormed isDigit Amount.HasThousands :=
    ⟨by rintro _ ⟨⟩, ⟨by decide, List.all_eq_true.1 rfl⟩,
      by rintro _ ⟨⟩; exact ⟨by decide, List.all_eq_true.1 rfl⟩⟩
  have text : salary.byThousands.chars = "1,234,567.50".toList := by decide +kernel
  have trimmed : Text.trimChars "1,234,567.50".toList = "1,234,567.50".toList := by decide +kernel
  obtain ⟨-, same, read⟩ := grouping salary wellFormed
  rw [text, String.ofList_toList] at same read
  obtain ⟨x, hx⟩ := read (by decide +kernel)
  have shape := ((grammar "1,234,567.50" (by rw [trimmed]; decide) x).1 hx).1
  rw [trimmed] at shape
  exact ⟨same, ⟨x, hx⟩, shape⟩

end ContractDocs.Decimal
