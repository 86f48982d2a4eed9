/-
How numbers are written: a run of digits, perhaps a fraction, perhaps an
exponent. Every number is written by the grammar of JSON, and reading the
parts back gives the value that was written.

`isNumber_numberChars`: what is written is a number of JSON text.
`numberChars_injective`: no two numbers are written alike, whole ones and
fractions included.
-/
import ContractDocs.Json.Tree
import ContractDocs.Json.Printer
import ContractDocs.Proofs.Rounding
import ContractDocs.Proofs.ShortestDecimal

namespace ContractDocs.Decimal

open Json (Token)

/-! ## Digits -/

theorem isDigit_iff {c : Char} : isDigit c = true ↔ 0x30 ≤ c.toNat ∧ c.toNat ≤ 0x39 := by
  rw [isDigit, Bool.and_eq_true, decide_eq_true_eq, decide_eq_true_eq]
  rfl

theorem isDigit_of_mem_digitChars {n : Nat} {c : Char} (h : c ∈ digitChars n) : isDigit c = true :=
  Nat.isDigit_of_mem_toDigits (by decide) (by decide) h

theorem digitsValue_digitChars (n : Nat) : digitsValue (digitChars n) = n :=
  Nat.ofDigitChars_ten_toDigits

theorem digitsValue_append (ds es : List Char) :
    digitsValue (ds ++ es) = digitsValue ds * 10 ^ es.length + digitsValue es := by
  show Nat.ofDigitChars 10 (ds ++ es) 0 = _
  rw [Nat.ofDigitChars_append, Nat.ofDigitChars_eq_ofDigitChars_zero, Nat.mul_comm]
  rfl

theorem digitsValue_zeros (n : Nat) : digitsValue (List.replicate n '0') = 0 := by
  show Nat.ofDigitChars 10 _ 0 = _
  rw [Nat.ofDigitChars_replicate_zero, Nat.mul_zero]

/-- No zero stands in front of the digits of a number. -/
theorem head?_digitChars_ne {n : Nat} (hn : 0 < n) : (digitChars n).head? ≠ some '0' := by
  induction n using Nat.strongRecOn with
  | ind n ih =>
    rw [digitChars, Nat.toDigits_eq_if (by decide)]
    split
    · next small => interval_cases n <;> decide
    · rw [List.head?_append_of_ne_nil _ Nat.toDigits_ne_nil]
      exact ih (n / 10) (by omega) (by omega)

/-- What follows a run of digits and is none. -/
def EndsDigits (rest : List Char) : Prop := ∀ c ∈ rest.head?, isDigit c = false

theorem span_digits {ds rest : List Char} (digits : ∀ c ∈ ds, isDigit c = true)
    (h : EndsDigits rest) :
    (ds ++ rest).takeWhile isDigit = ds ∧ (ds ++ rest).dropWhile isDigit = rest := by
  rw [List.takeWhile_append_of_pos digits, List.dropWhile_append_of_pos digits]
  cases rest with
  | nil => simp
  | cons c rest => simp [h c rfl]

/-! ## Parts -/

/-- A number without its sign, in parts. -/
structure Written where
  whole : List Char
  fraction : List Char
  exponent : Option Int

namespace Written

def fractionChars : List Char → List Char
  | [] => []
  | d :: ds => '.' :: d :: ds

/-- An exponent always has a sign. -/
def exponentChars : Option Int → List Char
  | none => []
  | some e => 'e' :: (if e < 0 then '-' else '+') :: digitChars e.natAbs

def chars (w : Written) : List Char :=
  w.whole ++ (fractionChars w.fraction ++ exponentChars w.exponent)

/-- The number that the parts stand for. -/
def value (w : Written) : ℚ :=
  digitsValue (w.whole ++ w.fraction) * 10 ^ (w.exponent.getD 0 - w.fraction.length)

/-- The grammar of JSON allows the parts. -/
structure WellFormed (w : Written) : Prop where
  whole : Token.isWhole w.whole = true
  fraction : ∀ c ∈ w.fraction, isDigit c = true

end Written

theorem isWhole_of_head? {cs : List Char} (nonempty : cs ≠ []) (head : cs.head? ≠ some '0')
    (digits : ∀ d ∈ cs, isDigit d = true) : Token.isWhole cs = true := by
  obtain ⟨c, cs, rfl⟩ := List.exists_cons_of_ne_nil nonempty
  have nonzero : c ≠ '0' := fun h => head (congrArg some h)
  rw [Token.isWhole]
  · simp only [nonzero, ne_eq, not_false_eq_true, decide_true, Bool.true_and]
    exact List.all_eq_true.2 digits
  · rintro rfl
    exact absurd rfl nonzero

theorem digits_of_isWhole {cs : List Char} (h : Token.isWhole cs = true) :
    cs ≠ [] ∧ ∀ c ∈ cs, isDigit c = true := by
  unfold Token.isWhole at h
  split at h
  · cases h
  · simp [isDigit]
  · rw [Bool.and_eq_true, List.all_eq_true] at h
    exact ⟨List.cons_ne_nil _ _, h.2⟩

namespace Written

variable {w : Written}

theorem WellFormed.digits (h : w.WellFormed) : ∀ c ∈ w.whole, isDigit c = true :=
  (digits_of_isWhole h.whole).2

theorem endsDigits_exponentChars (e : Option Int) : EndsDigits (exponentChars e) := by
  cases e with
  | none => simp [EndsDigits, exponentChars]
  | some e => simp [EndsDigits, exponentChars, isDigit]

theorem endsDigits_rest (w : Written) :
    EndsDigits (fractionChars w.fraction ++ exponentChars w.exponent) := by
  cases w.fraction with
  | nil => exact endsDigits_exponentChars w.exponent
  | cons d ds => simp [EndsDigits, fractionChars, isDigit]

theorem signedDigits?_exponent (e : Int) :
    signedDigits? ((if e < 0 then '-' else '+') :: digitChars e.natAbs) = some e := by
  have digits : (digitChars e.natAbs).all isDigit = true :=
    List.all_eq_true.2 fun c hc => isDigit_of_mem_digitChars hc
  have nonempty : (digitChars e.natAbs).isEmpty = false := by
    rw [List.isEmpty_eq_false_iff]
    exact Nat.toDigits_ne_nil
  split
  all_goals
    simp only [signedDigits?, takeSign, digits, nonempty, digitsValue_digitChars]
    simp only [Bool.not_true, Bool.or_self, Bool.false_eq_true, ↓reduceIte, Option.some.injEq]
    omega

theorem exponentPart?_exponentChars (e : Option Int) :
    exponentPart? (exponentChars e) = some (e.getD 0) := by
  cases e with
  | none => rfl
  | some e => simpa [exponentChars, exponentPart?] using signedDigits?_exponent e

theorem isExponent_exponentChars (e : Option Int) : Token.isExponent (exponentChars e) = true := by
  cases e with
  | none => rfl
  | some e => simp [exponentChars, Token.isExponent, signedDigits?_exponent e]

theorem span_chars (h : w.WellFormed) :
    w.chars.takeWhile isDigit = w.whole ∧
      w.chars.dropWhile isDigit = fractionChars w.fraction ++ exponentChars w.exponent :=
  span_digits h.digits w.endsDigits_rest

theorem WellFormed.exists_chars (h : w.WellFormed) :
    ∃ c cs, w.chars = c :: cs ∧ isDigit c = true := by
  obtain ⟨nonempty, digits⟩ := digits_of_isWhole h.whole
  obtain ⟨c, cs, hw⟩ := List.exists_cons_of_ne_nil nonempty
  exact ⟨c, _, by rw [chars, hw, List.cons_append], digits c (by simp [hw])⟩

theorem takeSign_signed (h : w.WellFormed) (negative : Bool) :
    takeSign (signed negative w.chars) = (negative, w.chars) := by
  cases negative with
  | true => rfl
  | false =>
    obtain ⟨c, cs, hw, digit⟩ := h.exists_chars
    rw [hw, signed, if_neg Bool.false_ne_true, takeSign]
    · rintro cs ⟨⟩
      exact absurd digit (by decide)
    · rintro cs ⟨⟩
      exact absurd digit (by decide)

/-- **What is written is read back**, part by part. -/
theorem ofChars?_signed (h : w.WellFormed) (negative : Bool) :
    Numeral.ofChars? (signed negative w.chars) =
      some ⟨negative, w.whole, w.fraction, w.exponent.getD 0⟩ := by
  have nonempty : w.whole.isEmpty = false :=
    List.isEmpty_eq_false_iff.2 (digits_of_isWhole h.whole).1
  have exponent := span_digits h.fraction (endsDigits_exponentChars w.exponent)
  simp only [Numeral.ofChars?, takeSign_signed h, span_chars h, nonempty, Bool.false_and,
    Bool.false_eq_true, ↓reduceIte]
  cases hf : w.fraction with
  | nil =>
    have rest : exponentPart? (exponentChars w.exponent) = some (w.exponent.getD 0) :=
      exponentPart?_exponentChars w.exponent
    cases he : w.exponent with
    | none => rfl
    | some e =>
      rw [he] at rest
      simpa [fractionChars, exponentChars] using rest
  | cons d ds =>
    rw [hf, List.cons_append] at exponent
    simp [fractionChars, exponent, exponentPart?_exponentChars]

theorem isNumber_chars (h : w.WellFormed) :
    (Token.isWhole (w.chars.takeWhile isDigit) && Token.isFraction (w.chars.dropWhile isDigit)) =
      true := by
  have exponent := span_digits h.fraction (endsDigits_exponentChars w.exponent)
  simp only [span_chars h, h.whole, Bool.true_and]
  cases hf : w.fraction with
  | nil =>
    cases he : w.exponent with
    | none => rfl
    | some e => exact isExponent_exponentChars (some e)
  | cons d ds =>
    rw [hf, List.cons_append] at exponent
    simp [fractionChars, Token.isFraction, exponent, isExponent_exponentChars]

/-- What is written is a number of JSON text. -/
theorem isNumber_signed (h : w.WellFormed) (negative : Bool) :
    Token.isNumber (signed negative w.chars) = true := by
  cases negative with
  | true => exact isNumber_chars h
  | false =>
    obtain ⟨c, cs, hw, digit⟩ := h.exists_chars
    have body := isNumber_chars h
    rw [signed, if_neg Bool.false_ne_true, Token.isNumber]
    · exact body
    · rintro rest same
      rw [hw] at same
      cases same
      exact absurd digit (by decide)

theorem mem_signed {w : Written} (h : w.WellFormed) {negative : Bool} {c : Char}
    (hc : c ∈ signed negative w.chars) : isDigit c = true ∨ c ∈ ['-', '+', '.', 'e'] := by
  have unsigned : c = '-' ∨ c ∈ w.chars := by
    cases negative with
    | true => exact List.mem_cons.1 hc
    | false => exact .inr hc
  rcases unsigned with rfl | hc
  · exact .inr (by decide)
  rw [chars, List.mem_append, List.mem_append] at hc
  rcases hc with hc | hc | hc
  · exact .inl (h.digits c hc)
  · have fraction := h.fraction
    cases hf : w.fraction with
    | nil => simp [hf, fractionChars] at hc
    | cons d ds =>
      rw [hf] at hc fraction
      rcases List.mem_cons.1 hc with rfl | hc
      · exact .inr (by decide)
      · exact .inl (fraction c hc)
  · cases he : w.exponent with
    | none => simp [he, exponentChars] at hc
    | some e =>
      rw [he, exponentChars, List.mem_cons, List.mem_cons] at hc
      rcases hc with rfl | rfl | hc
      · exact .inr (by decide)
      · split <;> exact .inr (by decide)
      · exact .inl (isDigit_of_mem_digitChars hc)

end Written

/-! ## Fractions -/

/-- The point can stand anywhere in the digits, before them or after them. -/
theorem split_spec {s : Scientific} (hs : 0 < s.digits) :
    Token.isWhole s.split.1 = true ∧ (∀ c ∈ s.split.2, isDigit c = true) ∧
      (digitsValue (s.split.1 ++ s.split.2) : ℚ) * 10 ^ (-(s.split.2.length : Int)) = s.value := by
  obtain ⟨ds, hds⟩ : ∃ ds, ds = digitChars s.digits := ⟨_, rfl⟩
  have nonempty : ds ≠ [] := hds ▸ Nat.toDigits_ne_nil
  have head : ds.head? ≠ some '0' := hds ▸ head?_digitChars_ne hs
  have digits : ∀ d ∈ ds, isDigit d = true := fun d hd => isDigit_of_mem_digitChars (hds ▸ hd)
  have value : digitsValue ds = s.digits := hds ▸ digitsValue_digitChars s.digits
  have zeros : ∀ n, ∀ c ∈ List.replicate n '0', isDigit c = true := fun n c hc => by
    rw [List.eq_of_mem_replicate hc]
    rfl
  simp only [Scientific.split, ← hds]
  split
  · next exponent =>
    refine ⟨isWhole_of_head? (List.append_ne_nil_of_left_ne_nil nonempty _) ?_ ?_, by simp, ?_⟩
    · rwa [List.head?_append_of_ne_nil _ nonempty]
    · exact List.forall_mem_append.2 ⟨digits, zeros _⟩
    · obtain ⟨n, hn⟩ := Int.eq_ofNat_of_zero_le exponent
      simp only [List.append_nil, digitsValue_append, value, digitsValue_zeros, Scientific.value,
        hn]
      simp
  · next exponent =>
    split
    · next inside =>
      refine ⟨isWhole_of_head? ?_ ?_ ?_, fun c hc => digits c (List.mem_of_mem_drop hc), ?_⟩
      · rw [Ne, List.take_eq_nil_iff, not_or]
        exact ⟨by omega, nonempty⟩
      · rwa [List.head?_take, if_neg (by omega)]
      · exact fun c hc => digits c (List.mem_of_mem_take hc)
      · rw [List.take_append_drop, value, Scientific.value, List.length_drop]
        congr 2
        omega
    · next outside =>
      refine ⟨rfl, List.forall_mem_append.2 ⟨zeros _, digits⟩, ?_⟩
      have zero : digitsValue ['0'] = 0 := rfl
      rw [digitsValue_append, digitsValue_append, zero, digitsValue_zeros, value, Scientific.value,
        List.length_append, List.length_replicate]
      simp only [Nat.zero_mul, Nat.zero_add]
      congr 2
      omega

theorem exists_written_positional {s : Scientific} (hs : 0 < s.digits) :
    ∃ w : Written, w.WellFormed ∧ w.fraction ≠ [] ∧ w.chars = s.positionalFraction ∧
      w.value = s.value := by
  obtain ⟨whole, fraction, value⟩ := split_spec hs
  cases h : s.split with
  | mk ds es =>
    rw [h] at whole fraction value
    cases es with
    | nil =>
      refine ⟨⟨ds, ['0'], none⟩, ⟨whole, by simp [isDigit]⟩, by simp, ?_, ?_⟩
      · simp [Written.chars, Written.fractionChars, Written.exponentChars,
          Scientific.positionalFraction, h]
      · have zero : digitsValue ['0'] = 0 := rfl
        rw [← value, Written.value, digitsValue_append, zero]
        simp [zpow_neg]
    | cons e es =>
      refine ⟨⟨ds, e :: es, none⟩, ⟨whole, fraction⟩, by simp, ?_, ?_⟩
      · simp [Written.chars, Written.fractionChars, Written.exponentChars,
          Scientific.positionalFraction, h]
      · simpa [Written.value] using value

theorem exists_written_exponential {s : Scientific} (hs : 0 < s.digits) :
    ∃ w : Written, w.WellFormed ∧ w.exponent ≠ none ∧ w.chars = s.exponential ∧
      w.value = s.value := by
  have digits : ∀ d ∈ digitChars s.digits, isDigit d = true := fun d hd =>
    isDigit_of_mem_digitChars hd
  have head := head?_digitChars_ne hs
  have value := digitsValue_digitChars s.digits
  cases h : digitChars s.digits with
  | nil => exact absurd h Nat.toDigits_ne_nil
  | cons d ds =>
    rw [h] at digits head value
    refine ⟨⟨[d], ds, some s.leadingExponent⟩,
      ⟨?_, fun c hc => digits c (List.mem_cons_of_mem _ hc)⟩, by simp, ?_, ?_⟩
    · exact isWhole_of_head? (List.cons_ne_nil _ _) head fun c hc => digits c (by simp_all)
    · cases ds <;>
        simp [Written.chars, Written.fractionChars, Written.exponentChars, Scientific.exponential, h]
    · simp only [Written.value, Scientific.value, List.singleton_append, value, Option.getD_some,
        Scientific.leadingExponent, h, List.length_cons]
      congr 2
      push_cast
      ring

/-! ## Numbers of JSON text -/

/-- A point or an exponent shows that a number is a fraction. -/
def Written.IsFraction (w : Written) : Prop := w.fraction ≠ [] ∨ w.exponent ≠ none

/-- The value of the decimal that is written for a number, without its sign. -/
def shortestValue (x : Float) : ℚ :=
  if (Binary.ofFloat x).significand = 0 then 0
  else (shortest .toEven (Binary.ofFloat x)).value

theorem exists_written_json (x : Float) :
    ∃ w : Written, w.WellFormed ∧ w.IsFraction ∧ json x = signed (isNegative x) w.chars ∧
      w.value = shortestValue x := by
  simp only [json, shortestValue]
  split
  · next zero =>
    exact ⟨⟨['0'], ['0'], none⟩, ⟨rfl, by simp [isDigit]⟩, .inl (by simp), rfl, by
      simp [Written.value, digitsValue, digitValue]⟩
  · next nonzero =>
    have positive := (Binary.contains_shortest (inFormat_ofFloat x)
      (Nat.pos_of_ne_zero nonzero) .toEven).1
    split
    · obtain ⟨w, wellFormed, fraction, chars, value⟩ := exists_written_positional positive
      exact ⟨w, wellFormed, .inl fraction, by rw [chars], value⟩
    · obtain ⟨w, wellFormed, exponent, chars, value⟩ := exists_written_exponential positive
      exact ⟨w, wellFormed, .inr exponent, by rw [chars], value⟩

theorem shortestValue_pos {x : Float} (h : (Binary.ofFloat x).significand ≠ 0) :
    0 < shortestValue x := by
  have positive := (Binary.contains_shortest (inFormat_ofFloat x)
    (Nat.pos_of_ne_zero h) .toEven).1
  rw [shortestValue, if_neg h, Scientific.value]
  positivity

/-- The decimals of numbers with different magnitudes are different. -/
theorem ofFloat_eq_of_shortestValue {x y : Float} (h : shortestValue x = shortestValue y) :
    Binary.ofFloat x = Binary.ofFloat y := by
  by_cases hx : (Binary.ofFloat x).significand = 0
  · by_cases hy : (Binary.ofFloat y).significand = 0
    · exact (inFormat_ofFloat x).eq_of_significand (inFormat_ofFloat y) hx hy
    · have positive := shortestValue_pos hy
      rw [← h, shortestValue, if_pos hx] at positive
      exact absurd positive (lt_irrefl _)
  · by_cases hy : (Binary.ofFloat y).significand = 0
    · have positive := shortestValue_pos hx
      rw [h, shortestValue, if_pos hy] at positive
      exact absurd positive (lt_irrefl _)
    · rw [shortestValue, if_neg hx, shortestValue, if_neg hy] at h
      exact Binary.eq_of_shortest (inFormat_ofFloat x) (inFormat_ofFloat y)
        (Nat.pos_of_ne_zero hx) (Nat.pos_of_ne_zero hy) h

/-- **A number is determined by its JSON text.** -/
theorem json_injective : Function.Injective json := by
  intro x y h
  obtain ⟨w, wellFormed, -, hx, value⟩ := exists_written_json x
  obtain ⟨w', wellFormed', -, hy, value'⟩ := exists_written_json y
  have read := Written.ofChars?_signed wellFormed (isNegative x)
  rw [← hx, h, hy, Written.ofChars?_signed wellFormed', Option.some.injEq, Numeral.mk.injEq] at read
  obtain ⟨sign, whole, fraction, exponent⟩ := read
  refine eq_of_ofFloat sign.symm (ofFloat_eq_of_shortestValue ?_)
  rw [← value, ← value', Written.value, Written.value, whole, fraction, exponent]

theorem isWhole_digitChars (n : Nat) : Token.isWhole (digitChars n) = true := by
  by_cases hn : n = 0
  · subst hn
    rfl
  · exact isWhole_of_head? Nat.toDigits_ne_nil (head?_digitChars_ne (Nat.pos_of_ne_zero hn))
      fun _ hd => isDigit_of_mem_digitChars hd

end ContractDocs.Decimal

namespace ContractDocs.Json

open Decimal

theorem exists_written_int (n : Int) :
    ∃ w : Written, w.WellFormed ∧ ¬ w.IsFraction ∧ intChars n = signed (n < 0) w.chars ∧
      w.whole = digitChars n.natAbs := by
  refine ⟨⟨digitChars n.natAbs, [], none⟩, ⟨isWhole_digitChars _, by simp⟩,
    by simp [Written.IsFraction], ?_, rfl⟩
  simp [intChars, Written.chars, Written.fractionChars, Written.exponentChars]

theorem exists_written (n : Number) :
    ∃ (negative : Bool) (w : Written), w.WellFormed ∧ numberChars n = signed negative w.chars := by
  cases n with
  | int n =>
    obtain ⟨w, wellFormed, -, chars, -⟩ := exists_written_int n
    exact ⟨_, w, wellFormed, chars⟩
  | float x =>
    obtain ⟨w, wellFormed, -, chars, -⟩ := exists_written_json x
    exact ⟨_, w, wellFormed, chars⟩

/-- What is written for a number is a number of JSON text. -/
theorem isNumber_numberChars (n : Number) : Token.isNumber (numberChars n) = true := by
  obtain ⟨negative, w, wellFormed, chars⟩ := exists_written n
  rw [chars]
  exact w.isNumber_signed wellFormed negative

/-! ## Whole numbers and fractions -/

/-- The characters of a whole number. -/
def isWholeChar (c : Char) : Bool := c = '-' || isDigit c

theorem all_isWholeChar_iff {w : Written} (h : w.WellFormed) (negative : Bool) :
    (signed negative w.chars).all isWholeChar = true ↔ ¬ w.IsFraction := by
  have sign : (signed negative w.chars).all isWholeChar = w.chars.all isWholeChar := by
    cases negative <;> rfl
  have whole : w.whole.all isWholeChar = true :=
    List.all_eq_true.2 fun c hc => by simp [isWholeChar, h.digits c hc]
  rw [sign, Written.chars, List.all_append, List.all_append, whole, Bool.true_and,
    Written.IsFraction]
  cases w.fraction with
  | nil =>
    cases w.exponent with
    | none => simp [Written.fractionChars, Written.exponentChars]
    | some e => simp [Written.fractionChars, Written.exponentChars, isWholeChar, isDigit]
  | cons d ds => simp [Written.fractionChars, isWholeChar, isDigit]

theorem intChars_injective {m n : Int} (h : intChars m = intChars n) : m = n := by
  obtain ⟨w, wellFormed, -, hm, whole⟩ := exists_written_int m
  obtain ⟨w', wellFormed', -, hn, whole'⟩ := exists_written_int n
  have read := Written.ofChars?_signed wellFormed (decide (m < 0))
  rw [← hm, h, hn, Written.ofChars?_signed wellFormed', Option.some.injEq, Numeral.mk.injEq] at read
  obtain ⟨sign, digits, -⟩ := read
  have magnitude : n.natAbs = m.natAbs := by
    rw [← digitsValue_digitChars n.natAbs, ← whole', digits, whole, digitsValue_digitChars]
  rw [decide_eq_decide] at sign
  omega

theorem intChars_ne_json (n : Int) (x : Float) : intChars n ≠ json x := by
  obtain ⟨w, wellFormed, whole, hn, -⟩ := exists_written_int n
  obtain ⟨w', wellFormed', fraction, hx, -⟩ := exists_written_json x
  intro h
  refine (all_isWholeChar_iff wellFormed' (isNegative x)).1 ?_ fraction
  rw [← hx, ← h, hn]
  exact (all_isWholeChar_iff wellFormed _).2 whole

/-- **A number is determined by what is written for it**, and so is whether it is whole. -/
theorem numberChars_injective : Function.Injective numberChars := by
  intro a b h
  cases a with
  | int m =>
    cases b with
    | int n => rw [intChars_injective h]
    | float y => exact absurd h (intChars_ne_json m y)
  | float x =>
    cases b with
    | int n => exact absurd h.symm (intChars_ne_json n x)
    | float y => rw [json_injective h]

/-- A whole number that fits is read back. -/
theorem number?_intChars {n : Int} (h : Number.fits n = true) :
    Tree.number? (intChars n) = some (.int n) := by
  obtain ⟨w, wellFormed, whole, chars, digits⟩ := exists_written_int n
  have all := (all_isWholeChar_iff wellFormed (decide (n < 0))).2 whole
  have sign : (if decide (n < 0) = true then -(n.natAbs : Int) else n.natAbs) = n := by
    simp only [decide_eq_true_eq]
    split <;> omega
  have nonzero : (decide (n < 0) && decide (n.natAbs = 0)) = false := by
    rw [Bool.and_eq_false_iff, decide_eq_false_iff_not, decide_eq_false_iff_not]
    omega
  rw [Tree.number?, chars, w.ofChars?_signed wellFormed]
  simp only [Option.bind_eq_bind, Option.bind_some, digits, digitsValue_digitChars, sign, nonzero,
    h, Bool.not_false, Bool.and_true]
  exact if_pos all

end ContractDocs.Json
