/-
Amounts: numbers as people write them, with commas in the whole part.

`isGrouped_iff`: a text is a grouped number exactly if it is a sign, one to
three digits, groups of a comma and three digits, and perhaps a point with
digits. `isAscii_of_finite?`: whatever can be read is written in ASCII, so it
makes no difference whether the grammar takes other characters for digits, too.
-/
import ContractDocs.Proofs.WrittenNumbers

namespace ContractDocs.Decimal

/-! ## Amounts -/

/-- What stands behind the whole part: nothing, or a point and digits. -/
def pointed : Option (List Char) → List Char
  | none => []
  | some ds => '.' :: ds

/-- A number without an exponent, in parts as they are written. -/
structure Amount where
  sign : Option Char
  whole : List Char
  /-- The digits behind the point, if there is one. -/
  fraction : Option (List Char)

namespace Amount

def chars (a : Amount) : List Char := a.sign.toList ++ (a.whole ++ pointed a.fraction)

/-- A sign, a whole part of some kind, and behind a point at least one digit. -/
structure WellFormed (digit : Char → Bool) (isWhole : List Char → Prop) (a : Amount) : Prop where
  sign : ∀ c ∈ a.sign, c = '+' ∨ c = '-'
  whole : isWhole a.whole
  fraction : ∀ ds ∈ a.fraction, ds ≠ [] ∧ ∀ c ∈ ds, digit c = true

end Amount

/-- One to three digits, then groups of three digits with a comma before each. -/
structure Grouped (digit : Char → Bool) (cs first : List Char) (groups : List (List Char)) :
    Prop where
  whole : cs = first ++ groups.flatMap (',' :: ·)
  nonempty : first ≠ []
  atMost : first.length ≤ 3
  commas : groups ≠ []
  threes : ∀ ds ∈ groups, ds.length = 3
  digits : ∀ c ∈ first ++ groups.flatten, digit c = true

/-- The digits are grouped by thousands. -/
def SetsOffThousands (digit : Char → Bool) (cs : List Char) : Prop :=
  ∃ first groups, Grouped digit cs first groups

/-! ## The grammar -/

/-- What a text with commas may end with. -/
def isPointed : List Char → Bool
  | [] => true
  | '.' :: ds => !ds.isEmpty && ds.all isDigit
  | _ => false

theorem isPointed_iff {cs : List Char} :
    isPointed cs = true ↔ ∃ fraction : Option (List Char),
      (∀ ds ∈ fraction, ds ≠ [] ∧ ∀ c ∈ ds, isDigit c = true) ∧ cs = pointed fraction := by
  constructor
  · intro h
    unfold isPointed at h
    split at h
    · exact ⟨none, by simp, rfl⟩
    · next ds =>
      refine ⟨some ds, ?_, rfl⟩
      rintro _ ⟨⟩
      simpa using h
    · cases h
  · rintro ⟨fraction, digits, rfl⟩
    cases fraction with
    | none => rfl
    | some ds => simpa [pointed, isPointed] using digits ds rfl

/-- Behind a group of three digits stands a fraction, or another group. -/
theorem isGroups_cons (a b c : Char) (rest : List Char) :
    isGroups (',' :: a :: b :: c :: rest) =
      (isDigit a && isDigit b && isDigit c && (isPointed rest || isGroups rest)) := by
  unfold isPointed
  split
  · rfl
  · next fraction =>
    have none : isGroups ('.' :: fraction) = false := rfl
    rw [isGroups, none, Bool.or_false]
  · next nonempty pointless =>
    rw [isGroups, Bool.false_or]
    · exact nonempty
    · exact pointless

theorem exists_of_isGroups {cs : List Char} (h : isGroups cs = true) :
    ∃ a b c rest, cs = ',' :: a :: b :: c :: rest := by
  unfold isGroups at h
  split at h
  · exact ⟨_, _, _, _, rfl⟩
  · cases h

/-- Groups of three digits with a comma before each, and what stands behind them. -/
structure Groups (cs : List Char) (groups : List (List Char)) (fraction : Option (List Char)) :
    Prop where
  whole : cs = groups.flatMap (',' :: ·) ++ pointed fraction
  threes : ∀ ds ∈ groups, ds.length = 3
  digits : ∀ c ∈ groups.flatten, isDigit c = true
  fraction : ∀ ds ∈ fraction, ds ≠ [] ∧ ∀ c ∈ ds, isDigit c = true

theorem exists_groups {cs : List Char} (h : isGroups cs = true) :
    ∃ groups fraction, groups ≠ [] ∧ Groups cs groups fraction := by
  obtain ⟨a, b, c, rest, rfl⟩ := exists_of_isGroups h
  rw [isGroups_cons] at h
  simp only [Bool.and_eq_true, Bool.or_eq_true] at h
  obtain ⟨⟨⟨ha, hb⟩, hc⟩, hrest⟩ := h
  have one : ∀ d ∈ [a, b, c], isDigit d = true := by simp [ha, hb, hc]
  rcases hrest with hrest | hrest
  · obtain ⟨fraction, digits, rfl⟩ := isPointed_iff.1 hrest
    exact ⟨[[a, b, c]], fraction, by simp, rfl, by simp, by simpa using one, digits⟩
  · obtain ⟨groups, fraction, -, whole, threes, digits, behind⟩ := exists_groups hrest
    refine ⟨[a, b, c] :: groups, fraction, by simp, ?_, ?_, ?_, behind⟩
    · rw [whole]
      rfl
    · exact List.forall_mem_cons.2 ⟨rfl, threes⟩
    · rw [List.flatten_cons]
      exact List.forall_mem_append.2 ⟨one, digits⟩
termination_by cs.length

theorem isGroups_of_groups {cs : List Char} {groups : List (List Char)}
    {fraction : Option (List Char)} (nonempty : groups ≠ []) (h : Groups cs groups fraction) :
    isGroups cs = true := by
  obtain ⟨rfl, threes, digits, behind⟩ := h
  induction groups with
  | nil => exact absurd rfl nonempty
  | cons ds groups ih =>
    rw [List.forall_mem_cons] at threes
    rw [List.flatten_cons, List.forall_mem_append] at digits
    obtain ⟨a, b, c, rfl⟩ := List.length_eq_three.1 threes.1
    have here := digits.1
    simp only [List.mem_cons, List.not_mem_nil, or_false, forall_eq_or_imp, forall_eq] at here
    rw [List.flatMap_cons, List.append_assoc]
    show isGroups (',' :: a :: b :: c :: _) = true
    rw [isGroups_cons, here.1, here.2.1, here.2.2, Bool.true_and, Bool.true_and, Bool.true_and,
      Bool.or_eq_true]
    cases groups with
    | nil => exact .inl (isPointed_iff.2 ⟨fraction, behind, rfl⟩)
    | cons ds groups => exact .inr (ih (List.cons_ne_nil _ _) threes.2 digits.2)

theorem exists_takeSign (cs : List Char) : ∃ sign : Option Char,
    (∀ c ∈ sign, c = '+' ∨ c = '-') ∧ cs = sign.toList ++ (takeSign cs).2 := by
  unfold takeSign
  split
  · exact ⟨some '-', by simp, rfl⟩
  · exact ⟨some '+', by simp, rfl⟩
  · exact ⟨none, by simp, rfl⟩

theorem takeSign_digits {sign : Option Char} (h : ∀ c ∈ sign, c = '+' ∨ c = '-') {ds : List Char}
    (nonempty : ds ≠ []) (digits : ∀ c ∈ ds, isDigit c = true) (rest : List Char) :
    takeSign (sign.toList ++ (ds ++ rest)) = (decide (sign = some '-'), ds ++ rest) := by
  obtain ⟨d, ds, rfl⟩ := List.exists_cons_of_ne_nil nonempty
  have digit := digits d List.mem_cons_self
  cases sign with
  | some s => rcases h s rfl with rfl | rfl <;> rfl
  | none =>
    rw [Option.toList_none, List.nil_append, List.cons_append, takeSign]
    · rfl
    · rintro cs ⟨⟩
      exact absurd digit (by decide)
    · rintro cs ⟨⟩
      exact absurd digit (by decide)

/-- A sign, one to three digits, groups with commas, and perhaps a point with digits. -/
theorem isGrouped_iff {cs : List Char} :
    isGrouped cs = true ↔
      ∃ a : Amount, a.WellFormed isDigit (SetsOffThousands isDigit) ∧ a.chars = cs := by
  constructor
  · intro h
    simp only [isGrouped, Bool.and_eq_true, Bool.not_eq_true', List.isEmpty_eq_false_iff,
      decide_eq_true_eq] at h
    obtain ⟨⟨nonempty, atMost⟩, rest⟩ := h
    obtain ⟨sign, isSign, hcs⟩ := exists_takeSign cs
    obtain ⟨groups, fraction, commas, whole, threes, digits, behind⟩ := exists_groups rest
    have first : ∀ c ∈ (takeSign cs).2.takeWhile isDigit, isDigit c = true :=
      List.all_eq_true.1 List.all_takeWhile
    have body := List.takeWhile_append_dropWhile (p := isDigit) (l := (takeSign cs).2)
    refine ⟨⟨sign, _, fraction⟩, ⟨isSign, ⟨_, groups, rfl, nonempty, atMost, commas, threes,
      List.forall_mem_append.2 ⟨first, digits⟩⟩, behind⟩, ?_⟩
    rw [Amount.chars, List.append_assoc, ← whole, body, ← hcs]
  · rintro ⟨⟨sign, whole, fraction⟩, ⟨isSign, ⟨first, groups, grouped⟩, behind⟩, rfl⟩
    obtain ⟨rfl, nonempty, atMost, commas, threes, digits⟩ := grouped
    rw [List.forall_mem_append] at digits
    have rest : isGroups (groups.flatMap (',' :: ·) ++ pointed fraction) = true :=
      isGroups_of_groups commas ⟨rfl, threes, digits.2, behind⟩
    have ends : EndsDigits (groups.flatMap (',' :: ·) ++ pointed fraction) := by
      obtain ⟨ds, groups, rfl⟩ := List.exists_cons_of_ne_nil commas
      rintro c ⟨⟩
      rfl
    have body := takeSign_digits isSign nonempty digits.1
      (groups.flatMap (',' :: ·) ++ pointed fraction)
    obtain ⟨taken, dropped⟩ := span_digits digits.1 ends
    have some : first.isEmpty = false := List.isEmpty_eq_false_iff.2 nonempty
    simp only [isGrouped, Amount.chars, List.append_assoc, body, taken, dropped, rest, some]
    simpa using atMost

/-! ## ASCII -/

/-- The text is written in ASCII. -/
def IsAscii (cs : List Char) : Prop := ∀ c ∈ cs, c.toNat < 128

theorem IsAscii.of_digits {cs : List Char} (h : ∀ c ∈ cs, isDigit c = true) : IsAscii cs := by
  intro c hc
  have digit := isDigit_iff.1 (h c hc)
  omega

theorem IsAscii.append {cs rest : List Char} (h : IsAscii cs) (h' : IsAscii rest) :
    IsAscii (cs ++ rest) := List.forall_mem_append.2 ⟨h, h'⟩

theorem IsAscii.cons {c : Char} {cs : List Char} (h : c.toNat < 128) (h' : IsAscii cs) :
    IsAscii (c :: cs) := List.forall_mem_cons.2 ⟨h, h'⟩

theorem IsAscii.of_takeSign {cs : List Char} (h : IsAscii (takeSign cs).2) : IsAscii cs := by
  obtain ⟨sign, isSign, whole⟩ := exists_takeSign cs
  rw [whole]
  refine IsAscii.append (fun c hc => ?_) h
  rcases isSign c (Option.mem_toList.1 hc) with rfl | rfl <;> decide

theorem IsAscii.of_dropWhile {cs : List Char} (h : IsAscii (cs.dropWhile isDigit)) :
    IsAscii cs := by
  rw [← List.takeWhile_append_dropWhile (p := isDigit) (l := cs)]
  exact IsAscii.append (.of_digits (List.all_eq_true.1 List.all_takeWhile)) h

theorem isAscii_of_signedDigits? {cs : List Char} {n : Int} (h : signedDigits? cs = some n) :
    IsAscii cs := by
  simp only [signedDigits?] at h
  split at h
  · cases h
  · next digits =>
    simp only [Bool.or_eq_true, Bool.not_eq_true', not_or, Bool.not_eq_false,
      List.all_eq_true] at digits
    exact .of_takeSign (.of_digits digits.2)

theorem isAscii_of_exponentPart? {cs : List Char} {n : Int} (h : exponentPart? cs = some n) :
    IsAscii cs := by
  unfold exponentPart? at h
  split at h
  · intro c hc
    cases hc
  · split at h
    · next letter =>
      rw [Bool.or_eq_true, decide_eq_true_eq, decide_eq_true_eq] at letter
      refine .cons ?_ (isAscii_of_signedDigits? h)
      rcases letter with rfl | rfl <;> decide
    · cases h

theorem isAscii_of_ofChars? {cs : List Char} {n : Numeral} (h : Numeral.ofChars? cs = some n) :
    IsAscii cs := by
  have behind : ∀ (none : Bool) (rest : List Char) (f : Int → Numeral),
      (if none then .none else (exponentPart? rest).map f) = some n → IsAscii rest := by
    intro none rest f h
    split at h
    · cases h
    · obtain ⟨e, he, -⟩ := Option.map_eq_some_iff.1 h
      exact isAscii_of_exponentPart? he
  simp only [Numeral.ofChars?] at h
  refine .of_takeSign (.of_dropWhile ?_)
  split at h
  · next heq =>
    rw [heq]
    exact .cons (by decide) (.of_dropWhile (behind _ _ _ h))
  · exact behind _ _ _ h

/-- **What is read as a number** is written in ASCII. -/
theorem isAscii_of_finite? {cs : List Char} {x : Float} (h : finite? cs = some x) :
    IsAscii cs := by
  obtain ⟨read, -⟩ := Option.filter_eq_some_iff.1 h
  obtain ⟨n, hn, -⟩ := Option.map_eq_some_iff.1 read
  exact isAscii_of_ofChars? hn

end ContractDocs.Decimal
