/-
Forms: texts with places for a whole number, such as `INV-` and a number and
`.pdf`. What is done with a text, to trim it or to make a code or a part of a
path of it, can be done with the form before any number is known, as a number
has no white space, no stroke and no dot. Of its numeral only the sign can be
lost.

`Form.chars_eq_of_text_eq`: two numbers that make the same text of a form have
the same characters in each of its places. One of them is nowhere longer than
the other, so no place can make up for another.
-/
import ContractDocs.Binding
import ContractDocs.Proofs.Capitals
import ContractDocs.Proofs.Segments
import ContractDocs.Proofs.WrittenNumbers

namespace ContractDocs

/-! ## Places -/

/-- What stands in a text for a whole number. -/
inductive Slot
  | numeral
  /-- The numeral without its sign. -/
  | digits
  deriving DecidableEq

namespace Slot

def chars (n : Int) : Slot → List Char
  | .numeral => Json.intChars n
  | .digits => Decimal.digitChars n.natAbs

/-- The characters of whole numbers. -/
def IsChar (c : Char) : Prop := c = '-' ∨ Decimal.isDigit c = true

theorem isChar_of_mem {n : Int} {s : Slot} {c : Char} (h : c ∈ s.chars n) : IsChar c := by
  cases s with
  | digits => exact .inr (Decimal.isDigit_of_mem_digitChars h)
  | numeral =>
    rw [chars, Json.intChars, Decimal.signed] at h
    split at h
    · rcases List.mem_cons.1 h with rfl | h
      · exact .inl rfl
      · exact .inr (Decimal.isDigit_of_mem_digitChars h)
    · exact .inr (Decimal.isDigit_of_mem_digitChars h)

/-- What is left of a number in the place. -/
def kept (n : Int) : Slot → Int
  | .numeral => n
  | .digits => n.natAbs

theorem kept_eq_of_chars_eq {m n : Int} {s : Slot} (h : s.chars m = s.chars n) :
    s.kept m = s.kept n := by
  cases s with
  | numeral => exact Json.intChars_injective h
  | digits =>
    have value := congrArg Decimal.digitsValue h
    rw [chars, chars, Decimal.digitsValue_digitChars, Decimal.digitsValue_digitChars] at value
    exact congrArg Nat.cast value

theorem chars_ne_nil (n : Int) (s : Slot) : s.chars n ≠ [] := by
  cases s with
  | digits => exact Nat.toDigits_ne_nil
  | numeral =>
    rw [chars, Json.intChars, Decimal.signed]
    split
    · exact List.cons_ne_nil _ _
    · exact Nat.toDigits_ne_nil

theorem IsChar.toNat_mem {c : Char} (h : IsChar c) : 0x2D ≤ c.toNat ∧ c.toNat ≤ 0x39 ∧
    (c = '-' ∨ 0x30 ≤ c.toNat) := by
  rcases h with rfl | h
  · decide
  · rw [Decimal.isDigit_iff] at h
    omega

theorem IsChar.not_blank {c : Char} (h : IsChar c) : Text.isBlank c = false := by
  have := h.toNat_mem
  exact Text.isBlank_of_blankless (by decide : Text.blankless 0x2D 0x39 = true) (by omega) (by omega)

theorem IsChar.upperChar_eq {c : Char} (h : IsChar c) : Text.upperChar c = [c] := by
  have := h.toNat_mem
  exact Text.upperChar_of_caseless (by decide +kernel : Text.caseless 0x2D 0x39 false = true)
    (by omega) (by omega) (by simp)

theorem IsChar.ne_dot {c : Char} (h : IsChar c) : c ≠ '.' := by
  rintro rfl
  rcases h with h | h <;> exact absurd h (by decide)

theorem IsChar.replaceSeparator_eq {c : Char} (h : IsChar c) :
    StoragePattern.replaceSeparator c = c := by
  rw [StoragePattern.replaceSeparator, if_neg]
  rw [Bool.or_eq_true, decide_eq_true_eq, decide_eq_true_eq]
  rintro (rfl | rfl) <;> rcases h with h | h <;> exact absurd h (by decide)

theorem filter_isCodeChar_chars (n : Int) (s : Slot) :
    (s.chars n).filter Transform.isCodeChar = digits.chars n := by
  have kept : ∀ c ∈ Decimal.digitChars n.natAbs, Transform.isCodeChar c = true := fun c hc => by
    rw [Transform.isCodeChar, Decimal.isDigit_of_mem_digitChars hc, Bool.or_true]
  cases s with
  | digits => exact List.filter_eq_self.2 kept
  | numeral =>
    rw [chars, Json.intChars, Decimal.signed]
    split
    · rw [List.filter_cons_of_neg (by decide), List.filter_eq_self.2 kept]
      rfl
    · exact List.filter_eq_self.2 kept

/-- Of two numbers one has nowhere more characters than the other: a sign cannot make up for a
digit. -/
theorem length_chars_le (m n : Int) :
    (∀ s : Slot, (s.chars m).length ≤ (s.chars n).length) ∨
      ∀ s : Slot, (s.chars n).length ≤ (s.chars m).length := by
  have sign : ∀ k : Int, (numeral.chars k).length =
      (digits.chars k).length + if k < 0 then 1 else 0 := by
    intro k
    rw [chars, Json.intChars, Decimal.signed]
    by_cases neg : k < 0 <;> simp [neg, chars]
  have both : ∀ a b : Int, (numeral.chars a).length ≤ (numeral.chars b).length →
      (digits.chars a).length ≤ (digits.chars b).length →
      ∀ s : Slot, (s.chars a).length ≤ (s.chars b).length := by
    intro a b first second s
    cases s with
    | numeral => exact first
    | digits => exact second
  have hm := sign m
  have hn := sign n
  rcases lt_trichotomy (digits.chars m).length (digits.chars n).length with less | same | more
  · exact .inl (both m n (by split at hm <;> split at hn <;> omega) less.le)
  · rcases le_total (numeral.chars m).length (numeral.chars n).length with le | le
    · exact .inl (both m n le same.le)
    · exact .inr (both n m le same.ge)
  · exact .inr (both n m (by split at hm <;> split at hn <;> omega) more.le)

end Slot

/-! ## Forms -/

/-- A text with places for a whole number. -/
abbrev Form := List (Char ⊕ Slot)

namespace Form

/-- The text of a form with a number in its places. -/
def text (n : Int) (f : Form) : List Char := f.flatMap (Sum.elim (fun c => [c]) (Slot.chars n))

variable {n : Int} {f g : Form}

@[simp] theorem text_nil : text n [] = [] := rfl

@[simp] theorem text_char (c : Char) (f : Form) : text n (.inl c :: f) = c :: text n f := rfl

@[simp] theorem text_slot (s : Slot) (f : Form) : text n (.inr s :: f) = s.chars n ++ text n f := rfl

@[simp] theorem text_append (f g : Form) : text n (f ++ g) = text n f ++ text n g :=
  List.flatMap_append

/-- A text without places. -/
def literal (cs : List Char) : Form := cs.map .inl

@[simp] theorem text_literal (cs : List Char) : text n (literal cs) = cs := by
  simp [text, literal, List.flatMap_map]

theorem text_intercalate (separator : List Char) (fs : List Form) :
    text n ((literal separator).intercalate fs) = separator.intercalate (fs.map (text n)) := by
  induction fs with
  | nil => rfl
  | cons f fs ih =>
    cases fs with
    | nil => simp
    | cons g fs =>
      rw [List.intercalate_cons_cons, List.map_cons, List.map_cons, List.intercalate_cons_cons,
        ← List.map_cons, ← ih, text_append, text_append, text_literal]

theorem mem_intercalate {x : Char ⊕ Slot} (separator : Form) {fs : List Form} (hf : f ∈ fs)
    (hx : x ∈ f) : x ∈ separator.intercalate fs := by
  induction fs with
  | nil => cases hf
  | cons g fs ih =>
    cases fs with
    | nil =>
      obtain rfl := List.mem_singleton.1 hf
      simpa using hx
    | cons g' fs =>
      rw [List.intercalate_cons_cons]
      rcases List.mem_cons.1 hf with rfl | hf
      · exact List.mem_append_left _ (List.mem_append_left _ hx)
      · exact List.mem_append_right _ (ih hf)

theorem text_eq_nil_iff : text n f = [] ↔ f = [] := by
  cases f with
  | nil => simp
  | cons x f =>
    cases x with
    | inl c => simp
    | inr s => simp [Slot.chars_ne_nil]

/-- **A text is determined place by place.** -/
theorem chars_eq_of_text_eq {m : Int} (h : text m f = text n f) {s : Slot} (hs : .inr s ∈ f) :
    s.chars m = s.chars n := by
  wlog le : ∀ s : Slot, (s.chars m).length ≤ (s.chars n).length generalizing m n
  · exact (this h.symm ((Slot.length_chars_le m n).resolve_left le)).symm
  have shorter : ∀ f : Form, (text m f).length ≤ (text n f).length := by
    intro f
    induction f with
    | nil => exact Nat.le_refl _
    | cons x f ih =>
      cases x with
      | inl c => simpa using ih
      | inr s =>
        have := le s
        simp only [text_slot, List.length_append]
        omega
  induction f with
  | nil => cases hs
  | cons x f ih =>
    cases x with
    | inl c =>
      rw [text_char, text_char, List.cons.injEq] at h
      exact ih (by simpa using hs) h.2
    | inr s' =>
      -- Neither the place nor the rest is longer, so neither is shorter.
      rw [text_slot, text_slot] at h
      have same : (s'.chars m).length = (s'.chars n).length := by
        have total := congrArg List.length h
        have := le s'
        have := shorter f
        simp only [List.length_append] at total
        omega
      obtain ⟨here, rest⟩ := List.append_inj h same
      rcases List.mem_cons.1 hs with hs | hs
      · cases hs
        exact here
      · exact ih hs rest

/-! ## What is done with a text -/

/-- Is it a character with the property? -/
def isChar (p : Char → Bool) : Char ⊕ Slot → Bool := Sum.elim p fun _ => false

theorem text_dropWhile {p : Char → Bool} (hp : ∀ c, Slot.IsChar c → p c = false) (f : Form) :
    text n (f.dropWhile (isChar p)) = (text n f).dropWhile p := by
  induction f with
  | nil => rfl
  | cons x f ih =>
    cases x with
    | inl c =>
      have same : isChar p (.inl c) = p c := rfl
      by_cases hc : p c = true
      · rw [text_char, List.dropWhile_cons_of_pos hc, List.dropWhile_cons_of_pos (same ▸ hc), ih]
      · rw [List.dropWhile_cons_of_neg (same ▸ hc), text_char, List.dropWhile_cons_of_neg hc]
    | inr s =>
      obtain ⟨c, cs, hs⟩ := List.exists_cons_of_ne_nil (s.chars_ne_nil n)
      have kept : p c = false := hp c (Slot.isChar_of_mem (hs ▸ List.mem_cons_self))
      rw [List.dropWhile_cons_of_neg (by simp [isChar]), text_slot, hs, List.cons_append,
        List.dropWhile_cons_of_neg (by simp [kept])]

theorem text_rdropWhile {p : Char → Bool} (hp : ∀ c, Slot.IsChar c → p c = false) (f : Form) :
    text n (f.rdropWhile (isChar p)) = (text n f).rdropWhile p := by
  induction f using List.reverseRecOn with
  | nil => rfl
  | append_singleton f x ih =>
    cases x with
    | inl c =>
      have same : isChar p (.inl c) = p c := rfl
      have last : text n (f ++ [.inl c]) = text n f ++ [c] := text_append f [.inl c]
      by_cases hc : p c = true
      · rw [last, List.rdropWhile_concat_pos _ _ _ hc,
          List.rdropWhile_concat_pos _ _ _ (same ▸ hc), ih]
      · rw [List.rdropWhile_concat_neg _ _ _ (same ▸ hc), last,
          List.rdropWhile_concat_neg _ _ _ hc]
    | inr s =>
      obtain ⟨cs, c, hs⟩ := (List.eq_nil_or_concat (s.chars n)).resolve_left (s.chars_ne_nil n)
      rw [List.concat_eq_append] at hs
      have kept : ¬ p c = true := by
        rw [hp c (Slot.isChar_of_mem (s := s) (n := n) (by simp [hs]))]
        exact Bool.false_ne_true
      rw [List.rdropWhile_concat_neg _ _ _ (by simp [isChar]), text_append, text_slot, text_nil,
        List.append_nil, hs, ← List.append_assoc, List.rdropWhile_concat_neg _ _ _ kept]

theorem slot_mem_dropWhile {p : Char → Bool} {s : Slot} (h : .inr s ∈ f) :
    .inr s ∈ f.dropWhile (isChar p) := by
  rw [← List.takeWhile_append_dropWhile (p := isChar p) (l := f), List.mem_append] at h
  rcases h with h | h
  · exact absurd (List.mem_takeWhile_imp h) (by simp [isChar])
  · exact h

theorem slot_mem_rdropWhile {p : Char → Bool} {s : Slot} (h : .inr s ∈ f) :
    .inr s ∈ f.rdropWhile (isChar p) :=
  List.mem_reverse.2 (slot_mem_dropWhile (List.mem_reverse.2 h))

/-- The form without white space at its ends. -/
def trim (f : Form) : Form :=
  (f.dropWhile (isChar Text.isBlank)).rdropWhile (isChar Text.isBlank)

theorem text_trim (n : Int) (f : Form) : text n f.trim = Text.trimChars (text n f) := by
  have blank : ∀ c, Slot.IsChar c → Text.isBlank c = false := fun c => Slot.IsChar.not_blank
  rw [trim, text_rdropWhile blank, text_dropWhile blank]
  rfl

theorem slot_mem_trim {s : Slot} (h : .inr s ∈ f) : .inr s ∈ f.trim :=
  slot_mem_rdropWhile (slot_mem_dropWhile h)

/-- The form without strokes at its end. -/
def trimStrokes (f : Form) : Form := f.rdropWhile (isChar (· = '/'))

theorem text_trimStrokes (n : Int) (f : Form) :
    text n f.trimStrokes = StoragePattern.trimStrokes (text n f) := by
  refine text_rdropWhile (fun c h => ?_) f
  rw [decide_eq_false_iff_not]
  rintro rfl
  rcases h with h | h <;> exact absurd h (by decide)

theorem slot_mem_trimStrokes {s : Slot} (h : .inr s ∈ f) : .inr s ∈ f.trimStrokes :=
  slot_mem_rdropWhile h

/-- The form as a code, which has no sign. -/
def code (f : Form) : Form :=
  f.flatMap (Sum.elim (fun c => literal ((Text.upperChar c).filter Transform.isCodeChar))
    fun _ => [.inr .digits])

theorem text_code (n : Int) (f : Form) :
    text n f.code = ((text n f).flatMap Text.upperChar).filter Transform.isCodeChar := by
  induction f with
  | nil => rfl
  | cons x f ih =>
    have step : code (x :: f) = code [x] ++ code f := by simp [code]
    rw [step, text_append, ih]
    cases x with
    | inl c => simp [code]
    | inr s =>
      have upper : (s.chars n).flatMap Text.upperChar = s.chars n := by
        rw [List.flatMap_def, List.map_congr_left fun c hc => (Slot.isChar_of_mem hc).upperChar_eq,
          ← List.flatMap_def, List.flatMap_singleton']
      rw [text_slot, List.flatMap_append, List.filter_append, upper,
        Slot.filter_isCodeChar_chars]
      simp [code]

theorem slot_mem_code {s : Slot} (h : .inr s ∈ f) : .inr .digits ∈ f.code :=
  List.mem_flatMap.2 ⟨_, h, List.mem_singleton_self _⟩

/-- The form with one dot for each run of dots. -/
def squeezeDots : Form → Form
  | .inl '.' :: .inl '.' :: rest => squeezeDots (.inl '.' :: rest)
  | x :: rest => x :: squeezeDots rest
  | [] => []

theorem text_squeezeDots (n : Int) (f : Form) :
    text n (squeezeDots f) = StoragePattern.squeezeDots (text n f) := by
  fun_induction squeezeDots f with
  | case1 rest ih => rw [ih]; rfl
  | case2 x rest single ih =>
    cases x with
    | inr s =>
      rw [text_slot, text_slot, ih,
        StoragePattern.squeezeDots_append fun c hc => (Slot.isChar_of_mem hc).ne_dot]
    | inl c =>
      rw [text_char, text_char, ih, StoragePattern.squeezeDots]
      -- The rest begins with no dot: it begins as a number does, or as the form.
      rintro tail rfl htail
      cases rest with
      | nil => cases htail
      | cons y rest =>
        cases y with
        | inl d =>
          rw [text_char, List.cons.injEq] at htail
          exact single rest rfl (by rw [htail.1])
        | inr s =>
          obtain ⟨d, ds, hs⟩ := List.exists_cons_of_ne_nil (s.chars_ne_nil n)
          rw [text_slot, hs, List.cons_append, List.cons.injEq] at htail
          exact (Slot.isChar_of_mem (hs ▸ List.mem_cons_self)).ne_dot htail.1
  | case3 => rfl

theorem slot_mem_squeezeDots {s : Slot} (h : .inr s ∈ f) : .inr s ∈ squeezeDots f := by
  fun_induction squeezeDots f with
  | case1 rest ih => exact ih (by simpa using h)
  | case2 x rest _ ih =>
    rcases List.mem_cons.1 h with rfl | h
    · exact List.mem_cons_self
    · exact List.mem_cons_of_mem _ (ih h)
  | case3 => cases h

/-- The form as a part of a path. -/
def segment (f : Form) : Form := squeezeDots (f.map (Sum.map StoragePattern.replaceSeparator id))

theorem text_segment (n : Int) (f : Form) :
    text n f.segment = StoragePattern.pathSegment (text n f) := by
  rw [segment, text_squeezeDots, StoragePattern.pathSegment_eq_squeezeDots]
  congr 1
  induction f with
  | nil => rfl
  | cons x f ih =>
    cases x with
    | inl c => simp [ih]
    | inr s =>
      have same : (s.chars n).map StoragePattern.replaceSeparator = s.chars n :=
        (List.map_congr_left fun c hc => (Slot.isChar_of_mem hc).replaceSeparator_eq).trans
          (List.map_id' _)
      simp [ih, same]

theorem slot_mem_segment {s : Slot} (h : .inr s ∈ f) : .inr s ∈ f.segment :=
  slot_mem_squeezeDots (List.mem_map.2 ⟨_, h, rfl⟩)

end Form

end ContractDocs
