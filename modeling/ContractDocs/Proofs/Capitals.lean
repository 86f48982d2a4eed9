/-
Capitals: upper case taken twice is upper case, and it neither makes nor loses
white space. So a text can be brought to upper case before or after the white
space at its ends is left out.

`upperChar_cases` carries the rest: a character is its own capital form, or
all characters of the form are capitals. The tables of letters are searched
run by run, not letter by letter: `caseless` says of a whole run of numbers
that no letter of the tables is among them.
-/
import Mathlib.Tactic.Set
import ContractDocs.Text.Blank
import ContractDocs.Text.Upper

namespace ContractDocs.Text

/-! ## Numbers without letters to change -/

/-- No number from `first` to `last` belongs to a letter with a capital form. With `even` set, only
numbers at an even distance from `first` count. -/
def caseless (first last : Nat) (even : Bool) : Bool :=
  caseRuns.all (fun r => Nat.blt last r.first || Nat.blt r.last first
      || even && Nat.beq r.step 2 && Nat.beq ((r.first + first) % 2) 1)
    && expansions.all fun e => Nat.blt last e.1 || Nat.blt e.1 first
      || even && Nat.beq ((e.1 + first) % 2) 1

theorem upperChar_of_caseless {first last : Nat} {even : Bool} (h : caseless first last even = true)
    {c : Char} (hfirst : first ≤ c.toNat) (hlast : c.toNat ≤ last)
    (heven : even = true → c.toNat % 2 = first % 2) : upperChar c = [c] := by
  simp only [caseless, Bool.and_eq_true, List.all_eq_true, Bool.or_eq_true, Nat.blt_eq,
    Nat.beq_eq] at h
  obtain ⟨runs, keys⟩ := h
  have find : caseRuns.find? (·.contains c.toNat) = none := by
    rw [List.find?_eq_none]
    intro r hr hc
    simp only [CaseRun.contains, Bool.and_eq_true, decide_eq_true_eq] at hc
    rcases runs r hr with (h | h) | ⟨⟨he, hstep⟩, odd⟩
    · omega
    · omega
    · have := heven he
      rw [hstep] at hc
      omega
  have lookup : expansions.lookup c.toNat = none := by
    rw [List.lookup_eq_none_iff]
    intro e he
    rw [bne_iff_ne]
    rcases keys e he with (h | h) | ⟨hev, odd⟩
    · omega
    · omega
    · have := heven hev
      omega
  simp only [upperChar, find, lookup]

/-- No number from `first` to `last` belongs to white space. -/
def blankless (first last : Nat) : Bool :=
  [(0x09, 0x0D), (0x20, 0x20), (0x85, 0x85), (0xA0, 0xA0), (0x1680, 0x1680), (0x2000, 0x200A),
    (0x2028, 0x2029), (0x202F, 0x202F), (0x205F, 0x205F), (0x3000, 0x3000)].all fun b =>
      Nat.blt last b.1 || Nat.blt b.2 first

theorem isBlank_of_blankless {first last : Nat} (h : blankless first last = true) {c : Char}
    (hfirst : first ≤ c.toNat) (hlast : c.toNat ≤ last) : isBlank c = false := by
  simp only [blankless, List.all_cons, List.all_nil, Bool.and_true, Bool.and_eq_true,
    Bool.or_eq_true, Nat.blt_eq] at h
  simp only [isBlank, Bool.or_eq_false_iff, Bool.and_eq_false_iff, decide_eq_false_iff_not]
  omega

/-! ## Capitals -/

/-- Neither a letter with another capital form nor white space. -/
structure IsCapital (c : Char) : Prop where
  upperChar_eq : upperChar c = [c]
  not_blank : isBlank c = false

/-- The number of the capital letter for the letter with the number `n`. -/
def CaseRun.image (r : CaseRun) (n : Nat) : Nat := (n + r.distance).toNat

/-- All capital letters of a run are valid, and capitals. -/
def CaseRun.isSound (r : CaseRun) : Bool :=
  (Nat.blt (r.image r.last) 0xD800
      || Nat.blt 0xDFFF (r.image r.first) && Nat.blt (r.image r.last) 0x110000)
    && decide (0 ≤ r.first + r.distance)
    && blankless (r.image r.first) (r.image r.last)
    && caseless (r.image r.first) (r.image r.last) (Nat.beq r.step 2 || Nat.beq r.first r.last)

/-- A character number that is a capital by itself. -/
def isCapitalNumber (n : Nat) : Bool := Nat.blt n 0xD800 && blankless n n && caseless n n false

theorem caseRuns_isSound : caseRuns.all CaseRun.isSound = true := by decide +kernel

theorem expansions_isCapital :
    expansions.all (fun e => !e.2.isEmpty && e.2.all isCapitalNumber) = true := by decide +kernel

/-- A valid number is that of a character. -/
theorem exists_char {n : Nat} (valid : n.isValidChar) :
    ∃ c : Char, c.toNat = n ∧ Char.ofNat n = c :=
  ⟨.ofNatAux n valid, rfl, Char.ofNat_toNat (.ofNatAux n valid)⟩

theorem CaseRun.isCapital {r : CaseRun} (h : r.isSound = true) {n : Nat}
    (hn : r.contains n = true) : IsCapital (Char.ofNat (r.image n)) := by
  simp only [isSound, Bool.and_eq_true, Bool.or_eq_true, Nat.blt_eq, decide_eq_true_eq] at h
  obtain ⟨⟨⟨valid, positive⟩, blank⟩, case⟩ := h
  simp only [contains, Bool.and_eq_true, decide_eq_true_eq] at hn
  have first : r.image r.first ≤ r.image n := by
    unfold image
    omega
  have last : r.image n ≤ r.image r.last := by
    unfold image
    omega
  have isChar : (r.image n).isValidChar := by
    rw [Nat.isValidChar]
    omega
  obtain ⟨c, number, whole⟩ := exists_char isChar
  rw [whole]
  refine ⟨upperChar_of_caseless case (by omega) (by omega) fun even => ?_,
    isBlank_of_blankless blank (by omega) (by omega)⟩
  -- All letters of the run are at an even distance from its first.
  rw [Bool.or_eq_true, Nat.beq_eq, Nat.beq_eq] at even
  rw [number]
  unfold image
  rcases even with step | single
  · rw [step] at hn
    omega
  · have : n = r.first := by omega
    rw [this]

theorem isCapital_of_isCapitalNumber {n : Nat} (h : isCapitalNumber n = true) :
    IsCapital (Char.ofNat n) := by
  simp only [isCapitalNumber, Bool.and_eq_true, Nat.blt_eq] at h
  obtain ⟨⟨valid, blank⟩, case⟩ := h
  obtain ⟨c, number, whole⟩ := exists_char (.inl valid)
  rw [whole]
  exact ⟨upperChar_of_caseless case (by omega) (by omega) (by simp),
    isBlank_of_blankless blank (by omega) (by omega)⟩

/-- A character is its own capital form, or the form is made of capitals. -/
theorem upperChar_cases (c : Char) :
    upperChar c = [c] ∨ (upperChar c ≠ [] ∧ ∀ d ∈ upperChar c, IsCapital d) := by
  rw [upperChar]
  split
  · next r hr =>
    have sound := List.all_eq_true.1 caseRuns_isSound r (List.mem_of_find?_eq_some hr)
    have hc : r.contains c.toNat = true := by simpa using List.find?_some hr
    right
    simpa [CaseRun.image] using CaseRun.isCapital sound hc
  · split
    · next ns hns =>
      right
      obtain ⟨before, after, heq, -⟩ := List.lookup_eq_some_iff.1 hns
      have sound := List.all_eq_true.1 expansions_isCapital (c.toNat, ns) (by simp [heq])
      simp only [Bool.and_eq_true, Bool.not_eq_true', List.all_eq_true] at sound
      refine ⟨by simpa using sound.1, fun d hd => ?_⟩
      obtain ⟨n, hn, rfl⟩ := List.mem_map.1 hd
      exact isCapital_of_isCapitalNumber (sound.2 n hn)
    · left
      rfl

theorem upperChar_of_isBlank {c : Char} (h : isBlank c = true) : upperChar c = [c] := by
  have caseless : caseless 0x09 0x20 false = true ∧ caseless 0x85 0xA0 false = true ∧
      caseless 0x1680 0x1680 false = true ∧ caseless 0x2000 0x205F false = true ∧
      caseless 0x3000 0x3000 false = true := by decide +kernel
  obtain ⟨h₁, h₂, h₃, h₄, h₅⟩ := caseless
  simp only [isBlank, Bool.or_eq_true, Bool.and_eq_true, decide_eq_true_eq] at h
  by_cases c₁ : c.toNat ≤ 0x20
  · exact upperChar_of_caseless h₁ (by omega) c₁ (by simp)
  by_cases c₂ : c.toNat ≤ 0xA0
  · exact upperChar_of_caseless h₂ (by omega) c₂ (by simp)
  by_cases c₃ : c.toNat ≤ 0x1680
  · exact upperChar_of_caseless h₃ (by omega) c₃ (by simp)
  by_cases c₄ : c.toNat ≤ 0x205F
  · exact upperChar_of_caseless h₄ (by omega) c₄ (by simp)
  · exact upperChar_of_caseless h₅ (by omega) (by omega) (by simp)

theorem upperChar_ne_nil (c : Char) : upperChar c ≠ [] := by
  rcases upperChar_cases c with h | ⟨h, -⟩
  · simp [h]
  · exact h

theorem upperChar_of_mem {c d : Char} (h : d ∈ upperChar c) : upperChar d = [d] := by
  rcases upperChar_cases c with hc | ⟨-, hc⟩
  · rw [hc, List.mem_singleton] at h
    rw [h, hc]
  · exact (hc d h).upperChar_eq

theorem isBlank_of_mem_upperChar {c d : Char} (hc : isBlank c = false) (h : d ∈ upperChar c) :
    isBlank d = false := by
  rcases upperChar_cases c with hu | ⟨-, hu⟩
  · rw [hu, List.mem_singleton] at h
    rw [h, hc]
  · exact (hu d h).not_blank

/-! ## Texts -/

theorem toList_upper (s : String) : (upper s).toList = s.toList.flatMap upperChar :=
  String.toList_ofList

theorem toList_trim (s : String) : (trim s).toList = trimChars s.toList := String.toList_ofList

@[simp] theorem upper_upper (s : String) : upper (upper s) = upper s := by
  rw [upper, toList_upper, List.flatMap_assoc, upper]
  refine congrArg String.ofList (congrArg (List.flatMap · s.toList) (funext fun c => ?_))
  have same : (upperChar c).map upperChar = (upperChar c).map fun d => [d] :=
    List.map_congr_left fun d hd => upperChar_of_mem hd
  rw [List.flatMap_def, same, ← List.flatMap_def, List.flatMap_singleton']

theorem flatMap_upperChar_of_isBlank {cs : List Char} (h : ∀ c ∈ cs, isBlank c = true) :
    cs.flatMap upperChar = cs := by
  rw [List.flatMap_def, List.map_congr_left fun c hc => upperChar_of_isBlank (h c hc),
    ← List.flatMap_def, List.flatMap_singleton']

/-- There is no white space at either end. -/
structure IsTrimmed (cs : List Char) : Prop where
  first : ∀ c, cs.head? = some c → isBlank c = false
  last : ∀ c, cs.getLast? = some c → isBlank c = false

theorem isBlank_head?_trimStart {cs : List Char} {c : Char} (h : (trimStart cs).head? = some c) :
    isBlank c = false := by
  have first := List.head?_dropWhile_not isBlank cs
  rw [← trimStart, h] at first
  simpa using first

theorem trimStart_eq_self {cs : List Char} (h : ∀ c, cs.head? = some c → isBlank c = false) :
    trimStart cs = cs := by
  cases cs with
  | nil => rfl
  | cons c cs => exact List.dropWhile_cons_of_neg (by simp [h c rfl])

theorem isTrimmed_trimChars (cs : List Char) : IsTrimmed (trimChars cs) := by
  refine ⟨fun c hc => ?_, fun c hc => ?_⟩
  · -- What is left after the end is trimmed begins as before.
    have before : trimChars cs <+: trimStart cs := by
      have kept : trimStart (trimStart cs).reverse <:+ (trimStart cs).reverse :=
        List.dropWhile_suffix _
      simpa [trimChars] using List.reverse_prefix.2 kept
    obtain ⟨rest, hrest⟩ := before
    have first : (trimStart cs).head? = some c := by
      rw [← hrest, List.head?_append, hc]
      rfl
    exact isBlank_head?_trimStart first
  · rw [trimChars, List.getLast?_reverse] at hc
    exact isBlank_head?_trimStart hc

theorem isTrimmed_of_not_blank {cs : List Char} (h : ∀ c ∈ cs, isBlank c = false) :
    IsTrimmed cs where
  first c hc := h c (List.mem_of_head? hc)
  last c hc := h c (List.mem_of_getLast? hc)

theorem IsTrimmed.trimChars_eq {cs : List Char} (h : IsTrimmed cs) : trimChars cs = cs := by
  rw [trimChars, trimStart_eq_self h.first, trimStart_eq_self, List.reverse_reverse]
  intro c hc
  rw [List.head?_reverse] at hc
  exact h.last c hc

theorem IsTrimmed.flatMap_upperChar {cs : List Char} (h : IsTrimmed cs) :
    IsTrimmed (cs.flatMap upperChar) := by
  refine ⟨fun d hd => ?_, fun d hd => ?_⟩
  · cases cs with
    | nil => cases hd
    | cons c cs =>
      rw [List.flatMap_cons, List.head?_append, Option.or_eq_some_iff] at hd
      rcases hd with hd | ⟨none, -⟩
      · exact isBlank_of_mem_upperChar (h.first c rfl) (List.mem_of_head? hd)
      · exact absurd (List.head?_eq_none_iff.1 none) (upperChar_ne_nil c)
  · rcases List.eq_nil_or_concat cs with rfl | ⟨cs, c, rfl⟩
    · cases hd
    · rw [List.concat_eq_append, List.flatMap_append, List.flatMap_singleton,
        List.getLast?_append, Option.or_eq_some_iff] at hd
      rcases hd with hd | ⟨none, -⟩
      · exact isBlank_of_mem_upperChar (h.last c (by simp)) (List.mem_of_getLast? hd)
      · exact absurd (List.getLast?_eq_none_iff.1 none) (upperChar_ne_nil c)

/-- Text is white space, then what is left when it is trimmed, then white space. -/
theorem exists_trimChars (cs : List Char) : ∃ lead trail, (∀ c ∈ lead, isBlank c = true) ∧
    (∀ c ∈ trail, isBlank c = true) ∧ cs = lead ++ trimChars cs ++ trail := by
  have blank : ∀ ds : List Char, ∀ c ∈ ds.takeWhile isBlank, isBlank c = true := fun ds =>
    List.all_eq_true.1 List.all_takeWhile
  refine ⟨cs.takeWhile isBlank, ((trimStart cs).reverse.takeWhile isBlank).reverse, blank cs,
    fun c hc => blank _ c (List.mem_reverse.1 hc), ?_⟩
  have tail : trimChars cs ++ ((trimStart cs).reverse.takeWhile isBlank).reverse =
      trimStart cs := by
    rw [trimChars, trimStart.eq_def (trimStart cs).reverse, ← List.reverse_append,
      List.takeWhile_append_dropWhile, List.reverse_reverse]
  rw [List.append_assoc, tail, trimStart, List.takeWhile_append_dropWhile]

theorem trimStart_append {lead : List Char} (h : ∀ c ∈ lead, isBlank c = true) (cs : List Char) :
    trimStart (lead ++ cs) = trimStart cs :=
  List.dropWhile_append_of_pos h

theorem IsTrimmed.trimChars_append {lead cs trail : List Char}
    (hlead : ∀ c ∈ lead, isBlank c = true) (h : IsTrimmed cs)
    (htrail : ∀ c ∈ trail, isBlank c = true) : trimChars (lead ++ cs ++ trail) = cs := by
  have ends : ∀ c ∈ trail.reverse, isBlank c = true := fun c hc => htrail c (List.mem_reverse.1 hc)
  have start : trimStart (lead ++ cs ++ trail) = cs ++ trimStart trail ∨
      trimStart (lead ++ cs ++ trail) = cs ++ trail := by
    rw [List.append_assoc, trimStart_append hlead]
    cases cs with
    | nil => exact .inl rfl
    | cons c cs =>
      right
      exact List.dropWhile_cons_of_neg (by simp [h.first c rfl])
  have none : trimStart trail = [] := by
    rw [← List.append_nil trail, trimStart_append htrail]
    rfl
  have last : ∀ c, cs.reverse.head? = some c → isBlank c = false := fun c hc =>
    h.last c (List.head?_reverse ▸ hc)
  rcases start with start | start
  · rw [trimChars, start, none, List.append_nil, trimStart_eq_self last, List.reverse_reverse]
  · rw [trimChars, start, List.reverse_append, trimStart_append ends, trimStart_eq_self last,
      List.reverse_reverse]

/-- **A text in upper case without white space at its ends** stays as it is
when both are done again. -/
theorem upper_trim_upper_trim (s : String) : upper (trim (upper (trim s))) = upper (trim s) := by
  have trimmed : trim (upper (trim s)) = upper (trim s) := by
    rw [trim, toList_upper, toList_trim,
      (isTrimmed_trimChars s.toList).flatMap_upperChar.trimChars_eq, upper, toList_trim]
  rw [trimmed, upper_upper]

/-- Upper case leaves the white space at the ends where it is. -/
theorem exists_toList_upper (s : String) : ∃ lead trail, (∀ c ∈ lead, isBlank c = true) ∧
    (∀ c ∈ trail, isBlank c = true) ∧ s.toList = lead ++ (trim s).toList ++ trail ∧
    (upper s).toList = lead ++ (upper (trim s)).toList ++ trail := by
  obtain ⟨lead, trail, hlead, htrail, hs⟩ := exists_trimChars s.toList
  rw [← toList_trim] at hs
  refine ⟨lead, trail, hlead, htrail, hs, ?_⟩
  rw [toList_upper, toList_upper]
  conv => lhs; rw [hs]
  rw [List.flatMap_append, List.flatMap_append, flatMap_upperChar_of_isBlank hlead,
    flatMap_upperChar_of_isBlank htrail]

/-- A text in upper case stays as it is when it is trimmed and put in upper
case exactly when the text has no white space at its ends. -/
theorem upper_trim_upper_iff {s : String} : upper (trim (upper s)) = upper s ↔ trim s = s := by
  constructor
  · intro h
    obtain ⟨lead, trail, hlead, htrail, hs, raised⟩ := exists_toList_upper s
    have core : IsTrimmed (upper (trim s)).toList := by
      rw [toList_upper, toList_trim]
      exact (isTrimmed_trimChars s.toList).flatMap_upperChar
    have again : upper (trim (upper s)) = upper (trim s) := by
      rw [trim, raised, core.trimChars_append hlead htrail, String.ofList_toList, upper_upper]
    have ends : lead.length + trail.length = 0 := by
      have length := congrArg (fun s : String => s.toList.length) (h.symm.trans again)
      simp only [raised, List.length_append] at length
      omega
    obtain ⟨rfl, rfl⟩ : lead = [] ∧ trail = [] := by simpa using ends
    rw [← String.toList_inj]
    simpa using hs.symm
  · intro h
    have done := upper_trim_upper_trim s
    rwa [h] at done

end ContractDocs.Text
