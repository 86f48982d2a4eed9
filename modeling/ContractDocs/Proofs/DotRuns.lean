/-
Runs of dots: what merging pairs of dots comes to, and after how many passes.

A run is a row of dots with no further dot beside it; every other character is
a run by itself. A pass leaves half of each row of dots, or one more than the
half, so of the dots that are too many it leaves at most half
(`two_mul_surplus_mergeDotPairs_le`). When there is none too many the passes
end, and of every row one dot is left (`squeezeDots_eq_flatMap_runs`).
-/
import Mathlib.Algebra.Group.Nat.Defs
import Mathlib.Data.List.SplitBy
import Mathlib.Logic.Function.Iterate
import ContractDocs.Proofs.Separators

namespace ContractDocs

namespace StoragePattern

/-! ## Runs -/

/-- Two neighbours that belong to one run. -/
def sameRun (c d : Char) : Bool := c = '.' && d = '.'

/-- The runs of a text. -/
def runs (cs : List Char) : List (List Char) := cs.splitBy sameRun

/-- A row of dots comes to one dot, and any other run stays as it is. -/
def shortenRun (run : List Char) : List Char := if '.' ∈ run then ['.'] else run

theorem runs_cons {c : Char} {cs : List Char} (h : ∀ d ∈ cs.head?, sameRun c d = false) :
    runs (c :: cs) = [c] :: runs cs := by
  have apart : ([c] ++ cs).splitBy sameRun = [c].splitBy sameRun ++ cs.splitBy sameRun :=
    List.splitBy_append (by simpa using h)
  rwa [List.splitBy_of_isChain (List.cons_ne_nil c []) (by simp)] at apart

/-- A dot before a dot makes the first run longer. -/
theorem exists_runs_dots (cs : List Char) : ∃ run rest,
    runs ('.' :: cs) = ('.' :: run) :: rest ∧
    runs ('.' :: '.' :: cs) = ('.' :: '.' :: run) :: rest := by
  cases found : runs ('.' :: cs) with
  | nil => cases List.splitBy_eq_nil.1 found
  | cons first rest =>
    obtain ⟨whole, nonempty, alike, apart⟩ := List.splitBy_eq_iff.1 found
    rw [List.mem_cons, not_or] at nonempty
    rw [List.forall_mem_cons] at alike
    cases first with
    | nil => exact absurd rfl nonempty.1
    | cons d run =>
      rw [List.flatten_cons, List.cons_append, List.cons.injEq] at whole
      obtain ⟨rfl, whole⟩ := whole
      refine ⟨run, rest, rfl, List.splitBy_eq_iff.2 ⟨?_, ?_, ?_, ?_⟩⟩
      · rw [List.flatten_cons, List.cons_append, List.cons_append, ← whole]
      · rw [List.mem_cons, not_or]
        exact ⟨nofun, nonempty.2⟩
      · rw [List.forall_mem_cons]
        exact ⟨List.isChain_cons_cons.2 ⟨rfl, alike.1⟩, alike.2⟩
      · rw [List.isChain_cons] at apart ⊢
        refine ⟨fun next hnext => ?_, apart.2⟩
        obtain ⟨ha, hb, different⟩ := apart.1 next hnext
        exact ⟨nofun, hb, by rwa [List.getLast_cons (List.cons_ne_nil _ _)]⟩

/-- **One dot is left of every row.** -/
theorem squeezeDots_eq_flatMap_runs (cs : List Char) :
    squeezeDots cs = (runs cs).flatMap shortenRun := by
  fun_induction squeezeDots cs with
  | case1 rest ih =>
    obtain ⟨run, others, once, twice⟩ := exists_runs_dots rest
    rw [ih, once, twice, List.flatMap_cons, List.flatMap_cons]
    simp [shortenRun]
  | case2 c rest hne ih =>
    have alone : ∀ d ∈ rest.head?, sameRun c d = false := by
      rintro d hd
      obtain ⟨tail, rfl⟩ := List.head?_eq_some_iff.1 hd
      by_contra same
      simp only [sameRun, Bool.not_eq_false, Bool.and_eq_true, decide_eq_true_eq] at same
      exact hne tail same.1 (by rw [same.2])
    have kept : shortenRun [c] = [c] := by
      rw [shortenRun]
      split
      · next h => rw [List.mem_singleton.1 h]
      · rfl
    rw [runs_cons alone, List.flatMap_cons, kept, ih, List.singleton_append]
  | case3 => rfl

/-! ## Passes -/

/-- The number of dots that are too many. -/
def surplus (cs : List Char) : Nat := cs.length - (squeezeDots cs).length

theorem length_squeezeDots_le (cs : List Char) : (squeezeDots cs).length ≤ cs.length := by
  fun_induction squeezeDots cs with
  | case1 rest ih =>
    rw [List.length_cons]
    omega
  | case2 c rest _ ih =>
    rw [List.length_cons, List.length_cons]
    omega
  | case3 => exact Nat.le_refl _

theorem surplus_pos {cs : List Char} (h : hasDotPair cs = true) : 0 < surplus cs := by
  have shorter := length_mergeDotPairs_lt h
  have squeezed := length_squeezeDots_le (mergeDotPairs cs)
  rw [squeezeDots_mergeDotPairs] at squeezed
  unfold surplus
  omega

theorem two_mul_length_mergeDotPairs_le (cs : List Char) :
    2 * (mergeDotPairs cs).length ≤ cs.length + (squeezeDots cs).length := by
  fun_induction mergeDotPairs cs with
  | case1 rest ih =>
    have more : (squeezeDots rest).length ≤ (squeezeDots ('.' :: rest)).length := by
      rw [squeezeDots_dot_cons]
      split
      · exact Nat.le_refl _
      · rw [List.length_cons]
        omega
    simp only [squeezeDots, List.length_cons]
    omega
  | case2 c rest hne ih =>
    rw [squeezeDots.eq_2 c rest hne]
    simp only [List.length_cons]
    omega
  | case3 => exact Nat.le_refl _

/-- A pass leaves at most half of the dots that are too many. -/
theorem two_mul_surplus_mergeDotPairs_le (cs : List Char) :
    2 * surplus (mergeDotPairs cs) ≤ surplus cs := by
  have := two_mul_length_mergeDotPairs_le cs
  have := length_squeezeDots_le cs
  unfold surplus
  rw [squeezeDots_mergeDotPairs]
  omega

/-- So each further pass halves them again. -/
theorem two_pow_mul_surplus_le (n : Nat) (cs : List Char) :
    2 ^ n * surplus (mergeDotPairs^[n] cs) ≤ surplus cs := by
  induction n generalizing cs with
  | zero => simp
  | succ n ih =>
    calc 2 ^ (n + 1) * surplus (mergeDotPairs^[n + 1] cs)
        = 2 * (2 ^ n * surplus (mergeDotPairs^[n] (mergeDotPairs cs))) := by
          rw [Function.iterate_succ_apply, Nat.pow_succ, Nat.mul_comm (2 ^ n), Nat.mul_assoc]
      _ ≤ 2 * surplus (mergeDotPairs cs) := Nat.mul_le_mul_left 2 (ih _)
      _ ≤ surplus cs := two_mul_surplus_mergeDotPairs_le cs

/-- The text after so many passes, each of which had a pair to merge. -/
theorem exists_passes (cs : List Char) : ∃ n, collapseDots cs = mergeDotPairs^[n] cs ∧
    ∀ m < n, hasDotPair (mergeDotPairs^[m] cs) = true := by
  fun_induction collapseDots cs with
  | case1 cs pair _ ih =>
    obtain ⟨n, result, pairs⟩ := ih
    refine ⟨n + 1, result, fun m hm => ?_⟩
    cases m with
    | zero => exact pair
    | succ m => exact pairs m (Nat.lt_of_succ_lt_succ hm)
  | case2 cs _ => exact ⟨0, rfl, fun m hm => absurd hm (Nat.not_lt_zero m)⟩

/-! ## The normal form -/

theorem hasDotPair_eq_true_iff {cs : List Char} : hasDotPair cs = true ↔ upward <:+: cs := by
  constructor
  · intro h
    fun_induction hasDotPair cs with
    | case1 rest => exact ⟨[], rest, rfl⟩
    | case2 c rest _ ih => exact List.infix_cons (ih h)
    | case3 => cases h
  · rintro ⟨before, after, rfl⟩
    rw [List.append_assoc]
    exact hasDotPair_append before after

theorem map_replaceSeparator_eq_self {cs : List Char} (h : separators cs = []) :
    cs.map replaceSeparator = cs := by
  have kept : ∀ c ∈ cs, replaceSeparator c = c := fun c hc =>
    if_neg (List.filter_eq_nil_iff.1 h c hc)
  rw [List.map_congr_left kept, List.map_id']

theorem not_mem_of_separators_eq_nil {c : Char} (hc : isSeparator c = true) {cs : List Char}
    (h : separators cs = []) : c ∉ cs :=
  fun mem => List.filter_eq_nil_iff.1 h c mem hc

/-- **The passes come to an end.** Each of them had a pair to merge, and after
`m` of them there is one only if `2 ^ m` dots were too many. They end with the
normal form: hyphens in place of the separators, and of every row of dots a
single one. It has no separator and no two dots beside each other, and a text
in this form is left as it is. -/
theorem pathSegment_normal (cs : List Char) :
    (∃ n, pathSegment cs = mergeDotPairs^[n] (cs.map replaceSeparator) ∧
      hasDotPair (pathSegment cs) = false ∧
      ∀ m < n, hasDotPair (mergeDotPairs^[m] (cs.map replaceSeparator)) = true ∧
        2 ^ m ≤ cs.length - (pathSegment cs).length) ∧
    pathSegment cs = (runs (cs.map replaceSeparator)).flatMap shortenRun ∧
    '/' ∉ pathSegment cs ∧ '\\' ∉ pathSegment cs ∧ ¬ upward <:+: pathSegment cs ∧
    pathSegment (pathSegment cs) = pathSegment cs := by
  have clean := separators_pathSegment cs
  have single : hasDotPair (pathSegment cs) = false := hasDotPair_collapseDots _
  refine ⟨?_, ?_, ?_, ?_, ?_, ?_⟩
  · obtain ⟨n, result, pairs⟩ := exists_passes (cs.map replaceSeparator)
    refine ⟨n, result, single, fun m hm => ⟨pairs m hm, ?_⟩⟩
    have left := two_pow_mul_surplus_le m (cs.map replaceSeparator)
    calc 2 ^ m
        ≤ 2 ^ m * surplus (mergeDotPairs^[m] (cs.map replaceSeparator)) :=
          Nat.le_mul_of_pos_right _ (surplus_pos (pairs m hm))
      _ ≤ surplus (cs.map replaceSeparator) := left
      _ = cs.length - (pathSegment cs).length := by
          rw [surplus, List.length_map, pathSegment_eq_squeezeDots]
  · rw [pathSegment_eq_squeezeDots, squeezeDots_eq_flatMap_runs]
  · exact not_mem_of_separators_eq_nil rfl clean
  · exact not_mem_of_separators_eq_nil rfl clean
  · rw [← hasDotPair_eq_true_iff, single]
    exact Bool.false_ne_true
  · rw [pathSegment_eq_squeezeDots (pathSegment cs), map_replaceSeparator_eq_self clean,
      squeezeDots_eq_self single]

end StoragePattern

end ContractDocs
