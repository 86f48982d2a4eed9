/-
Segments: what stands between the strokes of a destination, and when one of
them is `..`.

A value has no stroke and no two dots in a row, so it can neither end a
segment nor be `..` by itself. But a segment is what a whole part of the
pattern comes out as, and two dots may come from two neighbours.
`upward_mem_segments_iff`: that is the only way. `Guarded`: a part that holds
something besides dots and placeholders never comes out as `..`.
-/
import ContractDocs.StoragePattern

namespace ContractDocs

/-! ## Paths -/

/-- What stands between the strokes of a path. -/
def segments (path : String) : List (List Char) := path.toList.splitOn '/'

/-- The segment that leads out of a folder. -/
def upward : List Char := ['.', '.']

theorem splitOn_append_of_not_mem {cs : List Char} (h : '/' ∉ cs) (rest : List Char) :
    (cs ++ rest).splitOn '/' = (rest.splitOn '/').modifyHead (cs ++ ·) := by
  induction cs with
  | nil => simp only [List.nil_append]; cases rest.splitOn '/' <;> rfl
  | cons c cs ih =>
    rw [List.mem_cons, not_or] at h
    have hc : (c == '/') = false := by simpa using Ne.symm h.1
    rw [List.cons_append, List.splitOn_cons_eq_if_modifyHead, ih h.2]
    simp [hc, List.modifyHead_modifyHead, Function.comp_def]

theorem flatten_eq_replicate {texts : List (List Char)} (h : ∀ s ∈ texts, s = [] ∨ s = ['.']) :
    texts.flatten = List.replicate (texts.count ['.']) '.' := by
  induction texts with
  | nil => simp
  | cons s texts ih =>
    rw [List.forall_mem_cons] at h
    rcases h.1 with rfl | rfl
    · simpa using ih h.2
    · simpa [List.replicate_succ] using ih h.2

/-- Texts put together are `..` when two of them are dots and the others are empty. -/
theorem flatten_eq_upward_iff {texts : List (List Char)} (h : upward ∉ texts) :
    texts.flatten = upward ↔ (∀ s ∈ texts, s = [] ∨ s = ['.']) ∧ texts.count ['.'] = 2 := by
  constructor
  · intro hf
    have only : ∀ s ∈ texts, s = [] ∨ s = ['.'] := by
      intro s hs
      have within : s.Sublist upward := hf ▸ List.sublist_flatten_of_mem hs
      have whole : s ≠ upward := fun he => h (he ▸ hs)
      have hlen : s.length ≤ 2 := within.length_le
      have hs : s = List.replicate s.length '.' :=
        List.eq_replicate_of_mem fun c hc => by simpa [upward] using within.subset hc
      match hn : s.length with
      | 0 => exact .inl (by rw [hs, hn]; rfl)
      | 1 => exact .inr (by rw [hs, hn]; rfl)
      | 2 => exact absurd (by rw [hs, hn]; rfl) whole
      | n + 3 => omega
    refine ⟨only, ?_⟩
    have counted := congrArg List.length ((flatten_eq_replicate only).symm.trans hf)
    simpa [upward] using counted
  · rintro ⟨only, two⟩
    rw [flatten_eq_replicate only, two]
    rfl

namespace StoragePattern

/-! ## Values -/

theorem mem_of_mem_mergeDotPairs {c : Char} {cs : List Char} (h : c ∈ mergeDotPairs cs) :
    c ∈ cs := by
  fun_induction mergeDotPairs cs with
  | case1 rest ih =>
    rcases List.mem_cons.1 h with rfl | h
    · exact List.mem_cons_self
    · exact List.mem_cons_of_mem _ (List.mem_cons_of_mem _ (ih h))
  | case2 d rest _ ih =>
    rcases List.mem_cons.1 h with rfl | h
    · exact List.mem_cons_self
    · exact List.mem_cons_of_mem _ (ih h)
  | case3 => exact h

theorem mem_of_mem_collapseDots {c : Char} {cs : List Char} (h : c ∈ collapseDots cs) : c ∈ cs := by
  fun_induction collapseDots cs with
  | case1 cs _ _ ih => exact mem_of_mem_mergeDotPairs (ih h)
  | case2 cs _ => exact h

theorem hasDotPair_collapseDots (cs : List Char) : hasDotPair (collapseDots cs) = false := by
  fun_induction collapseDots cs with
  | case1 cs _ _ ih => exact ih
  | case2 cs h => exact Bool.eq_false_iff.2 h

/-- One dot for each run of dots. -/
def squeezeDots : List Char → List Char
  | '.' :: '.' :: rest => squeezeDots ('.' :: rest)
  | c :: rest => c :: squeezeDots rest
  | [] => []

theorem squeezeDots_cons_of_ne {c : Char} (h : c ≠ '.') (cs : List Char) :
    squeezeDots (c :: cs) = c :: squeezeDots cs := by
  rw [squeezeDots]
  rintro rest rfl -
  exact h rfl

theorem squeezeDots_dot_cons (cs : List Char) :
    squeezeDots ('.' :: cs) =
      if (squeezeDots cs).head? = some '.' then squeezeDots cs else '.' :: squeezeDots cs := by
  match cs with
  | [] => rfl
  | c :: cs =>
    by_cases hc : c = '.'
    · subst hc
      have head : (squeezeDots ('.' :: cs)).head? = some '.' := by
        rw [squeezeDots_dot_cons cs]
        split
        · assumption
        · rfl
      rw [squeezeDots, if_pos head]
    · have head : (squeezeDots (c :: cs)).head? ≠ some '.' := by
        rw [squeezeDots_cons_of_ne hc]
        simpa using hc
      rw [if_neg head, squeezeDots]
      rintro rest - h
      cases h
      exact hc rfl

theorem squeezeDots_append_cons {c : Char} (h : c ≠ '.') (before after : List Char) :
    squeezeDots (before ++ c :: after) = squeezeDots before ++ c :: squeezeDots after := by
  induction before with
  | nil => exact squeezeDots_cons_of_ne h after
  | cons d before ih =>
    by_cases hd : d = '.'
    · subst hd
      rw [List.cons_append, squeezeDots_dot_cons, squeezeDots_dot_cons, ih]
      cases squeezeDots before with
      | nil => simp [h]
      | cons e rest =>
        by_cases he : e = '.' <;> simp [he]
    · rw [List.cons_append, squeezeDots_cons_of_ne hd, squeezeDots_cons_of_ne hd, ih,
        List.cons_append]

theorem squeezeDots_append {cs : List Char} (h : ∀ c ∈ cs, c ≠ '.') (rest : List Char) :
    squeezeDots (cs ++ rest) = cs ++ squeezeDots rest := by
  induction cs with
  | nil => rfl
  | cons c cs ih =>
    rw [List.forall_mem_cons] at h
    rw [List.cons_append, squeezeDots_cons_of_ne h.1, ih h.2, List.cons_append]

theorem squeezeDots_mergeDotPairs (cs : List Char) :
    squeezeDots (mergeDotPairs cs) = squeezeDots cs := by
  fun_induction mergeDotPairs cs with
  | case1 rest ih => rw [squeezeDots, squeezeDots_dot_cons, squeezeDots_dot_cons rest, ih]
  | case2 c rest _ ih =>
    by_cases hc : c = '.'
    · rw [hc, squeezeDots_dot_cons, squeezeDots_dot_cons rest, ih]
    · rw [squeezeDots_cons_of_ne hc, squeezeDots_cons_of_ne hc, ih]
  | case3 => rfl

theorem squeezeDots_eq_self {cs : List Char} (h : hasDotPair cs = false) : squeezeDots cs = cs := by
  fun_induction squeezeDots cs with
  | case1 rest _ => simp [hasDotPair] at h
  | case2 c rest hne ih => rw [ih (by rwa [hasDotPair.eq_2 c rest hne] at h)]
  | case3 => rfl

/-- **Merging pairs until there is none** leaves one dot for each run of dots. -/
theorem collapseDots_eq_squeezeDots (cs : List Char) : collapseDots cs = squeezeDots cs := by
  fun_induction collapseDots cs with
  | case1 cs _ _ ih => rw [ih, squeezeDots_mergeDotPairs]
  | case2 cs h => rw [squeezeDots_eq_self (Bool.eq_false_iff.2 h)]

theorem pathSegment_eq_squeezeDots (cs : List Char) :
    pathSegment cs = squeezeDots (cs.map replaceSeparator) :=
  collapseDots_eq_squeezeDots _

/-- A value brings no stroke into a path. -/
theorem not_mem_pathSegment (cs : List Char) : '/' ∉ pathSegment cs := by
  intro h
  obtain ⟨c, -, hc⟩ := List.mem_map.1 (mem_of_mem_collapseDots h)
  rw [replaceSeparator] at hc
  split at hc
  · cases hc
  · next hne => simp [hc] at hne

/-- A value alone is not `..`. -/
theorem pathSegment_ne_upward (cs : List Char) : pathSegment cs ≠ upward := by
  intro h
  have none := hasDotPair_collapseDots (cs.map replaceSeparator)
  rw [← pathSegment, h] at none
  cases none

theorem fillPiece_ne_upward (vars : Dict Json) (piece : Piece) : fillPiece vars piece ≠ upward := by
  cases piece with
  | literal c => simp [fillPiece, upward]
  | placeholder name =>
    rw [fillPiece]
    split
    · exact pathSegment_ne_upward _
    · simp [upward]

/-! ## Parts of a pattern -/

/-- The pieces between the strokes of a pattern. -/
def partsOf (ps : List Piece) : List (List Piece) := ps.splitOn (.literal '/')

/-- The parts of the folder and of the file name. -/
def parts (p : StoragePattern) : List (List Piece) :=
  partsOf (pieces p.folder) ++ partsOf (pieces p.filename)

/-- Every part comes out as one segment. -/
theorem splitOn_flatMap_fillPiece (vars : Dict Json) (ps : List Piece) :
    (ps.flatMap (fillPiece vars)).splitOn '/' =
      (partsOf ps).map fun part => part.flatMap (fillPiece vars) := by
  induction ps with
  | nil => rfl
  | cons piece ps ih =>
    have step : ∀ cs, fillPiece vars piece = cs → '/' ∉ cs → piece ≠ .literal '/' →
        ((piece :: ps).flatMap (fillPiece vars)).splitOn '/' =
          (partsOf (piece :: ps)).map fun part => part.flatMap (fillPiece vars) := by
      intro cs hcs hnot hne
      rw [List.flatMap_cons, hcs, splitOn_append_of_not_mem hnot, ih]
      have hparts : partsOf (piece :: ps) = (partsOf ps).modifyHead (piece :: ·) := by
        rw [partsOf, List.splitOn_cons_eq_if_modifyHead, if_neg (by simpa using hne), partsOf]
      rw [hparts]
      cases partsOf ps with
      | nil => rfl
      | cons part _ => simp [hcs]
    cases piece with
    | placeholder name =>
      refine step _ rfl ?_ (by simp)
      rw [fillPiece]
      split
      · exact not_mem_pathSegment _
      · simp
    | literal c =>
      by_cases hc : c = '/'
      · subst hc
        rw [List.flatMap_cons, fillPiece, List.singleton_append, List.splitOn_cons_eq_if_modifyHead,
          partsOf, List.splitOn_cons_eq_if_modifyHead, if_pos (by simp), if_pos (by simp), ih]
        rfl
      · exact step [c] rfl (by simpa using Ne.symm hc) (by simpa using hc)

/-- A part comes out as `..`: two of its pieces come out as a dot, and the others as nothing. -/
structure Climbs (vars : Dict Json) (part : List Piece) : Prop where
  only : ∀ piece ∈ part, fillPiece vars piece = [] ∨ fillPiece vars piece = ['.']
  two : (part.map (fillPiece vars)).count ['.'] = 2

theorem flatMap_fillPiece_eq_upward_iff {vars : Dict Json} {part : List Piece} :
    part.flatMap (fillPiece vars) = upward ↔ Climbs vars part := by
  have none : upward ∉ part.map (fillPiece vars) := by
    intro h
    obtain ⟨piece, -, hp⟩ := List.mem_map.1 h
    exact fillPiece_ne_upward vars piece hp
  rw [List.flatMap_def, flatten_eq_upward_iff none]
  constructor
  · rintro ⟨only, two⟩
    exact ⟨fun piece hp => only _ (List.mem_map_of_mem hp), two⟩
  · rintro ⟨only, two⟩
    exact ⟨by simpa using only, two⟩

theorem upward_mem_splitOn_fill_iff {vars : Dict Json} {s : String} :
    upward ∈ (fill vars s).splitOn '/' ↔ ∃ part ∈ partsOf (pieces s), Climbs vars part := by
  simp only [fill, splitOn_flatMap_fillPiece, List.mem_map, flatMap_fillPiece_eq_upward_iff]

/-! ## The text of a pattern -/

/-- The text that is read as a piece. -/
def Piece.source : Piece → List Char
  | .literal c => [c]
  | .placeholder name => '{' :: name.toList ++ ['}']

theorem flatMap_source_piecesFrom (started : Option (List Char)) (cs : List Char) :
    (piecesFrom started cs).flatMap Piece.source =
      (match started with
        | none => []
        | some name => '{' :: name.reverse) ++ cs := by
  have literals : ∀ l : List Char, (l.reverse.map Piece.literal).flatMap Piece.source = l.reverse :=
    fun l => by simp only [List.flatMap_map, Piece.source, List.flatMap_singleton']
  fun_induction piecesFrom started cs with
  | case1 => rfl
  | case2 name => simp only [List.flatMap_cons, literals, Piece.source, List.append_nil]; rfl
  | case3 rest ih => simpa using ih
  | case4 c rest _ ih => simpa [Piece.source] using ih
  | case5 c rest name _ ih => simpa using ih
  | case6 c rest name _ h ih =>
    rw [Bool.and_eq_true, decide_eq_true_eq] at h
    simp [Piece.source, ih, h.1]
  | case7 c rest name _ _ ih₁ ih₂ =>
    -- The brace opened no placeholder: it and the name after it are literal.
    simp only [List.flatMap_append, List.flatMap_cons, literals, Piece.source]
    split
    · next h => simp [ih₁, h]
    · simp [ih₂, Piece.source]

/-- The pieces are the whole text. -/
theorem flatMap_source_pieces (s : String) : (pieces s).flatMap Piece.source = s.toList :=
  flatMap_source_piecesFrom none s.toList

theorem hasDotPair_append (cs rest : List Char) : hasDotPair (cs ++ '.' :: '.' :: rest) = true := by
  induction cs with
  | nil => rfl
  | cons c cs ih =>
    rw [List.cons_append, hasDotPair.eq_def]
    split
    · rfl
    · next h => cases h; exact ih
    · next h => cases h

theorem exists_partsOf_eq_cons (ps : List Piece) : ∃ first rest, partsOf ps = first :: rest ∧
    first <+: ps ∧ ∀ part ∈ rest, part <:+: ps := by
  induction ps with
  | nil => exact ⟨[], [], rfl, List.prefix_rfl, by simp⟩
  | cons piece ps ih =>
    obtain ⟨first, rest, heq, hfirst, hrest⟩ := ih
    rw [partsOf] at heq
    rw [partsOf, List.splitOn_cons_eq_if_modifyHead, heq]
    split
    · refine ⟨[], first :: rest, rfl, List.nil_prefix, ?_⟩
      rw [List.forall_mem_cons]
      exact ⟨List.infix_cons hfirst.isInfix, fun part hp => List.infix_cons (hrest part hp)⟩
    · refine ⟨piece :: first, rest, rfl, ?_, fun part hp => List.infix_cons (hrest part hp)⟩
      exact List.cons_prefix_cons.2 ⟨rfl, hfirst⟩

theorem infix_of_mem_partsOf {part ps : List Piece} (h : part ∈ partsOf ps) : part <:+: ps := by
  obtain ⟨first, rest, heq, hfirst, hrest⟩ := exists_partsOf_eq_cons ps
  rw [heq] at h
  rcases List.mem_cons.1 h with rfl | h
  · exact hfirst.isInfix
  · exact hrest part h

/-- Without placeholders, only `..` itself comes out as `..`. -/
theorem Climbs.exists_placeholder {vars : Dict Json} {s : String} {part : List Piece}
    (hs : hasDotPair s.toList = false) (hp : part ∈ partsOf (pieces s)) (h : Climbs vars part) :
    ∃ name, .placeholder name ∈ part := by
  refine Classical.byContradiction fun none => ?_
  have literal : ∀ piece ∈ part, piece = .literal '.' := by
    intro piece hm
    cases piece with
    | placeholder name => exact absurd ⟨name, hm⟩ none
    | literal c => simpa [fillPiece] using h.only _ hm
  have dots : part = List.replicate part.length (.literal '.') := List.eq_replicate_of_mem literal
  have two : part.length = 2 := by
    have counted := h.two
    rw [dots] at counted
    simpa [fillPiece] using counted
  obtain ⟨before, after, heq⟩ := infix_of_mem_partsOf hp
  have text := flatMap_source_pieces s
  rw [← heq, dots, two] at text
  simp only [List.flatMap_append, List.append_assoc] at text
  have pair : hasDotPair s.toList = true := by
    rw [← text]
    exact hasDotPair_append _ _
  rw [hs] at pair
  cases pair

/-! ## Destinations -/

/-- What is left out at the end are strokes alone. -/
theorem exists_trimStrokes_append (cs : List Char) :
    ∃ n, trimStrokes cs ++ List.replicate n '/' = cs := by
  have taken : cs.reverse.takeWhile (· = '/') =
      List.replicate (cs.reverse.takeWhile (· = '/')).length '/' :=
    List.eq_replicate_of_mem fun c hc => by simpa using List.all_eq_true.1 List.all_takeWhile c hc
  have h := congrArg List.reverse
    (List.takeWhile_append_dropWhile (p := (· = '/')) (l := cs.reverse))
  rw [List.reverse_append, List.reverse_reverse, taken, List.reverse_replicate] at h
  exact ⟨_, h⟩

theorem getLast?_trimStrokes (cs : List Char) : (trimStrokes cs).getLast? ≠ some '/' := by
  intro h
  rw [trimStrokes, List.getLast?_reverse] at h
  have first := List.head?_dropWhile_not (fun c : Char => decide (c = '/')) cs.reverse
  rw [h] at first
  simp at first

theorem trimStrokes_eq {cs : List Char} (bare : cs.getLast? ≠ some '/') (n : Nat) :
    trimStrokes (cs ++ List.replicate n '/') = cs := by
  have strokes : ∀ c ∈ List.replicate n '/', decide (c = '/') = true := fun c hc => by
    simp [List.eq_of_mem_replicate hc]
  rw [trimStrokes, List.reverse_append, List.reverse_replicate,
    List.dropWhile_append_of_pos strokes]
  have first : cs.reverse.head? ≠ some '/' := by rwa [List.head?_reverse]
  cases h : cs.reverse with
  | nil => simpa using h.symm
  | cons c rest =>
    rw [h] at first
    rw [List.dropWhile_cons_of_neg (by simpa using first), ← h, List.reverse_reverse]

/-- Strokes at the end only add empty segments. -/
theorem upward_mem_splitOn_append_replicate_iff {cs : List Char} (n : Nat) :
    upward ∈ (cs ++ List.replicate n '/').splitOn '/' ↔ upward ∈ cs.splitOn '/' := by
  induction n with
  | zero => simp
  | succ n ih =>
    rw [List.replicate_succ', ← List.append_assoc, List.splitOn_append_cons_self, List.mem_append,
      ih]
    simp [upward]

theorem upward_mem_splitOn_trimStrokes_iff {cs : List Char} :
    upward ∈ (trimStrokes cs).splitOn '/' ↔ upward ∈ cs.splitOn '/' := by
  obtain ⟨n, whole⟩ := exists_trimStrokes_append cs
  conv => rhs; rw [← whole]
  rw [upward_mem_splitOn_append_replicate_iff]

theorem upward_mem_segments_iff {p : StoragePattern} {vars : Dict Json} :
    upward ∈ segments (p.render vars) ↔ ∃ part ∈ p.parts, Climbs vars part := by
  have folder : upward ∈ (trimStrokes (fill vars p.folder)).splitOn '/' ↔
      ∃ part ∈ partsOf (pieces p.folder), Climbs vars part :=
    upward_mem_splitOn_trimStrokes_iff.trans upward_mem_splitOn_fill_iff
  simp only [segments, render, String.toList_ofList, parts, List.mem_append, or_and_right,
    exists_or, ← folder, ← upward_mem_splitOn_fill_iff]
  split
  · next h =>
    rw [List.isEmpty_iff.1 h]
    simp [upward]
  · rw [List.splitOn_append_cons_self, List.mem_append]

/-- A placeholder stands alone between two strokes, or beside something that is not a dot. -/
def Guarded (p : StoragePattern) : Prop :=
  ∀ part ∈ p.parts, (∃ name, .placeholder name ∈ part) →
    part.length ≤ 1 ∨ ∃ c, c ≠ '.' ∧ .literal c ∈ part

theorem Climbs.two_le_length {vars : Dict Json} {part : List Piece} (h : Climbs vars part) :
    2 ≤ part.length := by
  have counted := List.count_le_length (a := ['.']) (l := part.map (fillPiece vars))
  rwa [h.two, List.length_map] at counted

theorem Climbs.eq_dot {vars : Dict Json} {part : List Piece} (h : Climbs vars part) {c : Char}
    (hc : .literal c ∈ part) : c = '.' := by
  simpa [fillPiece] using h.only _ hc

/-- **Where a destination climbs.** In a pattern without `..`, a segment is
`..` exactly when a part with a placeholder comes out as two dots: its pieces
are dots and placeholders, two of them come out as a dot and the others as
nothing. So no values make a pattern climb that guards its placeholders. -/
theorem upward_mem_segments_render {p : StoragePattern}
    (hfolder : hasDotPair p.folder.toList = false)
    (hfilename : hasDotPair p.filename.toList = false) :
    (∀ vars, upward ∈ segments (p.render vars) ↔
      ∃ part ∈ p.parts, Climbs vars part ∧ ∃ name, .placeholder name ∈ part) ∧
    (p.Guarded → ∀ vars, upward ∉ segments (p.render vars)) := by
  have climbs : ∀ vars, upward ∈ segments (p.render vars) ↔
      ∃ part ∈ p.parts, Climbs vars part ∧ ∃ name, .placeholder name ∈ part := by
    intro vars
    rw [upward_mem_segments_iff]
    refine exists_congr fun part => and_congr_right fun hp => ⟨fun h => ⟨h, ?_⟩, And.left⟩
    rcases List.mem_append.1 hp with hp | hp
    · exact h.exists_placeholder hfolder hp
    · exact h.exists_placeholder hfilename hp
  refine ⟨climbs, fun guarded vars h => ?_⟩
  obtain ⟨part, hp, hc, hname⟩ := (climbs vars).1 h
  rcases guarded part hp hname with short | ⟨c, hne, hm⟩
  · have := hc.two_le_length
    omega
  · exact hne (hc.eq_dot hm)

/-- Two placeholders beside each other. -/
def neighbours : StoragePattern := ⟨"contracts/" ++ placeholder "a" ++ placeholder "b", "x"⟩

/-- A dot for each of them. -/
def dots : Dict Json := .ofList [("a", .string "."), ("b", .string ".")]

theorem climbs_neighbours : Climbs dots [.placeholder "a", .placeholder "b"] := by
  have a : fillPiece dots (.placeholder "a") = ['.'] := by
    show pathSegment ['.'] = ['.']
    simp [pathSegment, collapseDots, hasDotPair, replaceSeparator]
  have b : fillPiece dots (.placeholder "b") = ['.'] := by
    show pathSegment ['.'] = ['.']
    simp [pathSegment, collapseDots, hasDotPair, replaceSeparator]
  exact ⟨by simp [a, b], by simp [a, b]⟩

theorem upward_mem_segments_render_neighbours :
    hasDotPair neighbours.folder.toList = false ∧ hasDotPair neighbours.filename.toList = false ∧
      upward ∈ segments (neighbours.render dots) := by
  have folder : hasDotPair neighbours.folder.toList = false := by decide
  have filename : hasDotPair neighbours.filename.toList = false := by decide
  have part : [.placeholder "a", .placeholder "b"] ∈ neighbours.parts := by decide
  exact ⟨folder, filename, ((upward_mem_segments_render folder filename).1 dots).2
    ⟨_, part, climbs_neighbours, "a", by simp⟩⟩

/-- No pair of dots in the pattern, none in a value, and one in the destination. -/
theorem upward_mem_segments_of_dots :
    ¬ ∀ p : StoragePattern, hasDotPair p.folder.toList = false →
      hasDotPair p.filename.toList = false → ∀ vars, upward ∉ segments (p.render vars) := by
  intro h
  refine h neighbours (by decide) (by decide) dots (upward_mem_segments_iff.2 ?_)
  exact ⟨[.placeholder "a", .placeholder "b"], by decide, climbs_neighbours⟩

end StoragePattern

end ContractDocs
