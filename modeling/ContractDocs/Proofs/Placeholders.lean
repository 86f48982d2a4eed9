/-
Placeholders: how a pattern becomes a destination in one pass.

`placeholderNames` and `render` go through pieces. `Replaced` says the same of
the text itself: what stands before the leftmost placeholder is copied, the
text of its variable is put in its place, and the pass goes on behind it. So no
value is ever read as a part of the pattern. `replaced_pieces`: the pieces are
what one pass finds. `mem_placeholderNames_iff`: a destination depends on the
variables of its placeholders and on no others.
-/
import Mathlib.Data.List.Basic
import Mathlib.Data.Nat.Find
import ContractDocs.Proofs.Segments

namespace ContractDocs

namespace StoragePattern

/-! ## Names -/

/-- The name of a placeholder. -/
structure IsName (name : List Char) : Prop where
  nonempty : name ≠ []
  chars : ∀ c ∈ name, isNameChar c = true

theorem append_braced_append (before cs after : List Char) :
    before ++ braced cs ++ after = before ++ '{' :: (cs ++ '}' :: after) := by
  simp [braced]

/-- A brace that opens begins anew, whatever stands before it. -/
theorem piecesFrom_append_brace (started : Option (List Char)) (before rest : List Char) :
    piecesFrom started (before ++ '{' :: rest) =
      piecesFrom started before ++ piecesFrom (some []) rest := by
  fun_induction piecesFrom started before with
  | case1 => rw [List.nil_append, piecesFrom, if_pos rfl, List.nil_append]
  | case2 name => rw [List.nil_append, piecesFrom, if_neg (by decide), if_neg (by simp), if_pos rfl]
  | case3 before ih => rw [List.cons_append, piecesFrom, if_pos rfl, ih]
  | case4 c before hc ih => rw [List.cons_append, piecesFrom, if_neg hc, ih, List.cons_append]
  | case5 c before name hc ih => rw [List.cons_append, piecesFrom, if_pos hc, ih]
  | case6 c before name hc h ih =>
    rw [List.cons_append, piecesFrom, if_neg hc, if_pos h, ih, List.cons_append]
  | case7 c before name hc h ih₁ ih₂ =>
    rw [List.cons_append, piecesFrom, if_neg hc, if_neg h, List.append_assoc]
    congr 1
    split
    · exact ih₁
    · rw [ih₂, List.cons_append]

/-- A name that has begun is read to its end. -/
theorem piecesFrom_name {begun name : List Char} (nonempty : begun.reverse ++ name ≠ [])
    (chars : ∀ c ∈ name, isNameChar c = true) (after : List Char) :
    piecesFrom (some begun) (name ++ '}' :: after) =
      .placeholder (String.ofList (begun.reverse ++ name)) :: piecesFrom none after := by
  induction name generalizing begun with
  | nil =>
    have begun : begun.isEmpty = false := by simpa using nonempty
    rw [List.nil_append, piecesFrom, if_neg (by decide), if_pos (by simp [begun]), List.append_nil]
  | cons c name ih =>
    rw [List.forall_mem_cons] at chars
    rw [List.cons_append, piecesFrom, if_pos chars.1, ih (by simp) chars.2]
    simp

/-- **A placeholder is found wherever it stands.** -/
theorem piecesFrom_braced {name : List Char} (h : IsName name) (started : Option (List Char))
    (before after : List Char) :
    piecesFrom started (before ++ braced name ++ after) =
      piecesFrom started before ++ .placeholder (String.ofList name) :: piecesFrom none after := by
  rw [append_braced_append, piecesFrom_append_brace,
    piecesFrom_name (by simpa using h.nonempty) h.chars, List.reverse_nil, List.nil_append]

/-- Every placeholder has a name. -/
theorem isName_of_mem_piecesFrom {started : Option (List Char)} {cs : List Char} {name : String}
    (begun : ∀ name, started = some name → ∀ c ∈ name, isNameChar c = true)
    (h : .placeholder name ∈ piecesFrom started cs) : IsName name.toList := by
  fun_induction piecesFrom started cs with
  | case1 => cases h
  | case2 name => simp at h
  | case3 rest ih => exact ih (by simp) h
  | case4 c rest _ ih => exact ih (by simp) (by simpa using h)
  | case5 c rest name hc ih =>
    exact ih (by simpa [hc] using begun) h
  | case6 c rest name _ hc ih =>
    rcases List.mem_cons.1 h with eq | h
    · cases eq
      rw [Bool.and_eq_true, decide_eq_true_eq] at hc
      refine ⟨by simpa using hc.2, fun d hd => begun _ rfl d (by simpa using hd)⟩
    · exact ih (by simp) h
  | case7 c rest name _ _ ih₁ ih₂ =>
    rw [List.mem_append] at h
    rcases h with h | h
    · simp at h
    · split at h
      · exact ih₁ (by simp) h
      · exact ih₂ (by simp) (by simpa using h)

theorem mem_names_iff {name : String} {ps : List Piece} :
    name ∈ names ps ↔ .placeholder name ∈ ps := by
  rw [names, List.mem_filterMap]
  constructor
  · rintro ⟨_ | other, hp, h⟩
    · cases h
    · cases h
      exact hp
  · exact fun h => ⟨_, h, rfl⟩

@[simp] theorem names_append (ps qs : List Piece) : names (ps ++ qs) = names ps ++ names qs :=
  List.filterMap_append

@[simp] theorem names_map_literal (cs : List Char) : names (cs.map .literal) = [] := by
  simp [names, List.filterMap_map]

@[simp] theorem flatMap_fillPiece_map_literal (vars : Dict Json) (cs : List Char) :
    (cs.map Piece.literal).flatMap (fillPiece vars) = cs := by
  simp [List.flatMap_map, fillPiece]

/-- Pieces without names are literal. -/
theorem eq_map_literal {ps : List Piece} (h : names ps = []) :
    ps = (ps.flatMap Piece.source).map .literal := by
  induction ps with
  | nil => rfl
  | cons piece ps ih =>
    cases piece with
    | literal c => simpa [Piece.source] using ih h
    | placeholder name => cases h

/-! ## One pass -/

/-- A placeholder stands in a text, between what is before it and what is after it. -/
structure Occurs (cs before name after : List Char) : Prop where
  isName : IsName name
  whole : cs = before ++ braced name ++ after

/-- A placeholder that begins before all others of the text. -/
structure OccursFirst (cs before name after : List Char) : Prop extends
    Occurs cs before name after where
  first : ∀ before' name' after', Occurs cs before' name' after' → before.length ≤ before'.length

/-- No placeholder stands in a text. -/
def Plain (cs : List Char) : Prop := ∀ before name after, ¬ Occurs cs before name after

/-- One pass over a text, from the left: what stands before a placeholder is copied, the text of
its name is put in its place, and the pass goes on behind it. The names are those whose texts were
asked for. -/
inductive Replaced (value : String → List Char) : List Char → List String → List Char → Prop
  | plain {cs : List Char} (h : Plain cs) : Replaced value cs [] cs
  | next {cs before name after out : List Char} {asked : List String}
      (h : OccursFirst cs before name after) (rest : Replaced value after asked out) :
      Replaced value cs (String.ofList name :: asked)
        (before ++ value (String.ofList name) ++ out)

/-- A name ends where the first character stands that a name cannot have. -/
theorem IsName.takeWhile_eq {name : List Char} (h : IsName name) (after : List Char) :
    (name ++ '}' :: after).takeWhile isNameChar = name := by
  rw [List.takeWhile_append_of_pos h.chars, List.takeWhile_cons_of_neg (by decide),
    List.append_nil]

/-- Where it begins determines a placeholder. -/
theorem Occurs.eq {cs before name name' after after' : List Char}
    (h : Occurs cs before name after) (h' : Occurs cs before name' after') :
    name = name' ∧ after = after' := by
  have same := h.whole.symm.trans h'.whole
  simp only [append_braced_append, List.append_cancel_left_eq, List.cons.injEq, true_and] at same
  obtain rfl : name = name' := by
    rw [← h.isName.takeWhile_eq after, same, h'.isName.takeWhile_eq]
  simpa using same

theorem OccursFirst.eq {cs before before' name name' after after' : List Char}
    (h : OccursFirst cs before name after) (h' : OccursFirst cs before' name' after') :
    before = before' ∧ name = name' ∧ after = after' := by
  have length : before.length = before'.length :=
    le_antisymm (h.first _ _ _ h'.toOccurs) (h'.first _ _ _ h.toOccurs)
  have same := h.whole.symm.trans h'.whole
  rw [List.append_assoc, List.append_assoc] at same
  obtain rfl := (List.append_inj same length).1
  exact ⟨rfl, h.toOccurs.eq h'.toOccurs⟩

/-- A pass has one result. -/
theorem Replaced.unique {value : String → List Char} {cs out out' : List Char}
    {asked asked' : List String} (h : Replaced value cs asked out)
    (h' : Replaced value cs asked' out') : asked = asked' ∧ out = out' := by
  induction h generalizing asked' out' with
  | plain plain =>
    cases h' with
    | plain => exact ⟨rfl, rfl⟩
    | next first => exact absurd first.toOccurs (plain _ _ _)
  | next first rest ih =>
    cases h' with
    | plain plain => exact absurd first.toOccurs (plain _ _ _)
    | next first' rest' =>
      obtain ⟨rfl, rfl, rfl⟩ := first.eq first'
      obtain ⟨rfl, rfl⟩ := ih rest'
      exact ⟨rfl, rfl⟩

theorem exists_occursFirst {cs before name after : List Char} (h : Occurs cs before name after) :
    ∃ before name after, OccursFirst cs before name after := by
  classical
  have somewhere : ∃ n, ∃ before name after, before.length = n ∧ Occurs cs before name after :=
    ⟨_, before, name, after, rfl, h⟩
  obtain ⟨before, name, after, length, h⟩ := Nat.find_spec somewhere
  refine ⟨before, name, after, h, fun before' name' after' h' => ?_⟩
  rw [length]
  exact Nat.find_min' somewhere ⟨before', name', after', rfl, h'⟩

/-- What is read as a placeholder stands in the text. -/
theorem exists_occurs {cs : List Char} {name : String}
    (h : name ∈ names (piecesFrom none cs)) :
    ∃ before after, Occurs cs before name.toList after := by
  rw [mem_names_iff] at h
  have isName := isName_of_mem_piecesFrom (by simp) h
  obtain ⟨ps, qs, split⟩ := List.append_of_mem h
  refine ⟨ps.flatMap Piece.source, qs.flatMap Piece.source, isName, ?_⟩
  have whole := flatMap_source_piecesFrom none cs
  rw [split] at whole
  simpa [Piece.source, braced] using whole.symm

theorem Plain.piecesFrom_eq {cs : List Char} (h : Plain cs) :
    piecesFrom none cs = cs.map .literal := by
  have none : names (piecesFrom none cs) = [] := by
    refine List.eq_nil_iff_forall_not_mem.2 fun name hname => ?_
    obtain ⟨before, after, occurs⟩ := exists_occurs hname
    exact h _ _ _ occurs
  have literal := eq_map_literal none
  rwa [flatMap_source_piecesFrom] at literal

theorem OccursFirst.plain {cs before name after : List Char}
    (h : OccursFirst cs before name after) : Plain before := by
  intro before' name' after' inside
  have earlier : Occurs cs before' name' (after' ++ braced name ++ after) :=
    ⟨inside.isName, by rw [h.whole, inside.whole]; simp⟩
  -- It would begin before the first one.
  have late := h.first _ _ _ earlier
  have shorter := congrArg List.length inside.whole
  simp [braced] at shorter
  omega

/-- What a variable comes out as: the text of its value as a part of a path, and nothing without
a value. -/
def valueText (vars : Dict Json) (name : String) : List Char :=
  (vars.get? name).elim [] fun v => pathSegment v.display.toList

theorem fillPiece_placeholder (vars : Dict Json) (name : String) :
    fillPiece vars (.placeholder name) = valueText vars name := by
  rw [fillPiece, valueText]
  cases vars.get? name <;> rfl

/-- **The pieces of a text are what one pass finds**, and what they come out as is its result. -/
theorem replaced_pieces (vars : Dict Json) (cs : List Char) :
    Replaced (valueText vars) cs (names (piecesFrom none cs))
      ((piecesFrom none cs).flatMap (fillPiece vars)) := by
  by_cases plain : Plain cs
  · rw [plain.piecesFrom_eq, names_map_literal, flatMap_fillPiece_map_literal]
    exact .plain plain
  · simp only [Plain, not_forall, not_not] at plain
    obtain ⟨_, _, _, somewhere⟩ := plain
    -- What is behind the leftmost placeholder is shorter, and the pass goes on there.
    obtain ⟨before, name, after, first⟩ := exists_occursFirst somewhere
    have shorter : after.length < cs.length := by
      rw [first.whole]
      simp [braced]
      omega
    have here := Replaced.next first (replaced_pieces vars after)
    have pieces := piecesFrom_braced first.isName none before after
    rw [← first.whole, first.plain.piecesFrom_eq] at pieces
    rw [pieces, names_append, names_map_literal, List.flatMap_append,
      flatMap_fillPiece_map_literal, List.flatMap_cons, fillPiece_placeholder,
      ← List.append_assoc]
    exact here
termination_by cs.length

theorem replaced_fill (vars : Dict Json) (s : String) :
    Replaced (valueText vars) s.toList (names (pieces s)) (fill vars s) :=
  replaced_pieces vars s.toList

/-! ## Destinations -/

/-- What joins the two parts of a destination: a stroke, unless nothing is left of the folder. -/
def joint (p : StoragePattern) (vars : Dict Json) : List Char :=
  if trimStrokes (fill vars p.folder) = [] then [] else ['/']

theorem toList_render (p : StoragePattern) (vars : Dict Json) :
    (p.render vars).toList =
      trimStrokes (fill vars p.folder) ++ p.joint vars ++ fill vars p.filename := by
  rw [render, joint, String.toList_ofList]
  simp only [List.isEmpty_iff]
  split
  · next none => rw [none, List.nil_append, List.nil_append]
  · rw [List.append_assoc, List.singleton_append]

/-- What a pattern comes to, and the variables that are asked for on the way: one pass over the
folder and one over the file name. The folder loses the strokes at its end; a stroke joins the
two, unless nothing is left of the folder. -/
inductive Renders (p : StoragePattern) (vars : Dict Json) : List String → List Char → Prop
  | joined {asked asked' : List String} {folder filename : List Char} {n : Nat}
      (left : Replaced (valueText vars) p.folder.toList asked (folder ++ List.replicate n '/'))
      (bare : folder.getLast? ≠ some '/')
      (right : Replaced (valueText vars) p.filename.toList asked' filename) :
      Renders p vars (asked ++ asked') (if folder = [] then filename else folder ++ '/' :: filename)

theorem renders_iff {p : StoragePattern} {vars : Dict Json} {asked : List String}
    {out : List Char} :
    p.Renders vars asked out ↔ asked = p.placeholderNames ∧ out = (p.render vars).toList := by
  constructor
  · rintro ⟨left, bare, right⟩
    obtain ⟨rfl, folder⟩ := left.unique (replaced_fill vars p.folder)
    obtain ⟨rfl, rfl⟩ := right.unique (replaced_fill vars p.filename)
    refine ⟨rfl, ?_⟩
    simp only [render, String.toList_ofList, ← folder, trimStrokes_eq bare, List.isEmpty_iff]
  · rintro ⟨listed, text⟩
    rw [listed, text]
    obtain ⟨n, whole⟩ := exists_trimStrokes_append (fill vars p.folder)
    have left := replaced_fill vars p.folder
    rw [← whole] at left
    have joined := Renders.joined left (getLast?_trimStrokes _) (replaced_fill vars p.filename)
    simpa only [render, String.toList_ofList, List.isEmpty_iff, placeholderNames] using joined

/-! ## The variables that count -/

theorem fillPiece_congr {vars vars' : Dict Json} {ps : List Piece}
    (h : ∀ name ∈ names ps, vars.get? name = vars'.get? name) :
    ps.flatMap (fillPiece vars) = ps.flatMap (fillPiece vars') := by
  refine List.flatMap_congr fun piece hp => ?_
  cases piece with
  | literal c => rfl
  | placeholder name => rw [fillPiece, fillPiece, h name (mem_names_iff.2 hp)]

theorem render_congr {p : StoragePattern} {vars vars' : Dict Json}
    (h : ∀ name ∈ p.placeholderNames, vars.get? name = vars'.get? name) :
    p.render vars = p.render vars' := by
  have folder : fill vars p.folder = fill vars' p.folder :=
    fillPiece_congr fun name hn => h name (List.mem_append_left _ hn)
  have filename : fill vars p.filename = fill vars' p.filename :=
    fillPiece_congr fun name hn => h name (List.mem_append_right _ hn)
  rw [render, render, folder, filename]

theorem count_trimStrokes {c : Char} (h : c ≠ '/') (cs : List Char) :
    (trimStrokes cs).count c = cs.count c := by
  obtain ⟨n, whole⟩ := exists_trimStrokes_append cs
  have strokes : (List.replicate n '/').count c = 0 :=
    List.count_eq_zero.2 fun hc => h (List.eq_of_mem_replicate hc)
  conv => rhs; rw [← whole, List.count_append, strokes, Nat.add_zero]

/-- But for strokes, a destination has the characters of both parts. -/
theorem count_render {c : Char} (h : c ≠ '/') (p : StoragePattern) (vars : Dict Json) :
    (p.render vars).toList.count c =
      (fill vars p.folder).count c + (fill vars p.filename).count c := by
  have joint : (p.joint vars).count c = 0 := by
    rw [StoragePattern.joint]
    split
    · rfl
    · exact List.count_eq_zero.2 fun hc => h (List.mem_singleton.1 hc)
  rw [toList_render, List.count_append, List.count_append, joint, count_trimStrokes h, Nat.add_zero]

/-- A value for one variable alone. -/
def letterFor (name : String) : Dict Json := Dict.empty.insert name (.string "a")

theorem valueText_letterFor (name : String) : valueText (letterFor name) name = ['a'] := by
  rw [valueText, letterFor, Dict.get?_insert_self, Option.elim_some, pathSegment_eq_squeezeDots]
  rfl

theorem valueText_letterFor_other {name other : String} (h : other ≠ name) :
    valueText (letterFor name) other = [] := by
  rw [valueText, letterFor, Dict.get?_insert_other _ _ h, Dict.get?_empty, Option.elim_none]

theorem count_fill_letterFor (name : String) (s : String) :
    (fill (letterFor name) s).count 'a' =
      (fill .empty s).count 'a' + (names (pieces s)).count name := by
  rw [fill, fill]
  induction pieces s with
  | nil => rfl
  | cons piece ps ih =>
    cases piece with
    | literal c =>
      simp only [List.flatMap_cons, List.count_append, ih, fillPiece, names,
        List.filterMap_cons]
      omega
    | placeholder other =>
      have none : fillPiece .empty (.placeholder other) = [] := rfl
      have cons : names (.placeholder other :: ps) = other :: names ps := rfl
      rw [List.flatMap_cons, List.flatMap_cons, List.count_append, List.count_append, ih, none,
        cons, fillPiece_placeholder]
      by_cases same : other = name
      · rw [same, valueText_letterFor, List.count_cons_self]
        simp
        omega
      · rw [valueText_letterFor_other same, List.count_cons_of_ne same]
        simp

/-- **A destination depends on the variables of its placeholders**, and on no others. -/
theorem mem_placeholderNames_iff {p : StoragePattern} {name : String} :
    name ∈ p.placeholderNames ↔ ∃ vars vars' : Dict Json,
      (∀ other, other ≠ name → vars.get? other = vars'.get? other) ∧
        p.render vars ≠ p.render vars' := by
  constructor
  · intro h
    -- A letter counts how often the name is asked for, so it tells the destinations apart.
    refine ⟨letterFor name, .empty, fun other ne => ?_, fun same => ?_⟩
    · rw [letterFor, Dict.get?_insert_other _ _ ne]
    · have counted := congrArg (fun s : String => s.toList.count 'a') same
      simp only [count_render (c := 'a') (by decide), count_fill_letterFor] at counted
      have listed := List.count_pos_iff.2 h
      rw [placeholderNames, List.count_append] at listed
      omega
  · rintro ⟨vars, vars', others, differ⟩
    by_contra absent
    refine differ (render_congr fun other listed => others other ?_)
    rintro rfl
    exact absent listed

/-! ## Placeholders in values -/

theorem IsName.mem_braced {name : List Char} (h : IsName name) {c : Char}
    (hc : c ∈ braced name) : c = '{' ∨ c = '}' ∨ isNameChar c = true := by
  simp only [braced, List.cons_append, List.mem_cons, List.mem_append, List.not_mem_nil,
    or_false] at hc
  rcases hc with hc | hc | hc
  · exact .inl hc
  · exact .inr (.inr (h.chars c hc))
  · exact .inr (.inl hc)

theorem IsName.map_replaceSeparator {name : List Char} (h : IsName name) :
    (braced name).map replaceSeparator = braced name := by
  refine (List.map_congr_left fun c hc => ?_).trans (List.map_id' _)
  have kind := h.mem_braced hc
  rw [replaceSeparator, if_neg]
  rw [Bool.or_eq_true, decide_eq_true_eq, decide_eq_true_eq]
  rintro (rfl | rfl) <;> exact absurd kind (by decide)

theorem IsName.ne_dot {name : List Char} (h : IsName name) : ∀ c ∈ braced name, c ≠ '.' := by
  rintro c hc rfl
  exact absurd (h.mem_braced hc) (by decide)

/-- A placeholder in a value is still there when the value is a part of a path. -/
theorem IsName.infix_pathSegment {name : List Char} (h : IsName name) {cs : List Char}
    (inside : braced name <:+: cs) : braced name <:+: pathSegment cs := by
  obtain ⟨before, after, rfl⟩ := inside
  have dotless := h.ne_dot
  obtain ⟨c, rest, whole⟩ : ∃ c rest, braced name = c :: rest := ⟨'{', _, rfl⟩
  rw [pathSegment_eq_squeezeDots, List.map_append, List.map_append, h.map_replaceSeparator]
  rw [whole, List.forall_mem_cons] at dotless
  rw [whole, List.append_assoc, List.cons_append, squeezeDots_append_cons dotless.1,
    squeezeDots_append dotless.2]
  exact (List.prefix_append (c :: rest) _).isInfix.trans (List.suffix_append _ _).isInfix

theorem trimStrokes_append_cons {c : Char} (h : c ≠ '/') (before after : List Char) :
    trimStrokes (before ++ c :: after) = before ++ c :: trimStrokes after := by
  obtain ⟨n, whole⟩ := exists_trimStrokes_append after
  have last : (before ++ c :: trimStrokes after).getLast? ≠ some '/' := by
    rw [List.getLast?_append_cons]
    cases after' : trimStrokes after with
    | nil => simpa using h
    | cons d rest =>
      rw [List.getLast?_cons_cons, ← after']
      exact getLast?_trimStrokes after
  conv => lhs; rw [← whole, ← List.cons_append, ← List.append_assoc]
  exact trimStrokes_eq last n

theorem infix_trimStrokes {cs whole : List Char} (last : cs.getLast? ≠ some '/')
    (h : cs <:+: whole) : cs <:+: trimStrokes whole := by
  obtain ⟨before, after, rfl⟩ := h
  rcases List.eq_nil_or_concat cs with rfl | ⟨cs, c, rfl⟩
  · exact List.nil_infix
  · rw [List.concat_eq_append] at last ⊢
    have cut := trimStrokes_append_cons (by simpa using last) (before ++ cs) after
    refine ⟨before, trimStrokes after, ?_⟩
    simpa using cut.symm

/-- What stands in a part stands in the destination, unless it ends with a stroke. -/
theorem infix_render {p : StoragePattern} {vars : Dict Json} {part : String}
    (hpart : part = p.folder ∨ part = p.filename) {cs : List Char}
    (last : cs.getLast? ≠ some '/') (h : cs <:+: fill vars part) :
    cs <:+: (p.render vars).toList := by
  rw [toList_render]
  rcases hpart with rfl | rfl
  · rw [List.append_assoc]
    exact (infix_trimStrokes last h).trans (List.prefix_append _ _).isInfix
  · exact h.trans (List.suffix_append _ _).isInfix

theorem infix_fill {vars : Dict Json} {s : String} {name : String} (h : name ∈ names (pieces s)) :
    valueText vars name <:+: fill vars s := by
  rw [← fillPiece_placeholder, fill, List.flatMap_def]
  exact List.infix_of_mem_flatten (List.mem_map_of_mem (mem_names_iff.1 h))

theorem getLast?_braced (cs : List Char) : (braced cs).getLast? ≠ some '/' := by
  rw [braced, List.getLast?_concat]
  decide

theorem braced_infix_render {p : StoragePattern} {vars : Dict Json} {name : String}
    {other : List Char} (listed : name ∈ p.placeholderNames) (h : IsName other) {v : Json}
    (value : vars.get? name = some v) (inside : braced other <:+: v.display.toList) :
    braced other <:+: (p.render vars).toList := by
  have text : braced other <:+: valueText vars name := by
    rw [valueText, value]
    exact h.infix_pathSegment inside
  have last := getLast?_braced other
  rcases List.mem_append.1 listed with listed | listed
  · exact infix_render (.inl rfl) last (text.trans (infix_fill listed))
  · exact infix_render (.inr rfl) last (text.trans (infix_fill listed))

/-- **A pattern is rendered in one pass.** -/
theorem render_single_pass (p : StoragePattern) :
    (∀ vars asked out, p.Renders vars asked out ↔
      asked = p.placeholderNames ∧ out = (p.render vars).toList) ∧
    (∀ vars vars', (∀ name ∈ p.placeholderNames, vars.get? name = vars'.get? name) →
      p.render vars = p.render vars') ∧
    (∀ name, name ∈ p.placeholderNames ↔ ∃ vars vars' : Dict Json,
      (∀ other, other ≠ name → vars.get? other = vars'.get? other) ∧
        p.render vars ≠ p.render vars') ∧
    ∀ vars name other v, name ∈ p.placeholderNames → vars.get? name = some v → IsName other →
      braced other <:+: v.display.toList → braced other <:+: (p.render vars).toList :=
  ⟨fun _ _ _ => renders_iff, fun _ _ => render_congr, fun _ => mem_placeholderNames_iff,
    fun _ _ _ _ listed value isName => braced_infix_render listed isName value⟩

/-- Two placeholders, one in each part. -/
def crossed : StoragePattern := ⟨placeholder "a", placeholder "b"⟩

/-- The value of the one looks like the other. -/
def lookalike : Dict Json := .ofList [("a", .string (placeholder "b")), ("b", .string "x")]

/-- The same values and one that no placeholder asks for. -/
def lookalikeAndMore : Dict Json := lookalike.insert "c" (.string "y")

/-- The value in the folder stays as it is: `x` stands in the file name alone. -/
theorem render_single_pass_crossed :
    crossed.Renders lookalike ["a", "b"] (braced ['b'] ++ ['/', 'x']) ∧
    crossed.render lookalikeAndMore = crossed.render lookalike ∧
    braced ['b'] <:+: (crossed.render lookalike).toList := by
  obtain ⟨renders, agree, -, kept⟩ := render_single_pass crossed
  have listed : crossed.placeholderNames = ["a", "b"] := by decide +kernel
  have isName : IsName ['b'] := ⟨List.cons_ne_nil _ _, List.all_eq_true.1 rfl⟩
  refine ⟨(renders _ _ _).2 ⟨listed.symm, by decide +kernel⟩, agree _ _ fun name h => ?_,
    kept _ "a" ['b'] (.string (placeholder "b")) (by rw [listed]; simp) rfl isName List.infix_rfl⟩
  refine Dict.get?_insert_other _ _ ?_
  rintro rfl
  rw [listed] at h
  simp at h

end StoragePattern

end ContractDocs
