/-
Separators: a value adds none to a destination.

A placeholder is written without separators and comes out without them, so the
separators of a part are those of what it comes out as, in their order
(`separators_fill`). Of them a destination loses strokes at the end of the
folder, and between the two parts it has one more.
-/
import ContractDocs.Proofs.Placeholders

namespace ContractDocs

namespace StoragePattern

/-- A character that ends a part of a path. -/
def isSeparator (c : Char) : Bool := c = '/' || c = '\\'

/-- The separators of a text, in their order. -/
def separators (cs : List Char) : List Char := cs.filter isSeparator

@[simp] theorem separators_append (cs rest : List Char) :
    separators (cs ++ rest) = separators cs ++ separators rest :=
  List.filter_append ..

theorem count_separators {c : Char} (h : isSeparator c = true) (cs : List Char) :
    (separators cs).count c = cs.count c :=
  List.count_filter h

/-! ## Pieces -/

theorem separators_map_replaceSeparator (cs : List Char) :
    separators (cs.map replaceSeparator) = [] := by
  refine List.filter_eq_nil_iff.2 fun c hc => ?_
  obtain ⟨d, -, rfl⟩ := List.mem_map.1 hc
  rw [replaceSeparator]
  split
  · exact Bool.false_ne_true
  · next h => exact h

theorem separators_pathSegment (cs : List Char) : separators (pathSegment cs) = [] := by
  have none := List.filter_eq_nil_iff.1 (separators_map_replaceSeparator cs)
  exact List.filter_eq_nil_iff.2 fun c hc => none c (mem_of_mem_collapseDots hc)

theorem separators_valueText (vars : Dict Json) (name : String) :
    separators (valueText vars name) = [] := by
  rw [valueText]
  cases vars.get? name with
  | none => rfl
  | some v => exact separators_pathSegment _

theorem IsName.separators_braced {name : List Char} (h : IsName name) :
    separators (braced name) = [] := by
  rw [← h.map_replaceSeparator, separators_map_replaceSeparator]

/-- A piece has the same separators before and after it is filled. -/
theorem separators_fillPiece {cs : List Char} {piece : Piece} (h : piece ∈ piecesFrom none cs)
    (vars : Dict Json) : separators (fillPiece vars piece) = separators piece.source := by
  cases piece with
  | literal c => rfl
  | placeholder name =>
    rw [fillPiece_placeholder, separators_valueText]
    exact (isName_of_mem_piecesFrom (by simp) h).separators_braced.symm

theorem separators_fill (vars : Dict Json) (s : String) :
    separators (fill vars s) = separators s.toList := by
  conv => rhs; rw [← flatMap_source_pieces s]
  rw [fill, separators, separators, List.filter_flatMap, List.filter_flatMap]
  exact List.flatMap_congr fun piece hp => separators_fillPiece hp vars

/-! ## Destinations -/

theorem separators_strokes (n : Nat) : separators (List.replicate n '/') = List.replicate n '/' :=
  List.filter_eq_self.2 fun c hc => by rw [List.eq_of_mem_replicate hc]; rfl

/-- Of the separators of the folder, the strokes at its end are lost. -/
theorem exists_separators_folder (p : StoragePattern) (vars : Dict Json) : ∃ n,
    fill vars p.folder = trimStrokes (fill vars p.folder) ++ List.replicate n '/' ∧
    separators p.folder.toList =
      separators (trimStrokes (fill vars p.folder)) ++ List.replicate n '/' := by
  obtain ⟨n, whole⟩ := exists_trimStrokes_append (fill vars p.folder)
  refine ⟨n, whole.symm, ?_⟩
  rw [← separators_fill vars p.folder, ← separators_strokes, ← separators_append, whole]

theorem separators_joint (p : StoragePattern) (vars : Dict Json) :
    separators (p.joint vars) = p.joint vars := by
  rw [joint]
  split <;> rfl

theorem joint_eq (p : StoragePattern) (vars : Dict Json) :
    p.joint vars = [] ∨ p.joint vars = ['/'] := by
  rw [joint]
  split
  · exact .inl rfl
  · exact .inr rfl

theorem separators_toList_render (p : StoragePattern) (vars : Dict Json) :
    separators (p.render vars).toList =
      separators (trimStrokes (fill vars p.folder)) ++ p.joint vars ++
        separators p.filename.toList := by
  rw [toList_render, separators_append, separators_append, separators_joint, separators_fill]

/-- Each separator is counted with the strokes that are lost and the one that joins the parts. -/
theorem exists_count_render (p : StoragePattern) (vars : Dict Json) {c : Char}
    (h : isSeparator c = true) : ∃ n,
    (p.render vars).toList.count c + (List.replicate n '/').count c =
      p.folder.toList.count c + (p.joint vars).count c + p.filename.toList.count c := by
  obtain ⟨n, -, folder⟩ := p.exists_separators_folder vars
  refine ⟨n, ?_⟩
  rw [← count_separators h, ← count_separators h p.folder.toList,
    ← count_separators h p.filename.toList, separators_toList_render, folder]
  simp only [List.count_append]
  omega

/-- **A value adds no separator to a destination.** Its separators are those of the folder but for
strokes at the end, the joint, and those of the file name. -/
theorem separators_render (p : StoragePattern) (vars : Dict Json) :
    separators (p.render vars).toList =
      separators (trimStrokes (fill vars p.folder)) ++ p.joint vars ++
        separators p.filename.toList ∧
    (∃ n, fill vars p.folder = trimStrokes (fill vars p.folder) ++ List.replicate n '/' ∧
      separators p.folder.toList =
        separators (trimStrokes (fill vars p.folder)) ++ List.replicate n '/') ∧
    (p.joint vars = [] ∨ p.joint vars = ['/']) ∧
    (∀ name, separators (valueText vars name) = []) ∧
    (p.render vars).toList.count '/' ≤
      p.folder.toList.count '/' + p.filename.toList.count '/' + 1 ∧
    (p.render vars).toList.count '\\' =
      p.folder.toList.count '\\' + p.filename.toList.count '\\' := by
  refine ⟨p.separators_toList_render vars, p.exists_separators_folder vars, p.joint_eq vars,
    separators_valueText vars, ?_, ?_⟩
  · obtain ⟨n, counted⟩ := p.exists_count_render vars (c := '/') rfl
    have joint : (p.joint vars).count '/' ≤ 1 := by
      rcases p.joint_eq vars with h | h <;> rw [h] <;> decide
    omega
  · obtain ⟨n, counted⟩ := p.exists_count_render vars (c := '\\') rfl
    have joint : (p.joint vars).count '\\' = 0 := by
      rcases p.joint_eq vars with h | h <;> rw [h] <;> decide
    have lost : (List.replicate n '/').count '\\' = 0 := List.count_replicate
    omega

end StoragePattern

end ContractDocs
