/-
Braces: what becomes of a pair of braces in the pattern of a template.

A placeholder has letters, digits and underscores between its braces. Any other
pair is text, and it is copied into every destination (`fill_text`); the
check of a catalog sees it no more than the renderer does. But a variable may
have any name, so a pair that is text may well name one.
-/
import ContractDocs.Proofs.Consistency
import ContractDocs.Proofs.Placeholders
import ContractDocs.Proofs.Variables

namespace ContractDocs

namespace StoragePattern

/-! ## Braces that are text -/

/-- The text has something in it, but no braces. -/
structure Enclosed (cs : List Char) : Prop where
  nonempty : cs ≠ []
  noOpening : '{' ∉ cs
  noClosing : '}' ∉ cs

theorem piecesFrom_append_of_not_mem {cs : List Char} (h : '{' ∉ cs) (rest : List Char) :
    piecesFrom none (cs ++ rest) = cs.map .literal ++ piecesFrom none rest := by
  induction cs with
  | nil => rfl
  | cons c cs ih =>
    rw [List.mem_cons, not_or] at h
    rw [List.cons_append, piecesFrom, if_neg (Ne.symm h.1), ih h.2, List.map_cons, List.cons_append]

/-- A name that has begun is text as soon as a character stands in it that names do not have. -/
theorem piecesFrom_text {begun cs : List Char} (opening : '{' ∉ cs) (closing : '}' ∉ cs)
    (other : ∃ c ∈ cs, isNameChar c = false) (rest : List Char) :
    piecesFrom (some begun) (cs ++ rest) =
      ('{' :: begun.reverse ++ cs).map .literal ++ piecesFrom none rest := by
  induction cs generalizing begun with
  | nil =>
    obtain ⟨_, h, -⟩ := other
    cases h
  | cons c cs ih =>
    rw [List.mem_cons, not_or] at opening closing
    rw [List.cons_append, piecesFrom]
    by_cases hc : isNameChar c = true
    · have other : ∃ d ∈ cs, isNameChar d = false := by simpa [hc] using other
      rw [if_pos hc, ih opening.2 closing.2 other, List.reverse_cons, ← List.cons_append,
        List.append_assoc, List.singleton_append]
    · have notClosing : ¬ (c = '}' && !begun.isEmpty) = true := by simp [Ne.symm closing.1]
      rw [if_neg hc, if_neg notClosing, if_neg (Ne.symm opening.1),
        piecesFrom_append_of_not_mem opening.2]
      simp

/-- **Braces around anything else than a name are text.** -/
theorem piecesFrom_braced_text {cs : List Char} (enclosed : Enclosed cs) (h : ¬ IsName cs)
    (before after : List Char) :
    piecesFrom none (before ++ braced cs ++ after) =
      piecesFrom none before ++ (braced cs).map .literal ++ piecesFrom none after := by
  have other : ∃ c ∈ cs, isNameChar c = false := by
    by_contra none
    refine h ⟨enclosed.nonempty, fun c hc => ?_⟩
    simpa using fun hn => none ⟨c, hc, hn⟩
  have closing : piecesFrom none ('}' :: after) = .literal '}' :: piecesFrom none after := by
    rw [piecesFrom, if_neg (by decide)]
  rw [append_braced_append, piecesFrom_append_brace,
    piecesFrom_text enclosed.noOpening enclosed.noClosing other, closing]
  simp [braced]

theorem fill_ofList (vars : Dict Json) (cs : List Char) :
    fill vars (String.ofList cs) = (piecesFrom none cs).flatMap (fillPiece vars) := by
  rw [fill, pieces, String.toList_ofList]

section Parts

variable {part : String} {before cs after : List Char}
  (whole : part.toList = before ++ braced cs ++ after) (vars : Dict Json)

include whole

theorem fill_name (h : IsName cs) :
    fill vars part = fill vars (String.ofList before) ++ valueText vars (String.ofList cs) ++
      fill vars (String.ofList after) := by
  rw [fill, pieces, whole, piecesFrom_braced h, List.flatMap_append, List.flatMap_cons,
    fillPiece_placeholder, ← List.append_assoc, fill_ofList, fill_ofList]

theorem fill_text (enclosed : Enclosed cs) (h : ¬ IsName cs) :
    fill vars part = fill vars (String.ofList before) ++ braced cs ++
      fill vars (String.ofList after) := by
  rw [fill, pieces, whole, piecesFrom_braced_text enclosed h, List.flatMap_append,
    List.flatMap_append, flatMap_fillPiece_map_literal, fill_ofList, fill_ofList]

end Parts

theorem mem_placeholderNames_of_part {p : StoragePattern} {part : String}
    (hpart : part = p.folder ∨ part = p.filename) {before name after : List Char}
    (whole : part.toList = before ++ braced name ++ after) (h : IsName name) :
    String.ofList name ∈ p.placeholderNames := by
  have listed : String.ofList name ∈ names (pieces part) := by
    rw [mem_names_iff, pieces, whole, piecesFrom_braced h]
    simp
  rcases hpart with rfl | rfl
  · exact List.mem_append_left _ listed
  · exact List.mem_append_right _ listed

end StoragePattern

open StoragePattern

/-- **Braces in the pattern of a checked template** are a placeholder of a bound variable if there
is a name between them; whatever else is between them, they are in every destination. -/
theorem Catalog.braces_rendered {c : Catalog} {strict : Bool} {reg : Registry}
    (built : c.build strict = .ok reg) {t : Template} (listed : t ∈ c.templates)
    {p : StoragePattern} (stored : t.storage = some p) {part : String}
    (hpart : part = p.folder ∨ part = p.filename) {before name after : List Char}
    (whole : part.toList = before ++ braced name ++ after) (enclosed : Enclosed name) :
    (IsName name → t.bindings.contains (String.ofList name) = true ∧
      ∀ vars, fill vars part = fill vars (String.ofList before) ++
        valueText vars (String.ofList name) ++ fill vars (String.ofList after)) ∧
    (¬ IsName name →
      (∀ vars, fill vars part = fill vars (String.ofList before) ++ braced name ++
        fill vars (String.ofList after)) ∧
      ∀ formats typeId r q, reg.linkedTemplate typeId = .ok t →
        reg.payload formats typeId r = .ok q →
          ∃ hint, q.storageHint = some hint ∧ braced name <:+: hint.toList) := by
  refine ⟨fun isName => ⟨?_, fun vars => fill_name whole vars isName⟩, fun text =>
    ⟨fun vars => fill_text whole vars enclosed text, fun formats typeId r q linked made => ?_⟩⟩
  · have sound := (Catalog.build_eq_ok_iff.1 built).1.templates t listed
    exact sound.storage p stored _ (mem_placeholderNames_of_part hpart whole isName)
  · obtain ⟨t', values, linked', -, rfl⟩ := Registry.payload_eq_ok_iff.1 made
    obtain rfl := Except.ok.inj (linked.symm.trans linked')
    refine ⟨p.render values, by rw [stored]; rfl, ?_⟩
    refine infix_render hpart (getLast?_braced name) ?_
    rw [fill_text whole values enclosed text]
    exact ⟨_, _, rfl⟩

/-- A file name that asks for a job title as people write it. -/
def byTitle : StoragePattern := ⟨"letters", placeholder "job title"⟩

def titledLetter : Template :=
  { (Template.new "letter" "Letter" "letters" "ref-1").withBindings
      [("job title", .ofField "job_title", "Title of the job")] with
    optionalFields := ["job_title"]
    storage := some byTitle }

/-- Letters that are to be filed by the title of the job. -/
def titledLetters : Catalog where
  contractTypes := [{ ContractType.new "notice" "Notice" "letters" with
    templateId := some "letter" }]
  templates := [titledLetter]

/-- A notice to an engineer. -/
def engineer : Record := Dict.empty.insert "job_title" (.string "Engineer")

theorem braces_rendered_titledLetters :
    titledLetters.build true = .ok titledLetters.registry ∧
    (∀ vars, fill vars byTitle.filename =
      fill vars "" ++ braced "job title".toList ++ fill vars "") ∧
    ∃ q hint, titledLetters.registry.payload .standard "notice" engineer = .ok q ∧
      q.storageHint = some hint ∧ braced "job title".toList <:+: hint.toList := by
  have built : titledLetters.build true = .ok titledLetters.registry := by rfl
  have enclosed : Enclosed "job title".toList := ⟨by decide, by decide, by decide⟩
  have text : ¬ IsName "job title".toList := fun h => absurd (h.chars ' ' (by decide)) (by decide)
  have whole : byTitle.filename.toList = [] ++ braced "job title".toList ++ [] := rfl
  obtain ⟨-, copied⟩ := Catalog.braces_rendered built (t := titledLetter) (p := byTitle)
    (List.mem_singleton_self _) rfl (.inr rfl) whole enclosed
  obtain ⟨filled, hints⟩ := copied text
  obtain ⟨hint, stored, inside⟩ := hints .standard "notice" engineer _ rfl rfl
  exact ⟨built, filled, _, hint, rfl, stored, inside⟩

/-- The variable has a value, but the letters of all engineers and of all others are filed under
one name. -/
theorem storageHint_titledLetters :
    titledLetters.build true = .ok titledLetters.registry ∧
    titledLetter.bindings.contains "job title" = true ∧
    ∃ q, titledLetters.registry.payload .standard "notice" engineer = .ok q ∧
      q.value? "job title" = some (.string "Engineer") ∧
      q.storageHint = some ("letters/" ++ placeholder "job title") := by
  refine ⟨by rfl, by rfl, _, rfl, by rfl, ?_⟩
  decide +kernel

end ContractDocs
