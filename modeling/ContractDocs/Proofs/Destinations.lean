/-
Destinations: when two records with different whole numbers in a field, such as
an employee number, cannot come to the same place.

A number is shown by its nearest binary number, so numbers that become the same
binary number are shown alike; up to `2 ^ 53` none do. A code has no sign. And
texts of several fields can be put together alike from different parts. Apart
from that the texts are different: what reads the field comes out as one form
with the one number or the other in it, so a pattern does, too.
-/
import ContractDocs.Proofs.Forms
import ContractDocs.Proofs.Placeholders
import ContractDocs.Proofs.Variables
import ContractDocs.Proofs.Views
import ContractDocs.Proofs.WholeNumbers

namespace ContractDocs

open Decimal (shown)

/-! ## Whole numbers as text -/

theorem Json.toList_display_int {n : Int} (h : n.natAbs < 2 ^ 64) :
    (Json.int n).display.toList = Slot.numeral.chars (shown n) :=
  String.toList_ofList.trans (Decimal.display_ofInt h)

theorem Slot.shown_kept (s : Slot) (n : Int) : shown (s.kept n) = s.kept (shown n) := by
  cases s with
  | numeral => rfl
  | digits => exact Decimal.shown_natAbs n

theorem Slot.natAbs_kept (s : Slot) (n : Int) : (s.kept n).natAbs = n.natAbs := by
  cases s with
  | numeral => rfl
  | digits => exact Int.natAbs_natCast _

/-- Numbers that are shown alike in a place become the same binary number. -/
theorem Slot.ofInt_eq_of_chars {m n : Int} (hm : m.natAbs < 2 ^ 64) (hn : n.natAbs < 2 ^ 64)
    {s : Slot} (h : s.chars (shown m) = s.chars (shown n)) :
    Float.ofInt (s.kept m) = Float.ofInt (s.kept n) := by
  refine Decimal.ofInt_eq_of_shown (by rwa [natAbs_kept]) (by rwa [natAbs_kept]) ?_
  rw [shown_kept, shown_kept, kept_eq_of_chars_eq h]

/-! ## Bindings -/

namespace Binding

/-- The binding shows the text of what it reads: as it is, trimmed, or as a code. -/
def showsText (b : Binding) : Bool :=
  match b.transform with
  | none | some .trim | some .uppercaseAlphanumeric => true
  | _ => false

/-- What stands for a number in the text of the binding. -/
def slot (b : Binding) : Slot :=
  if b.transform = some .uppercaseAlphanumeric then .digits else .numeral

/-- What the binding shows of the numbers becomes different binary numbers. -/
def TellsApart (b : Binding) (m n : Int) : Prop :=
  Float.ofInt (b.slot.kept m) ≠ Float.ofInt (b.slot.kept n)

end Binding

/-- The records have these numbers in the field and are alike in the other ones. -/
structure Record.DifferIn (fields : List String) (field : String) (m n : Int) (r r' : Record) :
    Prop where
  left : r.get? field = some (.int m)
  right : r'.get? field = some (.int n)
  others : ∀ other ∈ fields, other ≠ field → r.AlikeAt r' other

variable {field : String} {m n : Int} {r r' : Record}

theorem Record.DifferIn.mono {fields fields' : List String} (h : r.DifferIn fields' field m n r')
    (sub : ∀ other ∈ fields, other ∈ fields') : r.DifferIn fields field m n r' :=
  ⟨h.left, h.right, fun other hother => h.others other (sub other hother)⟩

theorem Record.present?_int {k : Int} (h : r.get? field = some (.int k)) :
    r.present? field = some (.int k) := by
  rw [present?, h]
  rfl

/-- The values are shown as one form with the one number or the other. -/
structure ShownAs (f : Form) (m n : Int) (v v' : Json) : Prop where
  left : v.display.toList = f.text (shown m)
  right : v'.display.toList = f.text (shown n)

section Reading

variable (hm : m.natAbs < 2 ^ 64) (hn : n.natAbs < 2 ^ 64)

include hm hn

theorem ShownAs.int : ShownAs [.inr .numeral] m n (.int m) (.int n) := by
  constructor
  · rw [Json.toList_display_int hm, Form.text_slot, Form.text_nil, List.append_nil]
  · rw [Json.toList_display_int hn, Form.text_slot, Form.text_nil, List.append_nil]

/-- The fields that are present are shown as forms, the number among them. -/
theorem exists_forms {fields : List String} (h : r.DifferIn fields field m n r') :
    ∃ fs : List Form,
      (fields.filterMap r.present?).map (·.display.toList) = fs.map (Form.text (shown m)) ∧
      (fields.filterMap r'.present?).map (·.display.toList) = fs.map (Form.text (shown n)) ∧
      (field ∈ fields → ∃ f ∈ fs, .inr .numeral ∈ f) := by
  induction fields with
  | nil => exact ⟨[], rfl, rfl, by simp⟩
  | cons other fields ih =>
    obtain ⟨fs, left, right, slot⟩ := ih (h.mono fun _ => List.mem_cons_of_mem _)
    by_cases same : other = field
    · subst same
      have number := ShownAs.int hm hn
      refine ⟨[.inr .numeral] :: fs, ?_, ?_, fun _ => ⟨_, List.mem_cons_self, by simp⟩⟩
      · rw [List.filterMap_cons_some (Record.present?_int h.left), List.map_cons, left,
          number.left, List.map_cons]
      · rw [List.filterMap_cons_some (Record.present?_int h.right), List.map_cons, right,
          number.right, List.map_cons]
    · have alike := Record.alikeAt_iff.1 (h.others other List.mem_cons_self same)
      have slot' : field ∈ other :: fields → ∃ f ∈ fs, .inr .numeral ∈ f := fun hf =>
        slot ((List.mem_cons.1 hf).resolve_left (Ne.symm same))
      cases value : r.present? other with
      | none =>
        refine ⟨fs, ?_, ?_, slot'⟩
        · rwa [List.filterMap_cons_none value]
        · rwa [List.filterMap_cons_none (alike ▸ value)]
      | some v =>
        refine ⟨Form.literal v.display.toList :: fs, ?_, ?_, fun hf => ?_⟩
        · rw [List.filterMap_cons_some value, List.map_cons, left, List.map_cons,
            Form.text_literal]
        · rw [List.filterMap_cons_some (alike ▸ value), List.map_cons, right, List.map_cons,
            Form.text_literal]
        · obtain ⟨f, hf, hs⟩ := slot' hf
          exact ⟨f, List.mem_cons_of_mem _ hf, hs⟩

/-- What is read where the field is read is shown as a form with the number. -/
theorem Source.exists_form {source : Source} (h : r.DifferIn source.fields field m n r')
    (reads : field ∈ source.fields) :
    ∃ v v' f, source.read? r = some v ∧ source.read? r' = some v' ∧ ShownAs f m n v v' ∧
      .inr .numeral ∈ f := by
  cases source with
  | field name =>
    obtain rfl := List.mem_singleton.1 reads
    exact ⟨_, _, _, Record.present?_int h.left, Record.present?_int h.right, .int hm hn, by simp⟩
  | concat fields separator =>
    obtain ⟨fs, left, right, slot⟩ := exists_forms hm hn h
    obtain ⟨f, hf, hs⟩ := slot reads
    have joined : ∀ (r : Record) (k : Int),
        (fields.filterMap r.present?).map (·.display.toList) = fs.map (Form.text k) →
        ∃ v, (Source.concat fields separator).read? r = some v ∧ v.display.toList =
          Form.text k ((Form.literal separator.toList).intercalate fs) := by
      intro r k texts
      rw [Source.read?]
      cases present : fields.filterMap r.present? with
      | nil =>
        rw [present, List.map_nil] at texts
        rw [List.map_eq_nil_iff.1 texts.symm] at hf
        cases hf
      | cons v vs =>
        refine ⟨_, rfl, ?_⟩
        rw [present] at texts
        rw [Json.display, String.toList_intercalate, List.map_map, Form.text_intercalate, ← texts]
        rfl
    obtain ⟨v, read, text⟩ := joined r _ left
    obtain ⟨v', read', text'⟩ := joined r' _ right
    exact ⟨v, v', _, read, read', ⟨text, text'⟩, Form.mem_intercalate _ hf hs⟩

/-- A binding that shows text shows the field as a form with what it keeps of the number. -/
theorem Binding.exists_form {b : Binding} (text : b.showsText = true) (formats : DateFormats)
    (h : r.DifferIn b.fields field m n r') (reads : field ∈ b.fields) :
    ∃ v v' f, b.evaluate formats r = .ok (some v) ∧ b.evaluate formats r' = .ok (some v') ∧
      ShownAs f m n v v' ∧ .inr b.slot ∈ f := by
  obtain ⟨v, v', f, read, read', shown, hf⟩ := Source.exists_form hm hn h reads
  obtain ⟨source, transform⟩ := b
  simp only [evaluate, read, read']
  cases transform with
  | none => exact ⟨v, v', f, rfl, rfl, shown, hf⟩
  | some t =>
    cases t with
    | trim =>
      refine ⟨_, _, f.trim, rfl, rfl, ⟨?_, ?_⟩, Form.slot_mem_trim hf⟩
      · rw [Json.display, Text.toList_trim, shown.left, Form.text_trim]
      · rw [Json.display, Text.toList_trim, shown.right, Form.text_trim]
    | uppercaseAlphanumeric =>
      refine ⟨_, _, f.code, rfl, rfl, ⟨?_, ?_⟩, Form.slot_mem_code hf⟩
      · rw [Json.display, Transform.code, String.toList_ofList, Text.toList_upper, shown.left,
          Form.text_code]
      · rw [Json.display, Transform.code, String.toList_ofList, Text.toList_upper, shown.right,
          Form.text_code]
    | dateFormat pattern => cases text
    | scale factor decimals => cases text

end Reading

/-! ## Variables -/

namespace Template

/-- A variable that does not read the field has the same value on both records. -/
theorem get?_congr {t : Template} {formats : DateFormats} {values values' : Variables}
    (h : t.bind formats r = .ok values) (h' : t.bind formats r' = .ok values') {name : String}
    (same : ∀ b, t.bindings.get? name = some b → ∀ other ∈ b.fields,
      r.present? other = r'.present? other) :
    values.get? name = values'.get? name := by
  refine Option.ext fun v => ?_
  rw [bind_get?_eq_some_iff h, bind_get?_eq_some_iff h']
  refine exists_congr fun b => and_congr_right fun hb => ?_
  rw [variableValue, variableValue, lackedField?_congr (same b hb),
    Binding.evaluate_congr (same b hb)]

/-- What a binding gives is the value of its variable. -/
theorem get?_of_evaluate {t : Template} {formats : DateFormats} {values : Variables}
    (h : t.bind formats r = .ok values) {name : String} {b : Binding}
    (hb : t.bindings.get? name = some b) {v : Json} (hv : b.evaluate formats r = .ok (some v)) :
    values.get? name = some v := by
  obtain ⟨w, hw⟩ := exists_variableValue_of_bind h hb
  obtain ⟨lacks, evaluated⟩ := variableValue_eq_ok_iff.1 hw
  exact (bind_get?_eq_some_iff h).2 ⟨b, hb, variableValue_eq_ok_iff.2 ⟨lacks, hv⟩⟩

/-! ## Storage -/

/-- Where the pattern has the field, it has it as text. -/
def PlacesText (t : Template) (p : StoragePattern) (field : String) : Prop :=
  ∀ name ∈ p.placeholderNames, ∀ b, t.bindings.get? name = some b → field ∈ b.fields →
    b.showsText = true

/-- The pattern has a placeholder that shows the field and tells the numbers apart. -/
def PlacesApart (t : Template) (p : StoragePattern) (field : String) (m n : Int) : Prop :=
  ∃ name ∈ p.placeholderNames, ∃ b, t.bindings.get? name = some b ∧ field ∈ b.fields ∧
    b.TellsApart m n

end Template

namespace StoragePattern

section Filling

variable {t : Template} {formats : DateFormats} {values values' : Variables}
  (hm : m.natAbs < 2 ^ 64) (hn : n.natAbs < 2 ^ 64) (h : t.bind formats r = .ok values)
  (h' : t.bind formats r' = .ok values') (differ : r.DifferIn t.boundFields field m n r')

include hm hn h h' differ

theorem exists_form_fillPiece (piece : Piece)
    (text : ∀ name, piece = .placeholder name → ∀ b, t.bindings.get? name = some b →
      field ∈ b.fields → b.showsText = true) :
    ∃ f : Form, fillPiece values piece = f.text (shown m) ∧
      fillPiece values' piece = f.text (shown n) ∧
      ∀ name, piece = .placeholder name → ∀ b, t.bindings.get? name = some b →
        field ∈ b.fields → .inr b.slot ∈ f := by
  cases piece with
  | literal c => exact ⟨[.inl c], rfl, rfl, by simp⟩
  | placeholder name =>
    have bound : ∀ b, t.bindings.get? name = some b → ∀ other ∈ b.fields,
        other ∈ t.boundFields := fun b hb other hother =>
      t.mem_boundFields (e := (name, b)) (Dict.get?_eq_some_iff.1 hb) hother
    by_cases reads : ∃ b, t.bindings.get? name = some b ∧ field ∈ b.fields
    · obtain ⟨b, hb, hfield⟩ := reads
      obtain ⟨v, v', f, hv, hv', shown, hf⟩ := Binding.exists_form hm hn (text name rfl b hb hfield)
        formats (differ.mono (bound b hb)) hfield
      refine ⟨f.segment, ?_, ?_, ?_⟩
      · rw [fillPiece, Template.get?_of_evaluate h hb hv, Form.text_segment, ← shown.left]
      · rw [fillPiece, Template.get?_of_evaluate h' hb hv', Form.text_segment, ← shown.right]
      · rintro _ ⟨⟩ b' hb' -
        obtain rfl := Option.some.inj (hb.symm.trans hb')
        exact Form.slot_mem_segment hf
    · have same : values.get? name = values'.get? name := by
        refine Template.get?_congr h h' fun b hb other hother => ?_
        have ne : other ≠ field := fun eq => reads ⟨b, hb, eq ▸ hother⟩
        exact Record.alikeAt_iff.1 (differ.others other (bound b hb other hother) ne)
      refine ⟨Form.literal (fillPiece values (.placeholder name)), (Form.text_literal _).symm, ?_, ?_⟩
      · rw [Form.text_literal, fillPiece, fillPiece, same]
      · rintro _ ⟨⟩ b hb hfield
        exact absurd ⟨b, hb, hfield⟩ reads

theorem exists_form_flatMap (ps : List Piece)
    (text : ∀ name ∈ names ps, ∀ b, t.bindings.get? name = some b → field ∈ b.fields →
      b.showsText = true) :
    ∃ f : Form, ps.flatMap (fillPiece values) = f.text (shown m) ∧
      ps.flatMap (fillPiece values') = f.text (shown n) ∧
      ∀ name ∈ names ps, ∀ b, t.bindings.get? name = some b → field ∈ b.fields →
        .inr b.slot ∈ f := by
  simp only [mem_names_iff] at text ⊢
  induction ps with
  | nil => exact ⟨[], rfl, rfl, by simp⟩
  | cons piece ps ih =>
    obtain ⟨f, left, right, slots⟩ := ih fun name hname => text name (List.mem_cons_of_mem _ hname)
    obtain ⟨g, left', right', slots'⟩ := exists_form_fillPiece hm hn h h' differ piece
      fun name hname => text name (hname ▸ List.mem_cons_self)
    refine ⟨g ++ f, ?_, ?_, fun name hname b hb hfield => ?_⟩
    · rw [List.flatMap_cons, Form.text_append, left, left']
    · rw [List.flatMap_cons, Form.text_append, right, right']
    · rcases List.mem_cons.1 hname with here | there
      · exact List.mem_append_left _ (slots' name here.symm b hb hfield)
      · exact List.mem_append_right _ (slots name there b hb hfield)

/-- A destination is a form with what its placeholders keep of the number. -/
theorem exists_form_render {p : StoragePattern} (text : t.PlacesText p field) :
    ∃ f : Form, (p.render values).toList = f.text (shown m) ∧
      (p.render values').toList = f.text (shown n) ∧
      ∀ name ∈ p.placeholderNames, ∀ b, t.bindings.get? name = some b → field ∈ b.fields →
        .inr b.slot ∈ f := by
  obtain ⟨folder, left, right, slots⟩ := exists_form_flatMap hm hn h h' differ (pieces p.folder)
    fun name hname => text name (List.mem_append_left _ hname)
  obtain ⟨file, left', right', slots'⟩ := exists_form_flatMap hm hn h h' differ (pieces p.filename)
    fun name hname => text name (List.mem_append_right _ hname)
  have rendered : ∀ (values : Variables) (k : Int),
      (pieces p.folder).flatMap (fillPiece values) = folder.text k →
      (pieces p.filename).flatMap (fillPiece values) = file.text k →
      (p.render values).toList = Form.text k
        (if folder.trimStrokes = [] then file else folder.trimStrokes ++ .inl '/' :: file) := by
    intro values k hfolder hfile
    have empty : (trimStrokes (folder.text k)).isEmpty = true ↔ folder.trimStrokes = [] := by
      rw [List.isEmpty_iff, ← Form.text_trimStrokes, Form.text_eq_nil_iff]
    rw [render, fill, fill, hfolder, hfile, String.toList_ofList]
    simp only [empty]
    split
    · rfl
    · rw [Form.text_append, Form.text_trimStrokes, Form.text_char]
  refine ⟨_, rendered values _ left left', rendered values' _ right right', ?_⟩
  intro name hname b hb hfield
  rcases List.mem_append.1 hname with hname | hname
  · have kept := Form.slot_mem_trimStrokes (slots name hname b hb hfield)
    rw [if_neg (List.ne_nil_of_mem kept)]
    exact List.mem_append_left _ kept
  · have kept := slots' name hname b hb hfield
    split
    · exact kept
    · exact List.mem_append_right _ (List.mem_cons_of_mem _ kept)

end Filling

end StoragePattern

/-! ## Records kept apart -/

theorem natAbs_lt_of_fits {k : Int} (h : Number.fits k = true) : k.natAbs < 2 ^ 64 := by
  rw [Number.fits, Bool.and_eq_true, decide_eq_true_eq, decide_eq_true_eq] at h
  omega

/-- Up to `2 ^ 53` different numbers become different binary numbers. -/
theorem ofInt_injOn {a b : Int} (ha : a.natAbs ≤ 2 ^ 53) (hb : b.natAbs ≤ 2 ^ 53)
    (h : Float.ofInt a = Float.ofInt b) : a = b := by
  have texts : Json.intChars a = Json.intChars b := by
    rw [← Decimal.shown_eq_self ha, ← Decimal.shown_eq_self hb, ← Decimal.display_ofInt (by omega),
      ← Decimal.display_ofInt (by omega), h]
  exact Json.intChars_injective texts

/-- Texts of one form are different if what the place keeps of the numbers is. -/
theorem ShownAs.display_ne (hm : m.natAbs < 2 ^ 64) (hn : n.natAbs < 2 ^ 64) {f : Form}
    {v v' : Json} (h : ShownAs f m n v v') {s : Slot} (hs : .inr s ∈ f)
    (apart : Float.ofInt (s.kept m) ≠ Float.ofInt (s.kept n)) : v.display ≠ v'.display := by
  intro same
  refine apart (Slot.ofInt_eq_of_chars hm hn (Form.chars_eq_of_text_eq ?_ hs))
  rw [← h.left, ← h.right, same]

/-- **Whole numbers as text.** A whole number up to `2 ^ 53` is shown as its
numeral, and what a binding keeps of two of them, if it is different, becomes
different binary numbers. Let two records differ in a whole number alone that a
binding shows as text: if what it keeps of the numbers becomes different binary
numbers, the texts are different. So are the destinations of the records, if
the pattern shows the field in such a way and in no other way than as text. -/
theorem wholeNumbers_kept_apart {m n : Int} (hm : Number.fits m = true)
    (hn : Number.fits n = true) :
    (m.natAbs ≤ 2 ^ 53 → (Json.int m).display = toString m) ∧
    (m.natAbs ≤ 2 ^ 53 → n.natAbs ≤ 2 ^ 53 →
      ∀ b : Binding, b.slot.kept m ≠ b.slot.kept n → b.TellsApart m n) ∧
    (∀ (formats : DateFormats) (field : String) (b : Binding) (r r' : Record),
      r.DifferIn b.fields field m n r' → field ∈ b.fields → b.showsText = true →
      b.TellsApart m n →
        ∃ v v', b.evaluate formats r = .ok (some v) ∧ b.evaluate formats r' = .ok (some v') ∧
          v.display ≠ v'.display) ∧
    ∀ (reg : Registry) (formats : DateFormats) (typeId field : String) (t : Template)
      (p : StoragePattern) (r r' : Record) (q q' : Payload),
      reg.linkedTemplate typeId = .ok t → t.storage = some p →
      r.DifferIn t.boundFields field m n r' → t.PlacesText p field → t.PlacesApart p field m n →
      reg.payload formats typeId r = .ok q → reg.payload formats typeId r' = .ok q' →
        q.storageHint ≠ q'.storageHint := by
  have hm' := natAbs_lt_of_fits hm
  have hn' := natAbs_lt_of_fits hn
  refine ⟨fun small => ?_, fun small small' b kept same => kept ?_, ?_, ?_⟩
  · rw [← String.toList_inj, Decimal.toList_toString, Json.toList_display_int hm',
      Decimal.shown_eq_self small, Slot.chars]
  · exact ofInt_injOn (by rwa [Slot.natAbs_kept]) (by rwa [Slot.natAbs_kept]) same
  · intro formats field b r r' differ reads text apart
    obtain ⟨v, v', f, hv, hv', shown, hf⟩ := Binding.exists_form hm' hn' text formats differ reads
    exact ⟨v, v', hv, hv', shown.display_ne hm' hn' hf apart⟩
  · intro reg formats typeId field t p r r' q q' linked stored differ text places hq hq' same
    obtain ⟨name, hname, b, hb, reads, apart⟩ := places
    obtain ⟨_, values, linked₁, bound, rfl⟩ := Registry.payload_eq_ok_iff.1 hq
    obtain ⟨_, values', linked₂, bound', rfl⟩ := Registry.payload_eq_ok_iff.1 hq'
    obtain rfl := Except.ok.inj (linked.symm.trans linked₁)
    obtain rfl := Except.ok.inj (linked.symm.trans linked₂)
    obtain ⟨f, left, right, slots⟩ :=
      StoragePattern.exists_form_render hm' hn' bound bound' differ text
    have whole : p.render values = p.render values' := by simpa [stored] using same
    refine apart (Slot.ofInt_eq_of_chars hm' hn' (Form.chars_eq_of_text_eq ?_
      (slots name hname b hb reads)))
    rw [← left, ← right, whole]

/-- A folder for each code of a badge, and in it a letter for each number. -/
def byBadge : StoragePattern :=
  ⟨"letters/" ++ StoragePattern.placeholder "folder", StoragePattern.placeholder "badge"⟩

/-- Letters that are filed by the number of a badge. -/
def filedLetters : Catalog where
  contractTypes := [{ ContractType.new "notice" "Notice" "letters" with
    templateId := some "letter" }]
  templates := [{ (Template.new "letter" "Letter" "letters" "ref-1").withBindings
    [("badge", .ofField "badge", "Number of the badge"),
      ("folder", ⟨.field "badge", some .uppercaseAlphanumeric⟩, "Code of the badge")] with
    optionalFields := ["badge"]
    storage := some byBadge }]

/-- A notice to the holder of a badge. -/
def noticeFor (badge : Int) : Record := Dict.empty.insert "badge" (.int badge)

theorem differIn_noticeFor (fields : List String) (m n : Int) :
    (noticeFor m).DifferIn fields "badge" m n (noticeFor n) := by
  refine ⟨Dict.get?_insert_self _ _ _, Dict.get?_insert_self _ _ _, fun other _ ne => ?_⟩
  rw [Record.alikeAt_iff, noticeFor, noticeFor, Record.present?_insert_other _ _ ne,
    Record.present?_insert_other _ _ ne]

/-- The neighbours `2 ^ 53` and `2 ^ 53 + 2` are told apart, and the destinations with them. -/
theorem wholeNumbers_kept_apart_notice :
    Number.fits 9007199254740992 = true ∧ Number.fits 9007199254740994 = true ∧
      (Json.int 9007199254740992).display = toString (9007199254740992 : Int) ∧
      ∃ q q', filedLetters.registry.payload .standard "notice" (noticeFor 9007199254740992) = .ok q ∧
        filedLetters.registry.payload .standard "notice" (noticeFor 9007199254740994) = .ok q' ∧
        q.storageHint ≠ q'.storageHint := by
  have fits : Number.fits 9007199254740992 = true := by decide
  have fits' : Number.fits 9007199254740994 = true := by decide
  obtain ⟨numeral, -, -, destinations⟩ := wholeNumbers_kept_apart fits fits'
  have text : ∀ t, filedLetters.registry.linkedTemplate "notice" = .ok t →
      t.PlacesText byBadge "badge" := by
    rintro t ⟨⟩ name hname b hb -
    have names : byBadge.placeholderNames = ["folder", "badge"] := by decide
    rw [names, List.mem_cons, List.mem_singleton] at hname
    rcases hname with rfl | rfl <;> cases hb <;> rfl
  refine ⟨fits, fits', numeral (by decide), _, _, rfl, rfl, ?_⟩
  refine destinations filedLetters.registry .standard "notice" "badge" _ _ _ _ _ _ rfl rfl
    (differIn_noticeFor _ _ _) (text _ rfl) ⟨"badge", by decide, .ofField "badge", rfl, by decide, ?_⟩
    rfl rfl
  show Float.ofInt 9007199254740992 ≠ Float.ofInt 9007199254740994
  decide +kernel

/-- Forms of dates under which `20240111` is the eleventh of January and `120240111` the first of
November. -/
def runTogether : DateFormats := ⟨["%Y%m%d", "1%Y%d%m"]⟩

/-- Digits beyond the fifty-third bit are lost, and so is the sign of a code; texts of several
fields come out alike from different parts, and so do a number and the day that it is read as. -/
theorem wholeNumbers_shown_alike :
    (Number.fits 9007199254740993 = true ∧
      toString (9007199254740993 : Int) = "9007199254740993" ∧
      (Json.int 9007199254740993).display = "9007199254740992" ∧
      (Json.int 9007199254740992).display = "9007199254740992") ∧
    (Transform.code (Json.int 5).display = "5" ∧ Transform.code (Json.int (-5)).display = "5") ∧
    (StoragePattern.neighbours.render (.ofList [("a", .int 1), ("b", .int 23)]) =
        "contracts/123/x" ∧
      StoragePattern.neighbours.render (.ofList [("a", .int 12), ("b", .int 3)]) =
        "contracts/123/x") ∧
    (Binding.date "badge" "%-d").evaluate runTogether (noticeFor 20240111) =
        .ok (some (.string "11")) ∧
      (Binding.date "badge" "%-d").evaluate runTogether (noticeFor 120240111) =
        .ok (some (.string "1")) ∧
      StoragePattern.neighbours.render (.ofList [("a", .string "11"), ("b", .int 20240111)]) =
        StoragePattern.neighbours.render (.ofList [("a", .string "1"), ("b", .int 120240111)]) := by
  refine ⟨⟨by decide, by decide +kernel, by decide +kernel, by decide +kernel⟩,
    ⟨by decide +kernel, by decide +kernel⟩, ⟨by decide +kernel, by decide +kernel⟩,
    by rfl, by rfl, by decide +kernel⟩

end ContractDocs
