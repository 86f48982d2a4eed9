/-
The variables that read a required field. None of them is left out of a
document, and in the built-in documents the only one that can come out empty
is the currency.

Whether a field is there is asked of its value, and what is sent is made of
the value afterwards. A value that is not blank has a text that is not blank
(`Json.isBlankText_display`), and all transforms of the built-in documents but
one leave something of it (`Transform.isBlank_of_apply`). A code keeps letters
and digits alone, so a text without any comes to nothing
(`Transform.isBlankText_code_iff`).
-/
import ContractDocs.Proofs.BoundVariables
import ContractDocs.Proofs.Currency
import ContractDocs.Proofs.DateText

namespace ContractDocs

open Catalog.Builtin

/-! ## Texts that are not blank -/

namespace Text

theorem isBlankText_eq_false_iff {s : String} :
    isBlankText s = false ↔ ∃ c ∈ s.toList, isBlank c = false := by
  simp [isBlankText, List.all_eq_false]

theorem isBlankText_trim (s : String) : isBlankText (trim s) = isBlankText s := by
  obtain ⟨lead, trail, hlead, htrail, hs⟩ := exists_trimChars s.toList
  rw [isBlankText, isBlankText, toList_trim]
  conv => rhs; rw [hs]
  rw [List.all_append, List.all_append, List.all_eq_true.2 hlead, List.all_eq_true.2 htrail,
    Bool.true_and, Bool.and_true]

/-- Texts that are joined begin with the first of them. -/
theorem isBlankText_intercalate_cons {separator s : String} (shown : isBlankText s = false)
    (ss : List String) : isBlankText (separator.intercalate (s :: ss)) = false := by
  obtain ⟨c, hc, notBlank⟩ := isBlankText_eq_false_iff.1 shown
  refine isBlankText_eq_false_iff.2 ⟨c, ?_, notBlank⟩
  rw [String.toList_intercalate, List.map_cons]
  cases ss with
  | nil => simpa using hc
  | cons t ss =>
    rw [List.map_cons, List.intercalate_cons_cons]
    exact List.mem_append_left _ (List.mem_append_left _ hc)

end Text

namespace Decimal

theorem not_blank_of_isDigit {c : Char} (h : isDigit c = true) : Text.isBlank c = false :=
  Slot.IsChar.not_blank (.inr h)

theorem exists_shown_signed {negative : Bool} {cs : List Char}
    (h : ∃ c ∈ cs, Text.isBlank c = false) : ∃ c ∈ signed negative cs, Text.isBlank c = false := by
  obtain ⟨c, hc, shown⟩ := h
  rw [signed]
  split
  · exact ⟨c, List.mem_cons_of_mem _ hc, shown⟩
  · exact ⟨c, hc, shown⟩

/-- There are digits before the point, or else there is a point. -/
theorem exists_shown_positional (s : Scientific) :
    ∃ c ∈ s.positional, Text.isBlank c = false := by
  obtain ⟨d, hd⟩ := List.exists_mem_of_ne_nil (digitChars s.digits) Nat.toDigits_ne_nil
  rw [Scientific.positional]
  split
  · next whole h =>
    refine ⟨d, ?_, not_blank_of_isDigit (isDigit_of_mem_digitChars hd)⟩
    rw [Scientific.split] at h
    dsimp only at h
    split at h
    · obtain ⟨rfl, -⟩ := Prod.mk.inj h
      exact List.mem_append_left _ hd
    · split at h
      · obtain ⟨-, none⟩ := Prod.mk.inj h
        rw [List.drop_eq_nil_iff] at none
        omega
      · obtain ⟨-, none⟩ := Prod.mk.inj h
        exact absurd (List.append_eq_nil_iff.1 none).2 Nat.toDigits_ne_nil
  · exact ⟨'.', by simp, rfl⟩

theorem isBlankText_displayText (x : Float) : Text.isBlankText (displayText x) = false := by
  rw [Text.isBlankText_eq_false_iff, displayText, String.toList_ofList, display]
  split
  · exact ⟨'N', by simp, rfl⟩
  · split
    · exact exists_shown_signed ⟨'i', by simp, rfl⟩
    · dsimp only
      split
      · exact ⟨'0', by simp, rfl⟩
      · exact exists_shown_signed (exists_shown_positional _)

end Decimal

/-- Only what counts as not given has no text. -/
theorem Json.isBlankText_display (v : Json) : Text.isBlankText v.display = v.isBlank := by
  cases v with
  | null => rfl
  | string s => rfl
  | bool b => cases b <;> rfl
  | number n => exact Decimal.isBlankText_displayText _
  | array items =>
    exact Text.isBlankText_eq_false_iff.2 ⟨'[', by simp [display, text, chars], rfl⟩
  | object members =>
    exact Text.isBlankText_eq_false_iff.2 ⟨'{', by simp [display, text, chars], rfl⟩

/-! ## What transforms leave -/

namespace Transform

/-- The text has nothing that a code keeps. -/
def Codeless (s : String) : Prop := ∀ c ∈ (Text.upper s).toList, isCodeChar c = false

theorem isBlankText_code_iff {s : String} : Text.isBlankText (code s) = true ↔ Codeless s := by
  rw [Text.isBlankText, code, String.toList_ofList, List.all_eq_true, Codeless]
  constructor
  · intro blank c hc
    by_contra kept
    rw [Bool.not_eq_false] at kept
    have dropped := isCodeChar_of_isBlank (blank c (List.mem_filter.2 ⟨hc, kept⟩))
    rw [kept] at dropped
    cases dropped
  · intro codeless c hc
    obtain ⟨hc, kept⟩ := List.mem_filter.1 hc
    rw [codeless c hc] at kept
    cases kept

/-- The transforms of the built-in documents that leave something of every text. -/
def isSparing : Transform → Bool
  | .trim | .scale _ _ => true
  | .dateFormat pattern => pattern = displayDate
  | .uppercaseAlphanumeric => false

theorem isBlank_of_apply {f : Transform} (sparing : f.isSparing = true) {formats : DateFormats}
    {v w : Json} (shown : v.isBlank = false) (applied : f.apply formats v = .ok w) :
    w.isBlank = false := by
  cases f with
  | uppercaseAlphanumeric => cases sparing
  | trim =>
    rw [apply, Except.ok.injEq] at applied
    rw [← applied, Json.isBlank, Text.isBlankText_trim, Json.isBlankText_display, shown]
  | scale factor decimals =>
    obtain ⟨x, -, -, rfl⟩ := apply_scale_eq_ok_iff.1 applied
    rfl
  | dateFormat pattern =>
    obtain rfl : pattern = displayDate := by simpa [isSparing] using sparing
    rw [apply] at applied
    cases read : formats.parse v.display with
    | error e =>
      rw [read] at applied
      cases applied
    | ok d =>
      rw [read, displayDate] at applied
      dsimp only at applied
      rw [DateFormats.formatDate_hyphens] at applied
      cases applied
      exact Text.isBlankText_eq_false_iff.2 ⟨'-', by simp [Calendar.Date.dayFirstChars], rfl⟩

end Transform

/-- What a binding reads is there. -/
theorem Source.isBlank_of_read? {source : Source} {r : Record} {v : Json}
    (read : source.read? r = some v) : v.isBlank = false := by
  cases source with
  | field name => exact (Record.present?_eq_some_iff.1 read).2
  | concat names separator =>
    rw [read?] at read
    cases given : names.filterMap r.present? with
    | nil =>
      rw [given] at read
      cases read
    | cons u us =>
      have first : u ∈ names.filterMap r.present? := given ▸ List.mem_cons_self
      obtain ⟨name, -, hu⟩ := List.mem_filterMap.1 first
      have shown : Text.isBlankText u.display = false := by
        rw [Json.isBlankText_display, (Record.present?_eq_some_iff.1 hu).2]
      rw [given] at read
      cases read
      exact Text.isBlankText_intercalate_cons shown _

/-- Nothing but a code makes a variable blank. -/
theorem Binding.isBlank_of_evaluate {b : Binding}
    (sparing : ∀ f, b.transform = some f → f.isSparing = true) {formats : DateFormats} {r : Record}
    {w : Json} (evaluated : b.evaluate formats r = .ok (some w)) : w.isBlank = false := by
  rw [evaluate] at evaluated
  cases read : b.source.read? r with
  | none =>
    rw [read] at evaluated
    cases evaluated
  | some v =>
    have shown := Source.isBlank_of_read? read
    rw [read] at evaluated
    dsimp only at evaluated
    split at evaluated
    · cases evaluated
      exact shown
    · next f transform =>
      obtain ⟨x, applied, same⟩ := Checks.map_eq_ok.1 evaluated
      cases same
      exact Transform.isBlank_of_apply (sparing f transform) shown applied

theorem Binding.isBlank_code_iff {field : String} {formats : DateFormats} {r : Record} {v w : Json}
    (read : r.present? field = some v)
    (evaluated : (Catalog.Builtin.code field).evaluate formats r = .ok (some w)) :
    w.isBlank = true ↔ Transform.Codeless v.display := by
  obtain ⟨u, hu, applied⟩ := Binding.evaluate_field_eq_some_iff.1 evaluated
  obtain rfl := Option.some.inj (hu.symm.trans read)
  rw [Transform.apply, Except.ok.injEq] at applied
  rw [← applied, Json.isBlank, Transform.isBlankText_code_iff]

/-! ## The built-in documents -/

/-- A variable of a required field is the currency as a code, or is bound in a way that leaves
something of every value. -/
theorem builtin_required_bindings : ∀ tmpl ∈ templates, ∀ e ∈ tmpl.bindings.entries,
    e.2.fields.any tmpl.requires = true →
      e.1 = "currency" ∧ e.2 = code Field.currency.name ∨
        e.1 ≠ "currency" ∧ e.2.transform.all Transform.isSparing = true := by decide +kernel

theorem linkedTemplate_paidIn (currency : String) :
    Catalog.builtin.registry.linkedTemplate (paidIn currency).typeId = .ok unlimitedTemplate := by
  have holds := Catalog.holds_of_build build_builtin
  exact Registry.linkedTemplate_eq_ok_iff.2 ⟨unlimitedType, unlimitedTemplate.id,
    (holds.type_iff _ _).2 ⟨List.mem_cons_self, rfl⟩, rfl,
    (holds.template_iff _ _).2 ⟨List.mem_cons_self, rfl⟩⟩

theorem currency_paidIn : unlimitedTemplate.bindings.get? "currency" =
      some (code Field.currency.name) ∧
    unlimitedTemplate.requires Field.currency.name = true := by decide +kernel

/-- **A variable that reads a required field is sent** in every document of a
built-in type. Its value is blank for a currency that has none of the letters
`A` to `Z` and no digit in upper case, which is given but leaves nothing when
it is made a code, and in no other case. -/
theorem Registry.blank_required_variable_iff {strict : Bool} {reg : Registry}
    (hb : Catalog.builtin.build strict = .ok reg) (s : Settings) (q : Request) {p : Payload}
    (hp : (reg.process s q).payload = some p) :
    ∃ tmpl, reg.linkedTemplate q.typeId = .ok tmpl ∧
      ∀ name b, tmpl.bindings.get? name = some b →
        ∀ field ∈ b.fields, tmpl.requires field = true →
          ∃ v w, (reg.complete s q.typeId q.record).1.present? field = some v ∧
            p.value? name = some w ∧
            (w.isBlank = true ↔ name = "currency" ∧ Transform.Codeless v.display) := by
  obtain ⟨-, hpayload⟩ := Registry.process_payload_eq_some_iff.1 hp
  obtain ⟨tmpl, values, hlink, hbind, rfl⟩ := Registry.payload_eq_ok_iff.1 hpayload
  obtain ⟨-, id, -, -, htmpl⟩ := Registry.linkedTemplate_eq_ok_iff.1 hlink
  have builtin : tmpl ∈ Catalog.Builtin.templates :=
    (((Catalog.holds_of_build hb).template_iff _ _).1 htmpl).1
  have binds := Template.binds_of_bind hbind
  refine ⟨tmpl, hlink, fun name b hb field hfield required => ?_⟩
  obtain ⟨v, hv⟩ := Record.provides_iff.1 ((binds.bindable name b hb).1 field hfield required)
  obtain ⟨w, hw⟩ := Option.isSome_iff_exists.1
    ((binds.contains_iff name).2 ⟨b, hb, field, hfield, Record.provides_iff.2 ⟨v, hv⟩⟩)
  obtain ⟨b', hb', evaluated⟩ := (binds.value_iff name w).1 hw
  obtain rfl := Option.some.inj (hb.symm.trans hb')
  refine ⟨v, w, hv, hw, ?_⟩
  rcases builtin_required_bindings tmpl builtin (name, b) (Dict.get?_eq_some_iff.1 hb)
    (List.any_eq_true.2 ⟨field, hfield, required⟩) with ⟨rfl, rfl⟩ | ⟨other, sparing⟩
  · obtain rfl := List.mem_singleton.1 hfield
    rw [Binding.isBlank_code_iff hv evaluated]
    exact (and_iff_right rfl).symm
  · rw [Option.all_eq_true] at sparing
    rw [Binding.isBlank_of_evaluate sparing evaluated]
    exact iff_of_false Bool.false_ne_true fun h => other h.1

theorem blank_required_variable_iff_paidIn :
    Catalog.builtin.build true = .ok Catalog.builtin.registry ∧
      ∃ p, (Catalog.builtin.registry.process .standard (paidIn " omr ")).payload = some p ∧
        ∃ v w, (Catalog.builtin.registry.complete .standard unlimitedType.id
            (paidIn " omr ").record).1.present? Field.currency.name = some v ∧
          p.value? "currency" = some w ∧ (w.isBlank = true ↔ Transform.Codeless v.display) := by
  obtain ⟨p, hp, -, -⟩ := exists_payload_of_documentOf documentOf_paidIn.1
  obtain ⟨tmpl, hlink, sent⟩ :=
    Registry.blank_required_variable_iff build_builtin .standard (paidIn " omr ") hp
  obtain rfl := Except.ok.inj (hlink.symm.trans (linkedTemplate_paidIn _))
  obtain ⟨v, w, hv, hw, blank⟩ := sent "currency" _ currency_paidIn.1 Field.currency.name
    List.mem_cons_self currency_paidIn.2
  exact ⟨build_builtin, p, hp, v, w, hv, hw, blank.trans (and_iff_right rfl)⟩

/-- The currency is required and given, and the document is sent with an empty one. -/
theorem blank_currency_paidIn :
    Catalog.builtin.registry.linkedTemplate (paidIn "€").typeId = .ok unlimitedTemplate ∧
      unlimitedTemplate.bindings.get? "currency" = some (code Field.currency.name) ∧
      unlimitedTemplate.requires Field.currency.name = true ∧
      ∃ p, (Catalog.builtin.registry.process .standard (paidIn "€")).payload = some p ∧
        ∃ w, p.value? "currency" = some w ∧ w.isBlank = true := by
  have document : documentOf (paidIn "€") = (some "", some 300, []) := by decide +kernel
  obtain ⟨p, hp, pays, -⟩ := exists_payload_of_documentOf document
  obtain ⟨w, hw, empty⟩ := Option.map_eq_some_iff.1 pays.currency
  refine ⟨linkedTemplate_paidIn _, currency_paidIn.1, currency_paidIn.2, p, hp, w, hw, ?_⟩
  rw [← Json.isBlankText_display, empty]
  rfl

end ContractDocs
