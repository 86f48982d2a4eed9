/-
A catalog that is written and read again is the same catalog: every type,
template, rule, limit, default value, placeholder and binding, whether it is
set or left out.

`Catalog.within_toJson`: no text of a catalog is too deep for a reader.
`Catalog.ofText_text`: reading undoes writing. Assumed is only that the
fractions of the catalog are read as they were written.
-/
import ContractDocs.Proofs.Codec

namespace ContractDocs

namespace Json

/-! ## Depth -/

theorem Within.strings {k : Nat} (xs : List String) : Within (k + 1) (.array (xs.map .string)) := by
  refine .array fun x hx => ?_
  obtain ⟨s, -, rfl⟩ := List.mem_map.1 hx
  exact .string s

theorem Within.list {α : Type} {k : Nat} {encode : α → Json} {xs : List α}
    (h : ∀ a ∈ xs, Within k (encode a)) : Within (k + 1) (.array (xs.map encode)) := by
  refine .array fun x hx => ?_
  obtain ⟨a, ha, rfl⟩ := List.mem_map.1 hx
  exact h a ha

theorem Within.dict {α : Type} {k : Nat} {encode : α → Json} {d : Dict α}
    (h : ∀ e ∈ d.entries, Within k (encode e.2)) : Within (k + 1) (.ofDict (d.map encode)) := by
  refine .object fun x hx => ?_
  obtain ⟨e, he, rfl⟩ := List.mem_map.1 hx
  exact h e he

theorem Within.ofFloat {k : Nat} (x : Float) : Within k (.ofFloat x) := by
  rw [Json.ofFloat]
  split
  · exact .float x
  · exact .null

theorem Within.uint32 {k : Nat} (n : UInt32) : Within k (.int n.toNat) := by
  have bound := n.toNat_lt
  refine .int ?_
  simp only [Number.fits, Bool.and_eq_true, decide_eq_true_eq]
  omega

theorem Within.getD_null {α : Type} {k : Nat} {encode : α → Json} (h : ∀ a, Within k (encode a))
    (o : Option α) : Within k ((o.map encode).getD .null) := by
  cases o with
  | none => exact .null
  | some a => exact h a

theorem Within.present {k : Nat} {ms : List (String × Option Json)}
    (h : ∀ e ∈ ms, ∀ v ∈ e.2, Within k v) : Within (k + 1) (present ms) := by
  refine .object fun e he => ?_
  obtain ⟨⟨name, o⟩, hm, he⟩ := List.mem_filterMap.1 he
  obtain ⟨v, hv, rfl⟩ := Option.map_eq_some_iff.1 he
  exact h _ hm v hv

end Json

open Json

theorem Source.within_toJson (s : Source) : Within 2 s.toJson := by
  cases s with
  | field name => exact .object (by simp [Within.string])
  | concat fields separator => exact .object (by simp [Within.string, Within.strings])

theorem Transform.within_toJson (t : Transform) : Within 1 t.toJson := by
  cases t with
  | trim => exact .object (by simp [Within.string])
  | uppercaseAlphanumeric => exact .object (by simp [Within.string])
  | dateFormat pattern => exact .object (by simp [Within.string])
  | scale factor decimals =>
    exact .present (by simp [Within.string, Within.ofFloat, Within.uint32])

theorem Binding.within_toJson (b : Binding) : Within 3 b.toJson := by
  have source := b.source.within_toJson
  have transform : ∀ t, b.transform = some t → Within 2 t.toJson := fun t _ =>
    t.within_toJson.mono (by decide)
  exact .present (by simpa [source] using transform)

theorem BusinessRule.within_toJson (r : BusinessRule) : Within 1 r.toJson :=
  .present (by simp [Within.string, RuleCheck.toJson])

theorem Constraints.within_toJson (c : Constraints) : Within 2 c.toJson := by
  have limits := Within.getD_null (k := 1) Within.uint32
  have hours := Within.getD_null (k := 1) Within.ofFloat c.maxWeeklyHours
  have wages : Within 1 (.ofDict (c.minimumWage.map .ofFloat)) := .dict fun e _ => .ofFloat e.2
  exact .object (by simp [limits, hours, wages, Within.bool])

theorem ContractType.within_toJson {t : ContractType} (writable : t.Writable) :
    Within (defaultDepth + 2) t.toJson := by
  have strings (xs : List String) : Within (defaultDepth + 1) (.array (xs.map .string)) :=
    .strings xs
  have rules : Within (defaultDepth + 1) (.array (t.rules.map BusinessRule.toJson)) :=
    .list fun r _ => r.within_toJson.mono (by decide)
  have limits : Within (defaultDepth + 1) t.constraints.toJson :=
    t.constraints.within_toJson.mono (by decide)
  have defaults : Within (defaultDepth + 1) (.ofDict t.defaults) :=
    .object fun e he => (writable.defaults e he).within
  exact .present (by simp [Within.string, strings, rules, limits, defaults])

theorem Template.within_toJson (t : Template) : Within 5 t.toJson := by
  have placeholders : Within 4 (.ofDict (t.placeholders.map .string)) :=
    .dict fun e _ => .string e.2
  have bindings : Within 4 (.ofDict (t.bindings.map Binding.toJson)) :=
    .dict fun e _ => e.2.within_toJson
  exact .present (by simp [Within.string, Within.strings, placeholders, bindings,
    OutputFormat.toJson, StoragePattern.toJson, Within.object])

theorem Catalog.within_toJson {c : Catalog} (writable : c.Writable) :
    Within Tree.maxDepth c.toJson := by
  have types : Within (ContractType.defaultDepth + 3)
      (.array (c.contractTypes.map ContractType.toJson)) :=
    .list fun t ht => t.within_toJson (writable.types t ht)
  have templates : Within (ContractType.defaultDepth + 3)
      (.array (c.templates.map Template.toJson)) :=
    .list fun t _ => t.within_toJson.mono (by decide)
  exact .object (List.forall_mem_cons.2 ⟨types, List.forall_mem_singleton.2 templates⟩)

/-! ## Texts -/

/-- **Reading a catalog undoes writing it**: what is read is the catalog, whatever is set in it, as
long as its fractions are read as they were written. -/
theorem Catalog.ofText_text {c : Catalog} (writable : c.Writable)
    (exact : ∀ x ∈ c.toJson.floats, ReadsBack x) : ofText c.toJson.text = .ok c := by
  have read : Json.ofText? c.toJson.text = some c.toJson.sorted :=
    Json.ofText?_text (within_toJson writable) exact
  have decoded : Decode.catalog c.toJson.sorted = .ok c := Decode.Decodes.catalog writable
  rw [ofText, read]
  show (Decode.catalog c.toJson.sorted).mapError _ = _
  rw [decoded]
  rfl

/-- A type with limits and a default value, and a template that scales. -/
def Catalog.seasonal : Catalog where
  contractTypes := [{
    ContractType.new "seasonal" "Seasonal" "work" with
    optionalFields := ["fee", "shifts"]
    constraints := { Constraints.unlimited with
      maxWeeklyHours := some 37.5
      minNoticeDays := some 14
      minimumWage := .ofList [("OMR", 325.125)] }
    defaults := .ofList [("shifts", .object [("hours", .array [.int 4, .float 7.5]),
      ("night", .null)])]
    templateId := some "seasonal-letter" }]
  templates := [{
    Template.new "seasonal-letter" "Letter" "work" "doc-1" with
    optionalFields := ["fee"]
    bindings := .ofList [("fee", ⟨.field "fee", some (.scale 0.001 none)⟩)]
    storage := some ⟨"letters", StoragePattern.placeholder "fee"⟩ }]

theorem Catalog.writable_seasonal : seasonal.Writable := by
  have shifts : (Json.object [("hours", .array [.int 4, .float 7.5]), ("night", .null)]).Held
      ContractType.defaultDepth := by
    refine ⟨.object (List.forall_mem_cons.2 ⟨.array ?_, List.forall_mem_singleton.2 .null⟩), rfl⟩
    exact List.forall_mem_cons.2 ⟨.int rfl, List.forall_mem_singleton.2 (.float _)⟩
  refine ⟨List.forall_mem_singleton.2 ⟨⟨?_, ?_⟩, List.forall_mem_singleton.2 shifts⟩,
    List.forall_mem_singleton.2 (List.forall_mem_singleton.2 ?_)⟩
  · rintro x ⟨⟩
    decide +kernel
  · exact List.forall_mem_singleton.2 (by decide +kernel)
  · rintro t ⟨⟩ factor decimals ⟨⟩
    decide +kernel

theorem Catalog.ofText_text_seasonal :
    seasonal.Writable ∧ (∀ x ∈ seasonal.toJson.floats, ReadsBack x) ∧
      ofText seasonal.toJson.text = .ok seasonal := by
  have exact : ∀ x ∈ seasonal.toJson.floats, ReadsBack x := by
    have all : ∀ x ∈ [37.5, 325.125, 7.5, 0.001],
        Tree.number? (Decimal.json x) = some (.float x) := by
      decide +kernel
    exact all
  exact ⟨writable_seasonal, exact, ofText_text writable_seasonal exact⟩

end ContractDocs
