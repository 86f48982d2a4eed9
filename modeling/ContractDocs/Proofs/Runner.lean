/-
A runner that works from the blueprint makes the document of the payload: the
blueprint of a type names the same template and formats, its bindings give the
same variables, and it stores the document under the same name.

`Blueprint.Describes`: what a runner reads in the stages, and what it makes of
it. `Registry.blueprint_describes_payload`: for every type and record with a
payload.
-/
import ContractDocs.Blueprint
import ContractDocs.Settings
import ContractDocs.Proofs.Codec
import ContractDocs.Proofs.Links
import ContractDocs.Proofs.Variables

namespace ContractDocs

open Checks

/-! ## The variables of bindings -/

namespace Binding

/-- A binding without a problem has a factor that JSON has. -/
theorem finite_of_problem? {b : Binding} (h : b.problem? = none) : b.Finite := by
  rintro t ht factor decimals rfl
  rw [problem?, ht] at h
  split at h
  · cases h
  split at h
  · cases h
  by_contra infinite
  rw [Bool.not_eq_true] at infinite
  simp [infinite] at h

/-- Adds the value of one variable, if it has one. -/
def evaluateNext (formats : DateFormats) (r : Record) (values : Variables)
    (entry : String × Binding) : Except BindingError Variables := do
  match ← entry.2.evaluate formats r with
  | some v => return values.insert entry.1 v
  | none => return values

/-- The values that bindings alone give, without a look at the template's fields. -/
def evaluateAll (bs : Dict Binding) (formats : DateFormats) (r : Record) :
    Except BindingError Variables :=
  bs.entries.foldlM (evaluateNext formats r) .empty

end Binding

namespace Template

variable {t : Template} {formats : DateFormats} {r : Record}

theorem evaluateNext_of_bindVariable {values values' : Variables} {e : String × Binding}
    (h : t.bindVariable formats r values e = .ok values') :
    Binding.evaluateNext formats r values e = .ok values' := by
  obtain ⟨v, hv, h⟩ := bind_eq_ok.1 h
  have evaluated := (variableValue_eq_ok_iff.1 hv).2
  refine bind_eq_ok.2 ⟨v, evaluated, ?_⟩
  cases v with
  | none => rw [pure_eq_ok.1 h]; rfl
  | some v => rw [pure_eq_ok.1 h]; rfl

/-- Where the template has variables, its bindings alone give them. -/
theorem evaluateAll_of_bind {values : Variables} (h : t.bind formats r = .ok values) :
    Binding.evaluateAll t.bindings formats r = .ok values := by
  have steps : ∀ {es : List (String × Binding)} {bound : Variables},
      es.foldlM (t.bindVariable formats r) bound = .ok values →
        es.foldlM (Binding.evaluateNext formats r) bound = .ok values := by
    intro es
    induction es with
    | nil =>
      intro bound h
      rw [pure_eq_ok.1 h]
      rfl
    | cons e es ih =>
      intro bound h
      rw [List.foldlM_cons, bind_eq_ok] at h ⊢
      obtain ⟨bound', step, rest⟩ := h
      exact ⟨bound', evaluateNext_of_bindVariable step, ih rest⟩
  exact steps h

end Template

/-! ## What the stages say -/

namespace Blueprint

/-- A parameter of the stage of a kind. -/
def parameter? (b : Blueprint) (kind name : String) : Option Json :=
  (b.stage? kind).bind fun s => s.parameters.get? name

/-- A runner that has the blueprint and the record makes the document of the payload, with the
bindings that the stage gives. -/
structure Describes (b : Blueprint) (bs : Dict Binding) (formats : DateFormats) (r : Record)
    (p : Payload) : Prop where
  template : b.parameter? "render_template" "template_ref" = some (.string p.templateRef)
  rendered : b.parameter? "render_template" "output_format" = some p.outputFormat.toJson
  stored : b.parameter? "store_artifact" "output_format" = some p.outputFormat.toJson
  exported : b.parameter? "export_document" "formats" =
    some (.array (p.outputFormat.exports.map .string))
  bindings : ∃ v, b.parameter? "render_template" "bindings" = some v ∧
    Json.Decode.dict Json.Decode.binding v = .ok bs
  values : Binding.evaluateAll bs formats r = .ok p.values
  named_iff : (b.parameter? "store_artifact" "naming").isSome = true ↔ p.storageHint.isSome = true
  named : ∀ v, b.parameter? "store_artifact" "naming" = some v →
    ∃ pattern, Json.Decode.storagePattern v = .ok pattern ∧
      p.storageHint = some (pattern.render p.values)

end Blueprint

namespace Template

variable {t : Template} {formats : DateFormats} {r : Record}

theorem parameter?_render (suffix name : String) :
    (t.blueprint suffix).parameter? "render_template" name =
      Dict.lookup name [("template_ref", .string t.externalRef),
        ("output_format", t.outputFormat.toJson),
        ("bindings", (Json.ofDict (t.bindings.map Binding.toJson)).sorted)] :=
  Dict.get?_ofList name (by simp)

theorem parameter?_export (suffix name : String) :
    (t.blueprint suffix).parameter? "export_document" name =
      Dict.lookup name [("formats", .array (t.outputFormat.exports.map .string))] :=
  Dict.get?_ofList name (by simp)

/-- What names the stored files is there when the template has a pattern. -/
theorem parameter?_naming (suffix : String) :
    (t.blueprint suffix).parameter? "store_artifact" "naming" =
      t.storage.map fun p => p.toJson.sorted := by
  show (Stage.storeArtifact t.outputFormat t.storage).parameters.get? "naming" = _
  cases t.storage with
  | none => exact Dict.get?_ofList "naming" (by simp)
  | some p => exact Dict.get?_insert_self _ _ _

theorem parameter?_stored (suffix : String) :
    (t.blueprint suffix).parameter? "store_artifact" "output_format" =
      some t.outputFormat.toJson := by
  show (Stage.storeArtifact t.outputFormat t.storage).parameters.get? "output_format" = _
  cases t.storage with
  | none => exact Dict.get?_ofList "output_format" (by simp)
  | some p =>
    refine (Dict.get?_insert_other _ _ (by decide)).trans ?_
    exact Dict.get?_ofList "output_format" (by simp)

/-- The stages of a template describe the document that its payload describes. -/
theorem describes_blueprint {values : Variables} (finite : t.Finite)
    (h : t.bind formats r = .ok values) (suffix typeId : String) :
    (t.blueprint suffix).Describes t.bindings formats r
      ⟨typeId, t.externalRef, t.outputFormat, values, t.storage.map fun s => s.render values⟩ where
  template := parameter?_render suffix "template_ref"
  rendered := parameter?_render suffix "output_format"
  stored := parameter?_stored suffix
  exported := parameter?_export suffix "formats"
  bindings := ⟨_, parameter?_render suffix "bindings", Json.Decode.Decodes.bindings finite⟩
  values := evaluateAll_of_bind h
  named_iff := by
    rw [parameter?_naming, Option.isSome_map, Option.isSome_map]
  named v hv := by
    rw [parameter?_naming] at hv
    obtain ⟨pattern, hp, rfl⟩ := Option.map_eq_some_iff.1 hv
    exact ⟨pattern, Json.Decode.Decodes.storagePattern pattern, by rw [hp]; rfl⟩

end Template

namespace Registry

/-- The templates of a registry have been checked when it was built. -/
theorem finite_of_linkedTemplate {c : Catalog} {strict : Bool} {reg : Registry} {typeId : String}
    {t : Template} (hb : c.build strict = .ok reg) (ht : reg.linkedTemplate typeId = .ok t) :
    t.Finite := by
  obtain ⟨_, id, -, -, found⟩ := linkedTemplate_eq_ok_iff.1 ht
  have listed := ((Catalog.holds_of_build hb).template_iff id t).1 found
  have sound := (Catalog.build_eq_ok_iff.1 hb).1.templates t listed.1
  exact fun e he => Binding.finite_of_problem? (sound.bindings e he)

/-- **The blueprint of a type describes the document of the payload** that a record of the type is
compiled to. -/
theorem blueprint_describes_payload {c : Catalog} {strict : Bool} {reg : Registry}
    (hb : c.build strict = .ok reg) {settings : Settings} {typeId : String} {r : Record}
    {p : Payload} (hp : reg.payload settings.dateFormats typeId r = .ok p) :
    ∃ t b, reg.linkedTemplate typeId = .ok t ∧
      reg.blueprintForType settings.blueprintSuffix typeId = .ok b ∧
      b.Describes t.bindings settings.dateFormats r p := by
  obtain ⟨t, values, ht, bound, rfl⟩ := payload_eq_ok_iff.1 hp
  have compiled : reg.blueprintForType settings.blueprintSuffix typeId =
      .ok (t.blueprint settings.blueprintSuffix) := by
    rw [blueprintForType, ht]
    rfl
  exact ⟨t, _, ht, compiled,
    t.describes_blueprint (finite_of_linkedTemplate hb ht) bound _ typeId⟩

/-- A file for each code. -/
def billPath : StoragePattern := ⟨"bills", StoragePattern.placeholder "code"⟩

/-- Two variables and one without a value, one of them in the name of the file. -/
def bill : Template :=
  { Template.new "bill" "Bill" "billing" "doc-7" with
    optionalFields := ["code", "fee", "first", "last"]
    bindings := .ofList [("code", ⟨.field "code", some .uppercaseAlphanumeric⟩),
      ("fee", ⟨.field "fee", some (.scale 1000.0 (some 2))⟩),
      ("name", .ofConcat ["first", "last"] " ")]
    outputFormat := .both
    storage := some billPath }

def invoices : Catalog :=
  ⟨[{ ContractType.new "invoice" "Invoice" "billing" with templateId := some "bill" }], [bill]⟩

/-- An invoice without a fee and a last name. -/
def invoice : Record := .ofList [("code", .string "in-7"), ("first", .string "Ada")]

def invoiceValues : Variables := .ofList [("code", .string "IN7"), ("name", .string "Ada")]

theorem bind_invoice : bill.bind Settings.standard.dateFormats invoice = .ok invoiceValues := by
  have code : Transform.code "in-7" = "IN7" := by decide +kernel
  have bound : bill.bind Settings.standard.dateFormats invoice =
      .ok (.ofList [("code", .string (Transform.code "in-7")), ("name", .string "Ada")]) := by rfl
  rw [bound, code]
  rfl

theorem blueprint_describes_payload_invoice :
    invoices.build true = .ok invoices.registry ∧
      invoices.registry.payload Settings.standard.dateFormats "invoice" invoice =
        .ok ⟨"invoice", "doc-7", .both, invoiceValues, some "bills/IN7"⟩ ∧
      ∃ t b, invoices.registry.linkedTemplate "invoice" = .ok t ∧
        invoices.registry.blueprintForType Settings.standard.blueprintSuffix "invoice" = .ok b ∧
        b.Describes t.bindings Settings.standard.dateFormats invoice
          ⟨"invoice", "doc-7", .both, invoiceValues, some "bills/IN7"⟩ := by
  have built : invoices.build true = .ok invoices.registry := by rfl
  have path : billPath.render invoiceValues = "bills/IN7" := by decide +kernel
  have sent : invoices.registry.payload Settings.standard.dateFormats "invoice" invoice =
      .ok ⟨"invoice", "doc-7", .both, invoiceValues, some "bills/IN7"⟩ := by
    refine payload_eq_ok_iff.2 ⟨bill, invoiceValues, rfl, bind_invoice, ?_⟩
    rw [← path]
    rfl
  exact ⟨built, sent, blueprint_describes_payload built sent⟩

end Registry

end ContractDocs
