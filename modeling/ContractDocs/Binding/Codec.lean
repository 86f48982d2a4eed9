/-
Bindings as JSON.
-/
import ContractDocs.Binding
import ContractDocs.Json.Decode

namespace ContractDocs

/-- The members with a value. -/
def Json.present (members : List (String × Option Json)) : Json :=
  .object (members.filterMap fun (k, v) => v.map fun v => (k, v))

def Source.toJson : Source → Json
  | .field name => .object [("kind", .string "field"), ("field", .string name)]
  | .concat fields separator =>
    .object [("kind", .string "concat"), ("fields", .array (fields.map .string)),
      ("separator", .string separator)]

def Transform.toJson : Transform → Json
  | .trim => .object [("op", .string "trim")]
  | .uppercaseAlphanumeric => .object [("op", .string "uppercase_alphanumeric")]
  | .dateFormat pattern => .object [("op", .string "date_format"), ("pattern", .string pattern)]
  | .scale factor decimals =>
    .present [("op", some (.string "scale")), ("factor", some (.ofFloat factor)),
      ("decimals", decimals.map fun n => .int n.toNat)]

def Binding.toJson (b : Binding) : Json :=
  .present [("source", some b.source.toJson), ("transform", b.transform.map Transform.toJson)]

namespace Json.Decode

def fieldSource : Decoder Source := fun v => do
  let m ← members (variantShape "BindingSource" "Field" [("field", check string)]) v
  return .field (← m.need "field" string)

def concatSource : Decoder Source := fun v => do
  let m ← members (variantShape "BindingSource" "Concat"
    [("fields", check (list string)), ("separator", check string)]) v
  return .concat (← m.need "fields" (list string))
    (← m.orElse "separator" string Source.defaultSeparator)

def source : Decoder Source :=
  tagged "BindingSource" "kind" [("field", fieldSource), ("concat", concatSource)]

/-- A transform without parameters. -/
def plainTransform (t : Transform) (variant : String) : Decoder Transform := fun v => do
  let _ ← members (variantShape "Transform" variant []) v
  return t

def dateFormat : Decoder Transform := fun v => do
  let m ← members (variantShape "Transform" "DateFormat" [("pattern", check string)]) v
  return .dateFormat (← m.need "pattern" string)

def scale : Decoder Transform := fun v => do
  let m ← members (variantShape "Transform" "Scale"
    [("factor", check number), ("decimals", check (option uint32))]) v
  return .scale (← m.need "factor" number) (← m.orElse "decimals" (option uint32) none)

def transform : Decoder Transform :=
  tagged "Transform" "op"
    [("trim", plainTransform .trim "Trim"),
      ("uppercase_alphanumeric", plainTransform .uppercaseAlphanumeric "UppercaseAlphanumeric"),
      ("date_format", dateFormat), ("scale", scale)]

def binding : Decoder Binding := fun v => do
  let m ← members (closedRecord "Binding"
    [("source", check source), ("transform", check (option transform))]) v
  return ⟨← m.need "source" source, ← m.orElse "transform" (option transform) none⟩

end Json.Decode

end ContractDocs
