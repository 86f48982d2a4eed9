/-
Contract records: field values by field name, and how a field is read.

A value that is null or a text of white space alone counts as not given, so
a field is present only with something in it.
-/
import ContractDocs.Text.Blank
import ContractDocs.Decimal.Numeral
import ContractDocs.Json.Printer

namespace ContractDocs

namespace Json

/-- Values that count as not given. -/
def isBlank : Json → Bool
  | .null => true
  | .string s => Text.isBlankText s
  | _ => false

/-- The value as display text: a text as it is, nothing for null, a number by its nearest binary
number, and the compact JSON text of an array or object. -/
def display : Json → String
  | .null => ""
  | .string s => s
  | .number n => Decimal.displayText n.toFloat
  | .bool b => if b then "true" else "false"
  | v => v.text

/-- The value as a finite number: a number, or a text that is a numeral between white space. -/
def quantity? : Json → Option Float
  | .number n => (some n.toFloat).filter Float.isFinite
  | .string s => Decimal.quantity? (Text.trimChars s.toList)
  | _ => none

end Json

/-- The fields of a contract. -/
abbrev Record := Dict Json

/-- How a field reads as a value of some kind. -/
inductive Reading (α : Type)
  | absent
  | valid (a : α)
  | invalid
  deriving DecidableEq

namespace Reading

/-- What was read, if anything was. -/
def get? : Reading α → Option α
  | .valid a => some a
  | _ => none

def isInvalid : Reading α → Bool
  | .invalid => true
  | _ => false

/-- The reading of a value that may be absent. -/
def ofPresent (read : Json → Option α) : Option Json → Reading α
  | none => .absent
  | some v =>
    match read v with
    | some a => .valid a
    | none => .invalid

end Reading

namespace Record

/-- The value of a field, unless it is missing or blank. -/
def present? (r : Record) (field : String) : Option Json :=
  (r.get? field).filter fun v => !v.isBlank

/-- The field as a finite number. -/
def quantity (r : Record) (field : String) : Reading Float :=
  .ofPresent Json.quantity? (r.present? field)

end Record

end ContractDocs
