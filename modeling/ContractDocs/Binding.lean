/-
Bindings: how a variable of a document is computed from the fields of a
record.

A binding reads one field, or joins the texts of several, and may transform
the result. `Binding.check` refuses what could not work on any record;
`Binding.evaluate` gives the value, or nothing when no field is present.
-/
import ContractDocs.Record
import ContractDocs.Calendar.DateFormats
import ContractDocs.Text.Upper

namespace ContractDocs

/-- Where a binding reads its input. -/
inductive Source
  /-- One field, its value as it is. -/
  | field (name : String)
  /-- The texts of the fields that are present, in this order, with a separator between them. -/
  | concat (fields : List String) (separator : String)
  deriving DecidableEq

/-- The separator between joined texts, unless another is given. -/
def Source.defaultSeparator : String := " "

/-- What is done with the input. -/
inductive Transform
  | trim
  /-- Upper case, then only the letters `A` to `Z` and the digits. -/
  | uppercaseAlphanumeric
  /-- Read as a date and written by a pattern. -/
  | dateFormat (pattern : String)
  /-- Multiplied, and rounded to a number of decimal places if there is one. -/
  | scale (factor : Float) (decimals : Option UInt32)
  deriving DecidableEq

/-- The way from fields to the value of a variable. -/
structure Binding where
  source : Source
  transform : Option Transform
  deriving DecidableEq

/-- Why a binding cannot work on any record. -/
inductive BindingProblem
  | noFields
  | emptyFieldName
  | badPattern (e : DateError)
  | factorNotFinite (factor : Float)
  | tooManyDecimals (places : UInt32)
  deriving DecidableEq

/-- Why a binding has no value on a record. -/
inductive BindingError
  | notANumber (value : String)
  | date (e : DateError)
  | notFinite (value factor : String)
  deriving DecidableEq

def BindingError.message : BindingError → String
  | .notANumber value => "value '" ++ value ++ "' is not a number"
  | .date e => e.message
  | .notFinite value factor =>
    "scaling '" ++ value ++ "' by " ++ factor ++ " does not produce a finite number"

/-- The greatest number of decimal places to round to: a binary fraction carries no more digits. -/
def maxDecimals : Nat := 15

def BindingProblem.message : BindingProblem → String
  | .noFields => "binding references no fields"
  | .emptyFieldName => "binding references an empty field name"
  | .badPattern e => e.message
  | .factorNotFinite factor => "scale factor " ++ Decimal.displayText factor ++ " is not finite"
  | .tooManyDecimals places =>
    "scale rounds to " ++ toString places.toNat ++ " decimal places, at most "
      ++ toString maxDecimals ++ " are supported"

namespace Transform

/-- The capital letters `A` to `Z` and the digits. -/
def isCodeChar (c : Char) : Bool := ('A' ≤ c && c ≤ 'Z') || Decimal.isDigit c

/-- The text in upper case without anything but `A` to `Z` and the digits. -/
def code (s : String) : String := String.ofList ((Text.upper s).toList.filter isCodeChar)

/-- The nearest multiple of a power of ten, a half going away from zero. -/
def roundTo (x : Float) (places : Nat) : Float :=
  let unit := Float.ofNat (Nat.pow 10 places)
  Decimal.roundHalfAway (x * unit) / unit

/-- The product, rounded if places are given; more than `maxDecimals` act as that many. -/
def scaled (x factor : Float) (decimals : Option UInt32) : Float :=
  match decimals with
  | none => x * factor
  | some places => roundTo (x * factor) (min places.toNat maxDecimals)

/-- The transformed value. -/
def apply (formats : DateFormats) (v : Json) : Transform → Except BindingError Json
  | .trim => .ok (.string (Text.trim v.display))
  | .uppercaseAlphanumeric => .ok (.string (code v.display))
  | .dateFormat pattern =>
    match formats.parse v.display with
    | .error e => .error (.date e)
    | .ok d =>
      match formatDate d pattern with
      | .error e => .error (.date e)
      | .ok s => .ok (.string s)
  | .scale factor decimals =>
    match v.quantity? with
    | none => .error (.notANumber v.display)
    | some x =>
      let y := scaled x factor decimals
      if y.isFinite then .ok (.float y)
      else .error (.notFinite v.display (Decimal.displayText factor))

end Transform

namespace Source

/-- The fields that are read, in their order. -/
def fields : Source → List String
  | .field name => [name]
  | .concat fields _ => fields

/-- The input on a record; none when no field is present. -/
def read? (r : Record) : Source → Option Json
  | .field name => r.present? name
  | .concat fields separator =>
    match fields.filterMap r.present? with
    | [] => none
    | vs => some (.string (separator.intercalate (vs.map Json.display)))

end Source

namespace Binding

/-- One field as it is. -/
def ofField (name : String) : Binding := ⟨.field name, none⟩

/-- The texts of several fields. -/
def ofConcat (fields : List String) (separator : String) : Binding :=
  ⟨.concat fields separator, none⟩

/-- One field without white space at its ends. -/
def trimmed (name : String) : Binding := ⟨.field name, some .trim⟩

/-- One field as a date written by a pattern. -/
def date (name pattern : String) : Binding := ⟨.field name, some (.dateFormat pattern)⟩

/-- The fields that are read, in their order. -/
def fields (b : Binding) : List String := b.source.fields

/-- The first problem of a binding that shows without a record. -/
def problem? (b : Binding) : Option BindingProblem :=
  if b.fields.isEmpty then some .noFields
  else if b.fields.any Text.isBlankText then some .emptyFieldName
  else
    match b.transform with
    | some (.dateFormat pattern) =>
      match checkDatePattern pattern with
      | .ok () => none
      | .error e => some (.badPattern e)
    | some (.scale factor decimals) =>
      if !factor.isFinite then some (.factorNotFinite factor)
      else
        match decimals with
        | some places => if maxDecimals < places.toNat then some (.tooManyDecimals places) else none
        | none => none
    | _ => none

/-- The value of the variable, or nothing when no field is present. -/
def evaluate (b : Binding) (formats : DateFormats) (r : Record) :
    Except BindingError (Option Json) :=
  match b.source.read? r with
  | none => .ok none
  | some v =>
    match b.transform with
    | none => .ok (some v)
    | some t => (t.apply formats v).map some

end Binding

end ContractDocs
