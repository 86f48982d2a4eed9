/-
Decoding JSON values into the values of the domain, with errors that say what
was found and what was expected.

The first problem in the order of the value is the error; a missing member
is noticed only after all members that are there. A record may also be
written as an array, its fields in the order of their declaration.
-/
import ContractDocs.Json.Printer
import ContractDocs.Text.Quoted

namespace ContractDocs.Json

/-- What is asked for in a place. -/
inductive Expected
  | string
  | boolean
  | uint32
  | number
  | sequence
  | map
  | unit
  /-- The tag that tells the variants of a tagged type apart. -/
  | tag
  /-- A name, alone or as the only member of an object. -/
  | name
  /-- An object with a single member. -/
  | singleMember
  | record (title : String)
  | tagged (title : String)
  deriving DecidableEq

/-- The number of elements an array should have. -/
inductive Length
  /-- As many as the fields of a record. -/
  | fields (title : String) (count : Nat)
  /-- No more than the fields of a record. -/
  | fewer
  /-- No more than the fields of a variant. -/
  | exactly (count : Nat)
  deriving DecidableEq

/-- Why a value could not be decoded. -/
inductive DecodeError
  | missingField (name : String)
  | duplicateField (name : String)
  | unknownField (name : String) (expected : List String)
  | unknownVariant (name : String) (expected : List String)
  | wrongType (found : Json) (expected : Expected)
  | wrongValue (found : Json) (expected : Expected)
  | wrongLength (found : Nat) (expected : Length)
  /-- A record written as an array has more elements than fields, in a text read on its own. -/
  | trailingCharacters
  /-- A value that cannot begin a name, in a text read on its own. -/
  | expectedValue

/-- How a value that was found is named. -/
def describe : Json → String
  | .null => "null"
  | .bool b => "boolean `" ++ (if b then "true" else "false") ++ "`"
  | .number (.int n) => "integer `" ++ String.ofList (intChars n) ++ "`"
  | .number (.float x) => "floating point `" ++ String.ofList (Decimal.json x) ++ "`"
  | .string s => "string " ++ Text.quote s
  | .array _ => "sequence"
  | .object _ => "map"

def Expected.text : Expected → String
  | .string => "a string"
  | .boolean => "a boolean"
  | .uint32 => "u32"
  | .number => "f64"
  | .sequence => "a sequence"
  | .map => "a map"
  | .unit => "unit"
  | .tag => "variant identifier"
  | .name => "string or map"
  | .singleMember => "map with a single key"
  | .record title => title
  | .tagged title => "internally tagged enum " ++ title

/-- A number of things, with the plural unless it is one. -/
def countText (n : Nat) (noun : String) : String :=
  toString n ++ " " ++ noun ++ if n = 1 then "" else "s"

def Length.text : Length → String
  | .fields title count => title ++ " with " ++ countText count "element"
  | .fewer => "fewer elements in array"
  | .exactly count => countText count "element" ++ " in sequence"

/-- The names that would have been right. -/
def alternatives (names : List String) : String :=
  let quoted := names.map fun n => "`" ++ n ++ "`"
  match quoted with
  | [a, b] => a ++ " or " ++ b
  | _ => "one of " ++ ", ".intercalate quoted

def DecodeError.message : DecodeError → String
  | .missingField name => "missing field `" ++ name ++ "`"
  | .duplicateField name => "duplicate field `" ++ name ++ "`"
  | .unknownField name expected =>
    "unknown field `" ++ name ++ "`, expected " ++ alternatives expected
  | .unknownVariant name expected =>
    "unknown variant `" ++ name ++ "`, expected " ++ alternatives expected
  | .wrongType found expected =>
    "invalid type: " ++ describe found ++ ", expected " ++ expected.text
  | .wrongValue found expected =>
    "invalid value: " ++ describe found ++ ", expected " ++ expected.text
  | .wrongLength found expected =>
    "invalid length " ++ toString found ++ ", expected " ++ expected.text
  | .trailingCharacters => "trailing characters"
  | .expectedValue => "expected value"

/-- A way to decode a value. -/
abbrev Decoder (α : Type) := Json → Except DecodeError α

namespace Decode

/-! ## Simple values -/

def string : Decoder String
  | .string s => .ok s
  | v => .error (.wrongType v .string)

def boolean : Decoder Bool
  | .bool b => .ok b
  | v => .error (.wrongType v .boolean)

/-- A whole number from 0 to 2^32 - 1; a fraction is refused whatever its value. -/
def uint32 : Decoder UInt32
  | .number (.int n) =>
    if 0 ≤ n && n < 4294967296 then .ok (UInt32.ofNat n.toNat)
    else .error (.wrongValue (.number (.int n)) .uint32)
  | v => .error (.wrongType v .uint32)

/-- Any number. -/
def number : Decoder Float
  | .number n => .ok n.toFloat
  | v => .error (.wrongType v .number)

/-- Any value. -/
def value : Decoder Json := .ok

/-- Null for nothing. -/
def option (d : Decoder α) : Decoder (Option α)
  | .null => .ok none
  | v => (d v).map some

def list (d : Decoder α) : Decoder (List α)
  | .array items => items.mapM d
  | v => .error (.wrongType v .sequence)

/-- The members of an object, each decoded. -/
def dict (d : Decoder α) : Decoder (Dict α)
  | .object members => do
    let es ← members.mapM fun (k, v) => do return (k, ← d v)
    return Dict.ofList es
  | v => .error (.wrongType v .map)

/-- One of the given names, alone or as the only member of an object, with null under it. -/
def choice (names : List (String × α)) : Decoder α :=
  let named (s : String) : Except DecodeError α :=
    match names.lookup s with
    | some a => .ok a
    | none => .error (.unknownVariant s (names.map (·.1)))
  fun
  | .string s => named s
  | .object [(s, v)] => do
    let a ← named s
    match v with
    | .null => return a
    | v => throw (.wrongType v .unit)
  | .object members => .error (.wrongValue (.object members) .singleMember)
  | v => .error (.wrongType v .name)

/-! ## Records -/

/-- The form of a record: its fields in the order of their declaration, each with the check of its
value. -/
structure Shape where
  title : String
  fields : List (String × (Json → Except DecodeError Unit))
  /-- Members of other names are refused. -/
  closed : Bool
  /-- It is a variant of a tagged type. -/
  variant : Bool

namespace Shape

def names (s : Shape) : List String := s.fields.map (·.1)

/-- Checks the members of an object in their order. -/
def checkMembers (s : Shape) : List (String × Json) → Except DecodeError Unit
  | [] => .ok ()
  | (k, v) :: rest =>
    match s.fields.lookup k with
    | some check => do
      check v
      s.checkMembers rest
    | none => if s.closed then .error (.unknownField k s.names) else s.checkMembers rest

/-- Checks the elements of an array against the fields in their order. -/
def checkElements : List (String × (Json → Except DecodeError Unit)) → List Json →
    Except DecodeError Unit
  | (_, check) :: fields, v :: rest => do
    check v
    checkElements fields rest
  | _, _ => .ok ()

/-- The complaint about an array with too many elements. -/
def surplus (s : Shape) (found : Nat) : DecodeError :=
  .wrongLength found (if s.variant then .exactly s.fields.length else .fewer)

/-- The complaint about an array that ends before a field that must be there: the place of the
field counts as the length. Fields before it may be missing too, if they have a default. -/
def shortage (s : Shape) (name : String) : DecodeError :=
  .wrongLength (s.names.idxOf name) (.fields s.title s.fields.length)

end Shape

/-- The fields of a record whose values have passed their checks. -/
structure Members where
  entries : List (String × Json)
  /-- The complaint about a field that is not there. -/
  missing : String → DecodeError

/-- The fields of a value that has the form of a record. -/
def members (s : Shape) : Decoder Members
  | .object entries => do
    s.checkMembers entries
    return ⟨entries, .missingField⟩
  | .array items => do
    Shape.checkElements s.fields items
    if s.fields.length < items.length then throw (s.surplus items.length)
    return ⟨s.names.zip items, s.shortage⟩
  | v => .error (.wrongType v (.record s.title))

/-- A field that must be there. -/
def Members.need (m : Members) (name : String) (d : Decoder α) : Except DecodeError α :=
  match Dict.lookup name m.entries with
  | some v => d v
  | none => .error (m.missing name)

/-- A field that may be missing. -/
def Members.orElse (m : Members) (name : String) (d : Decoder α) (default : α) :
    Except DecodeError α :=
  match Dict.lookup name m.entries with
  | some v => d v
  | none => .ok default

/-- The check that a decoder makes of a value. -/
def check (d : Decoder α) (v : Json) : Except DecodeError Unit := (d v).map fun _ => ()

/-- The form of a record that refuses members of other names. -/
def closedRecord (title : String) (fields : List (String × (Json → Except DecodeError Unit))) :
    Shape :=
  ⟨"struct " ++ title, fields, true, false⟩

/-- The form of a record that ignores members of other names. -/
def openRecord (title : String) (fields : List (String × (Json → Except DecodeError Unit))) :
    Shape :=
  ⟨"struct " ++ title, fields, false, false⟩

/-- The form of a variant of a tagged type, which ignores members of other names. -/
def variantShape (type variant : String)
    (fields : List (String × (Json → Except DecodeError Unit))) : Shape :=
  ⟨"struct variant " ++ type ++ "::" ++ variant, fields, false, true⟩

/-- A value of one of several variants, told apart by the member `tag`, or by the first element of
an array; the rest is decoded as the variant. -/
def tagged (title tag : String) (variants : List (String × Decoder α)) : Decoder α :=
  let variant (v : Json) : Except DecodeError (Decoder α) :=
    match v with
    | .string s =>
      match variants.lookup s with
      | some d => .ok d
      | none => .error (.unknownVariant s (variants.map (·.1)))
    | v => .error (.wrongType v .tag)
  fun
  | .object entries =>
    match Dict.lookup tag entries with
    | none => .error (.missingField tag)
    | some v => do (← variant v) (.object (entries.filter (·.1 != tag)))
  | .array [] => .error (.missingField tag)
  | .array (v :: rest) => do (← variant v) (.array rest)
  | v => .error (.wrongType v (.tagged title))

end Decode

end ContractDocs.Json
