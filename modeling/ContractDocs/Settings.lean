/-
Settings of the engine, and their JSON form.

Settings are read from the text directly: members are taken in the order of
the text, a known name may not come twice, and members of other names are
skipped without a look at their values.
-/
import ContractDocs.Calendar.Months
import ContractDocs.ConfigError
import ContractDocs.Json.Tree

namespace ContractDocs

/-- What the validation, the compilation and the registry depend on besides the catalog. -/
structure Settings where
  durationPolicy : DurationPolicy
  /-- A disagreement between rules and checks is an error. -/
  strictRuleCoverage : Bool
  dateFormats : DateFormats
  /-- Appended to the name of a template to name its blueprint. -/
  blueprintSuffix : String
  /-- Missing fields are filled from the defaults of the type. -/
  applyDefaults : Bool
  deriving DecidableEq

/-- The counts of months by name. -/
def DurationPolicy.named : List (String × DurationPolicy) :=
  [("thirty_day_months", .thirtyDayMonths), ("calendar_months", .calendarMonths)]

def DurationPolicy.name : DurationPolicy → String
  | .thirtyDayMonths => "thirty_day_months"
  | .calendarMonths => "calendar_months"

def Json.Decode.durationPolicy : Json.Decoder DurationPolicy :=
  Json.Decode.choice DurationPolicy.named

namespace Settings

def standard : Settings := ⟨.thirtyDayMonths, false, .standard, "document pipeline", true⟩

instance : Inhabited Settings := ⟨standard⟩

def toJson (s : Settings) : Json :=
  .object [("duration_policy", .string s.durationPolicy.name),
    ("strict_rule_coverage", .bool s.strictRuleCoverage),
    ("accepted_date_formats", .array (s.dateFormats.patterns.map .string)),
    ("blueprint_name_suffix", .string s.blueprintSuffix),
    ("apply_defaults", .bool s.applyDefaults)]

open Json Json.Decode

/-! ## Reading -/

/-- The value of a part of a text; the text has one, or it is not JSON at all. -/
def valueIn (t : Tree) : Except LoadFailure Json :=
  match t.valueAt? 1 with
  | some v => .ok v
  | none => .error .notJson

/-- A part of a text, decoded as a value. -/
def part (d : Decoder α) (t : Tree) : Except LoadFailure α := do
  (d (← valueIn t)).mapError .undecodable

/-- A count of months in a text. What cannot begin a name is no value at all there, and neither is
what follows the first member of an object. -/
def policyIn : Tree → Except LoadFailure DurationPolicy
  | .string s => part Decode.durationPolicy (.string s)
  | .object (first :: rest) => do
    let p ← part Decode.durationPolicy (.object [first])
    if rest.isEmpty then return p else throw (.undecodable .expectedValue)
  | _ => .error (.undecodable .expectedValue)

/-- Sets a field to what a part of a text says. -/
abbrev Setter := Settings → Tree → Except LoadFailure Settings

/-- The fields in the order of their declaration. -/
def fields : List (String × Setter) :=
  [("duration_policy", fun s t => do return { s with durationPolicy := ← policyIn t }),
    ("strict_rule_coverage", fun s t => do
      return { s with strictRuleCoverage := ← part boolean t }),
    ("accepted_date_formats", fun s t => do
      return { s with dateFormats := ⟨← part (list string) t⟩ }),
    ("blueprint_name_suffix", fun s t => do return { s with blueprintSuffix := ← part string t }),
    ("apply_defaults", fun s t => do return { s with applyDefaults := ← part boolean t })]

/-- Sets the fields that an object names; `seen` are the known names before. -/
def setMembers (s : Settings) (seen : List String) :
    List (Option String × Tree) → Except LoadFailure Settings
  | [] => .ok s
  | (none, _) :: _ => .error .notJson
  | (some k, t) :: rest =>
    match fields.lookup k with
    | none => setMembers s seen rest
    | some set => do
      if seen.contains k then throw (.undecodable (.duplicateField k))
      setMembers (← set s t) (k :: seen) rest

/-- Sets the fields one after the other, as far as there are items. -/
def setItems (s : Settings) : List (String × Setter) → List Tree → Except LoadFailure Settings
  | _, [] => .ok s
  | [], _ :: _ => .error (.undecodable .trailingCharacters)
  | (_, set) :: rest, t :: items => do setItems (← set s t) rest items

/-- The settings that a text writes; a field that it leaves out has its standard. -/
def ofTree : Tree → Except LoadFailure Settings
  | .object members => setMembers standard [] members
  | .array items => setItems standard fields items
  | t => do throw (.undecodable (.wrongType (← valueIn t) (.record "struct EngineConfig")))

/-- Reads settings. A text that is no JSON value is called that whatever else is wrong with it. -/
def ofText (s : String) : Except LoadFailure Settings :=
  match Tree.ofText? s with
  | none => .error .notJson
  | some t =>
    match ofTree t with
    | .ok settings => .ok settings
    | .error e => if t.value?.isNone then .error .notJson else .error e

/-- Reads settings that are given as a text. -/
def ofInlineText (s : String) : Except ConfigError Settings :=
  (ofText s).mapError (.unloadable "<inline engine config>")

/-- Reads settings that stand in a file, if the file is there. -/
def ofFile (path : String) (content : Option String) : Except ConfigError Settings :=
  let loaded := match content with
    | some s => ofText s
    | none => .error .noSuchFile
  loaded.mapError (.unloadable path)

end Settings

end ContractDocs
