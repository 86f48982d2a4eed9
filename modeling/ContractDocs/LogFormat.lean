/-
Log formats by name.
-/
import ContractDocs.Text.Blank

namespace ContractDocs

/-- How log lines are written. -/
inductive LogFormat
  | pretty
  | compact
  | json
  deriving DecidableEq

/-- A name that no log format has. -/
structure UnknownLogFormat where
  name : String
  deriving DecidableEq

def UnknownLogFormat.message (e : UnknownLogFormat) : String :=
  "Observability error: unknown log format '" ++ e.name ++ "'"

namespace LogFormat

def name : LogFormat → String
  | .pretty => "pretty"
  | .compact => "compact"
  | .json => "json"

/-- The names that are understood; the compact format has two. -/
def named : List (String × LogFormat) :=
  [("pretty", .pretty), ("compact", .compact), ("text", .compact), ("json", .json)]

/-- The format with a name, in any case of the ASCII letters and between white space. -/
def ofName (s : String) : Except UnknownLogFormat LogFormat :=
  let name := String.ofList ((Text.trim s).toList.map Char.toLower)
  match named.lookup name with
  | some f => .ok f
  | none => .error ⟨name⟩

end LogFormat

end ContractDocs
