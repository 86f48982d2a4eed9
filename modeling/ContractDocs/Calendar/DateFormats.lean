/-
Reading the dates of records: the ISO forms first, then further patterns in
their order. Writing a date by a pattern that comes from a catalog.
-/
import ContractDocs.Calendar.Parse

namespace ContractDocs

open Calendar

/-- Why a date could not be read or written. -/
inductive DateError
  | empty
  | unreadable (text : String)
  | badPattern (pattern : String)
  deriving DecidableEq

def DateError.message : DateError → String
  | .empty => "Empty date string"
  | .unreadable text => "Invalid date: " ++ text
  | .badPattern pattern => "Invalid date format pattern: " ++ pattern

/-- The patterns accepted besides the ISO forms. -/
structure DateFormats where
  patterns : List String
  deriving DecidableEq

namespace DateFormats

/-- Day, month and year, with strokes or hyphens. -/
def standard : DateFormats := ⟨["%d/%m/%Y", "%d-%m-%Y"]⟩

instance : Inhabited DateFormats := ⟨standard⟩

/-- The date of a text written by a pattern; none by what is no pattern. -/
def parseBy? (pattern : String) (cs : List Char) : Option Date :=
  (Pattern.ofText? pattern).bind fun p => p.parse? cs

/-- The forms that are always accepted, in the order in which they are tried. -/
def parseIso? (cs : List Char) : Option Date :=
  parseBy? "%Y-%m-%d" cs
    <|> Date.ofRfc3339? cs
    <|> parseBy? "%Y-%m-%dT%H:%M:%S" cs
    <|> parseBy? "%Y-%m-%dT%H:%M:%S%.f" cs

/-- Reads a date, white space around it aside. -/
def parse (formats : DateFormats) (text : String) : Except DateError Date :=
  let cs := Text.trimChars text.toList
  if cs.isEmpty then .error .empty
  else
    match parseIso? cs <|> formats.patterns.findSome? (parseBy? · cs) with
    | some d => .ok d
    | none => .error (.unreadable (String.ofList cs))

end DateFormats

/-- Is the text a pattern? -/
def checkDatePattern (pattern : String) : Except DateError Unit :=
  match Pattern.ofText? pattern with
  | some _ => .ok ()
  | none => .error (.badPattern pattern)

/-- Writes a date by a pattern. -/
def formatDate (d : Date) (pattern : String) : Except DateError String :=
  match (Pattern.ofText? pattern).bind (Pattern.format? d) with
  | some cs => .ok (String.ofList cs)
  | none => .error (.badPattern pattern)

end ContractDocs
