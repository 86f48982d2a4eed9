/-
JSON text as a tree: members in the order of the text, repeated names kept,
numbers as written. `Tree.ofText?` reads exactly the texts of the JSON
grammar; `Tree.value?` gives the value, which exists unless a number is too
large, a string has half of a character, or more than 127 arrays and objects
stand one inside the other.
-/
import ContractDocs.Decimal.Scaling
import ContractDocs.Json.Basic
import ContractDocs.Json.Token

namespace ContractDocs.Json

/-- JSON as written. -/
inductive Tree
  | null
  | bool (b : Bool)
  | number (written : List Char)
  | string (text : Option String)
  | array (items : List Tree)
  | object (members : List (Option String × Tree))

instance : Inhabited Tree := ⟨.null⟩

namespace Tree

/-! ## Reading -/

/-- An array or object that is not closed yet, its content last first. -/
inductive Frame
  | array (items : List Tree)
  | object (members : List (Option String × Tree)) (name : Option String)

/-- What may come next, with the containers that are still open, inmost first. -/
inductive State
  /-- A value. -/
  | value (outer : List Frame)
  /-- The first item of an array, or its end. -/
  | firstItem (outer : List Frame)
  /-- The first name of an object, or its end. -/
  | firstKey (outer : List Frame)
  /-- A further name. -/
  | key (members : List (Option String × Tree)) (outer : List Frame)
  /-- The colon after a name. -/
  | colon (members : List (Option String × Tree)) (name : Option String) (outer : List Frame)
  /-- A comma or the end of the array. -/
  | afterItem (items : List Tree) (outer : List Frame)
  /-- A comma or the end of the object. -/
  | afterMember (members : List (Option String × Tree)) (outer : List Frame)
  /-- Nothing more. -/
  | done (t : Tree)

/-- A value is complete: it goes into the inmost open container. -/
def State.deliver (t : Tree) : List Frame → State
  | [] => .done t
  | .array items :: outer => .afterItem (t :: items) outer
  | .object members name :: outer => .afterMember ((name, t) :: members) outer

/-- A word where a value must begin. -/
def State.begin (outer : List Frame) : Token → Option State
  | .null => some (.deliver .null outer)
  | .bool b => some (.deliver (.bool b) outer)
  | .number w => some (.deliver (.number w) outer)
  | .string s => some (.deliver (.string s) outer)
  | .openArray => some (.firstItem outer)
  | .openObject => some (.firstKey outer)
  | _ => none

/-- One word on. -/
def State.step : State → Token → Option State
  | .value outer, t => begin outer t
  | .firstItem outer, .closeArray => some (.deliver (.array []) outer)
  | .firstItem outer, t => begin (.array [] :: outer) t
  | .firstKey outer, .closeObject => some (.deliver (.object []) outer)
  | .firstKey outer, .string s => some (.colon [] s outer)
  | .key members outer, .string s => some (.colon members s outer)
  | .colon members name outer, .colon => some (.value (.object members name :: outer))
  | .afterItem items outer, .comma => some (.value (.array items :: outer))
  | .afterItem items outer, .closeArray => some (.deliver (.array items.reverse) outer)
  | .afterMember members outer, .comma => some (.key members outer)
  | .afterMember members outer, .closeObject => some (.deliver (.object members.reverse) outer)
  | _, _ => none

def ofTokens? (ts : List Token) : Option Tree :=
  match ts.foldlM State.step (.value []) with
  | some (.done t) => some t
  | _ => none

/-- Reads a text. -/
def ofText? (s : String) : Option Tree := (Token.ofChars? s.toList).bind ofTokens?

/-! ## Values -/

/-- A number as written: whole if it has neither point nor exponent, fits and is not `-0`. -/
def number? (written : List Char) : Option Number := do
  let n ← Decimal.Numeral.ofChars? written
  let magnitude := Decimal.digitsValue n.whole
  let signed : Int := if n.negative then -magnitude else magnitude
  if (written.all fun c => c = '-' || Decimal.isDigit c) && Number.fits signed
      && !(n.negative && magnitude = 0) then
    return .int signed
  else n.scaled?.map .float

/-- The greatest number of arrays and objects one inside the other. -/
def maxDepth : Nat := 127

mutual

/-- The value of a tree inside `depth` arrays and objects. A name that is repeated has its last
value. -/
def valueAt? (depth : Nat) : Tree → Option Json
  | .null => some .null
  | .bool b => some (.bool b)
  | .number w => (number? w).map .number
  | .string s => s.map .string
  | .array items =>
    if maxDepth ≤ depth then none else (itemsAt? (depth + 1) items).map .array
  | .object members =>
    if maxDepth ≤ depth then none else (membersAt? (depth + 1) members).map .ofMembers

def itemsAt? (depth : Nat) : List Tree → Option (List Json)
  | [] => some []
  | t :: ts => do return (← valueAt? depth t) :: (← itemsAt? depth ts)

def membersAt? (depth : Nat) : List (Option String × Tree) → Option (List (String × Json))
  | [] => some []
  | (k, t) :: rest => do return (← k, ← valueAt? depth t) :: (← membersAt? depth rest)

end

/-- The value of a tree that stands alone. -/
def value? (t : Tree) : Option Json := t.valueAt? 0

end Tree

/-- Reads a JSON value. -/
def ofText? (s : String) : Option Json := (Tree.ofText? s).bind Tree.value?

end ContractDocs.Json
