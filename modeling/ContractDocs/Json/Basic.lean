/-
JSON values. A whole number and a fraction are different values (`1` is not
`1.0`), and an object lists its members in the order of their names, each
name once, when it comes from `Json.ofText?` or from a dictionary.
-/
import ContractDocs.Dict

namespace ContractDocs

/-- A number: a whole number as long as it fits sixty-four bits, signed or unsigned, and a binary
fraction otherwise. -/
inductive Number
  | int (n : Int)
  | float (x : Float)
  deriving DecidableEq

namespace Number

/-- The whole numbers that are kept exactly. -/
def fits (n : Int) : Bool := -9223372036854775808 ≤ n && n < 18446744073709551616

/-- The nearest binary number. -/
def toFloat : Number → Float
  | .int n => Float.ofInt n
  | .float x => x

/-- Equality of numbers as values: of fractions by value, so the zeros are equal, and never of a
whole number and a fraction. -/
def same : Number → Number → Bool
  | .int m, .int n => m == n
  | .float x, .float y => x == y
  | _, _ => false

end Number

/-- A JSON value. -/
inductive Json
  | null
  | bool (b : Bool)
  | number (n : Number)
  | string (s : String)
  | array (items : List Json)
  | object (members : List (String × Json))

instance : Inhabited Json := ⟨.null⟩

namespace Json

def int (n : Int) : Json := .number (.int n)

def float (x : Float) : Json := .number (.float x)

/-- A fraction as a value; one that is not finite has none but null. -/
def ofFloat (x : Float) : Json := if x.isFinite then .float x else .null

/-- The object with the entries of a dictionary. -/
def ofDict (d : Dict Json) : Json := .object d.entries

/-- An object with the given members, put in order. -/
def ofMembers (members : List (String × Json)) : Json := ofDict (Dict.ofList members)

/-- The member of an object under a name. -/
def get? (v : Json) (name : String) : Option Json :=
  match v with
  | .object members => Dict.lookup name members
  | _ => none

mutual

/-- The value with the members of all objects in the order of their names. -/
def sorted : Json → Json
  | .array items => .array (sortedItems items)
  | .object members => .ofMembers (sortedMembers members)
  | v => v

def sortedItems : List Json → List Json
  | [] => []
  | x :: xs => sorted x :: sortedItems xs

def sortedMembers : List (String × Json) → List (String × Json)
  | [] => []
  | (k, x) :: es => (k, sorted x) :: sortedMembers es

end

/-! Equality of values, numbers by `Number.same`. -/

mutual

def same : Json → Json → Bool
  | .null, .null => true
  | .bool a, .bool b => a == b
  | .number m, .number n => m.same n
  | .string s, .string t => s == t
  | .array xs, .array ys => sameItems xs ys
  | .object es, .object fs => sameMembers es fs
  | _, _ => false

def sameItems : List Json → List Json → Bool
  | [], [] => true
  | x :: xs, y :: ys => same x y && sameItems xs ys
  | _, _ => false

def sameMembers : List (String × Json) → List (String × Json) → Bool
  | [], [] => true
  | (k, x) :: xs, (j, y) :: ys => k == j && same x y && sameMembers xs ys
  | _, _ => false

end

end Json

end ContractDocs
