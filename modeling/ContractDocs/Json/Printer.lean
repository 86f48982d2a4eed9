/-
The compact text of a JSON value: no spaces, members in the order the object
lists them, characters outside ASCII as they are. Escaped are the quote, the
backslash and the control characters below the space, and nothing else.
-/
import ContractDocs.Json.Basic
import ContractDocs.Decimal.Layout

namespace ContractDocs.Json

/-- The hexadecimal digit of a number below sixteen, in lower case. -/
def hexDigit (n : Nat) : Char := Nat.digitChar n

/-- A character inside a string. -/
def escape (c : Char) : List Char :=
  if c = '"' then ['\\', '"']
  else if c = '\\' then ['\\', '\\']
  else if c = '\x08' then ['\\', 'b']
  else if c = '\x0c' then ['\\', 'f']
  else if c = '\n' then ['\\', 'n']
  else if c = '\r' then ['\\', 'r']
  else if c = '\t' then ['\\', 't']
  else if c.toNat < 0x20 then
    ['\\', 'u', '0', '0', hexDigit (c.toNat / 16), hexDigit (c.toNat % 16)]
  else [c]

/-- A string with its quotes. -/
def quoted (s : String) : List Char := '"' :: s.toList.flatMap escape ++ ['"']

/-- A whole number in decimal digits. -/
def intChars (n : Int) : List Char := Decimal.signed (n < 0) (Decimal.digitChars n.natAbs)

def numberChars : Number → List Char
  | .int n => intChars n
  | .float x => Decimal.json x

mutual

/-- The text of a value. -/
def chars : Json → List Char
  | .null => ['n', 'u', 'l', 'l']
  | .bool true => ['t', 'r', 'u', 'e']
  | .bool false => ['f', 'a', 'l', 's', 'e']
  | .number n => numberChars n
  | .string s => quoted s
  | .array items => '[' :: itemChars items ++ [']']
  | .object members => '{' :: memberChars members ++ ['}']

/-- The texts of items, with commas between them. -/
def itemChars : List Json → List Char
  | [] => []
  | x :: xs => chars x ++ (if xs.isEmpty then [] else ',' :: itemChars xs)

/-- The texts of members, with commas between them. -/
def memberChars : List (String × Json) → List Char
  | [] => []
  | (k, x) :: xs => quoted k ++ ':' :: chars x ++ (if xs.isEmpty then [] else ',' :: memberChars xs)

end

/-- The compact text of a value. -/
def text (v : Json) : String := String.ofList v.chars

end ContractDocs.Json
