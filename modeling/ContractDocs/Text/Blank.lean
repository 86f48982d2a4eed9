/-
White space: the characters with the Unicode property White_Space, and
text without it at either end.
-/

namespace ContractDocs.Text

/-- The characters with the Unicode property White_Space. -/
def isBlank (c : Char) : Bool :=
  let n := c.toNat
  (0x09 ≤ n && n ≤ 0x0D) || n = 0x20 || n = 0x85 || n = 0xA0 || n = 0x1680
    || (0x2000 ≤ n && n ≤ 0x200A) || n = 0x2028 || n = 0x2029 || n = 0x202F || n = 0x205F
    || n = 0x3000

/-- Leaves out the white space at the start. -/
def trimStart (cs : List Char) : List Char := cs.dropWhile isBlank

/-- Leaves out the white space at the start and at the end. -/
def trimChars (cs : List Char) : List Char := (trimStart (trimStart cs).reverse).reverse

/-- The text without white space at either end. -/
def trim (s : String) : String := String.ofList (trimChars s.toList)

/-- Text of white space alone, the empty text included. -/
def isBlankText (s : String) : Bool := s.toList.all isBlank

end ContractDocs.Text
