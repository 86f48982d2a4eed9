/-
Bytes in hexadecimal: two digits for each byte, in lower case.
-/

namespace ContractDocs.Digest

def hexChars (bytes : List UInt8) : List Char :=
  bytes.flatMap fun b => [Nat.digitChar (b.toNat / 16), Nat.digitChar (b.toNat % 16)]

/-- The text of the bytes. -/
def hex (bytes : List UInt8) : String := String.ofList (hexChars bytes)

end ContractDocs.Digest
