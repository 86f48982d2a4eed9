/-
SHA-256 of a list of bytes.

The message is padded to blocks of sixteen words, every block is expanded to
sixty-four words, and each of these takes the state one round further.
-/

namespace ContractDocs.Digest

/-- The eight words of the state. -/
structure State where
  a : UInt32
  b : UInt32
  c : UInt32
  d : UInt32
  e : UInt32
  f : UInt32
  g : UInt32
  h : UInt32
  deriving DecidableEq

/-- The fractional parts of the square roots of the first eight primes. -/
def initialState : State :=
  ⟨0x6a09e667, 0xbb67ae85, 0x3c6ef372, 0xa54ff53a, 0x510e527f, 0x9b05688c, 0x1f83d9ab, 0x5be0cd19⟩

/-- The fractional parts of the cube roots of the first sixty-four primes. -/
def roundConstants : List UInt32 := [
  0x428a2f98, 0x71374491, 0xb5c0fbcf, 0xe9b5dba5, 0x3956c25b, 0x59f111f1, 0x923f82a4, 0xab1c5ed5,
  0xd807aa98, 0x12835b01, 0x243185be, 0x550c7dc3, 0x72be5d74, 0x80deb1fe, 0x9bdc06a7, 0xc19bf174,
  0xe49b69c1, 0xefbe4786, 0x0fc19dc6, 0x240ca1cc, 0x2de92c6f, 0x4a7484aa, 0x5cb0a9dc, 0x76f988da,
  0x983e5152, 0xa831c66d, 0xb00327c8, 0xbf597fc7, 0xc6e00bf3, 0xd5a79147, 0x06ca6351, 0x14292967,
  0x27b70a85, 0x2e1b2138, 0x4d2c6dfc, 0x53380d13, 0x650a7354, 0x766a0abb, 0x81c2c92e, 0x92722c85,
  0xa2bfe8a1, 0xa81a664b, 0xc24b8b70, 0xc76c51a3, 0xd192e819, 0xd6990624, 0xf40e3585, 0x106aa070,
  0x19a4c116, 0x1e376c08, 0x2748774c, 0x34b0bcb5, 0x391c0cb3, 0x4ed8aa4a, 0x5b9cca4f, 0x682e6ff3,
  0x748f82ee, 0x78a5636f, 0x84c87814, 0x8cc70208, 0x90befffa, 0xa4506ceb, 0xbef9a3f7, 0xc67178f2]

/-! ## Words and bytes -/

/-- Turns the bits of a word to the right. -/
def rotate (x n : UInt32) : UInt32 := (x >>> n) ||| (x <<< (32 - n))

/-- A word of four bytes, the highest first. -/
def wordOf (a b c d : UInt8) : UInt32 :=
  (a.toUInt32 <<< 24) ||| (b.toUInt32 <<< 16) ||| (c.toUInt32 <<< 8) ||| d.toUInt32

/-- The words of the bytes; what is left over is dropped. -/
def wordsOf : List UInt8 → List UInt32
  | a :: b :: c :: d :: rest => wordOf a b c d :: wordsOf rest
  | _ => []

/-- The bytes of a number, the highest first. -/
def bytesOf (count : Nat) (n : Nat) : List UInt8 :=
  (List.range count).reverse.map fun i => UInt8.ofNat (n / Nat.pow 256 i)

/-- The message, a bit that is set, bits that are not, and the length of the message in bits, to a
whole number of blocks. -/
def padded (message : List UInt8) : List UInt8 :=
  let gap := (119 - message.length % 64) % 64
  message ++ 0x80 :: List.replicate gap 0 ++ bytesOf 8 (8 * message.length)

/-! ## Rounds -/

/-- Adds words to those of a block, which stand in reverse. -/
def expand : Nat → List UInt32 → List UInt32
  | 0, words => words
  | n + 1, words =>
    let x := words.getD 14 0
    let y := words.getD 1 0
    let early := rotate x 7 ^^^ rotate x 18 ^^^ (x >>> 3)
    let late := rotate y 17 ^^^ rotate y 19 ^^^ (y >>> 10)
    expand n ((words.getD 15 0 + early + words.getD 6 0 + late) :: words)

/-- The sixty-four words of a block of sixteen. -/
def schedule (block : List UInt32) : List UInt32 := (expand 48 block.reverse).reverse

/-- One round with a constant and a word. -/
def State.round (s : State) (step : UInt32 × UInt32) : State :=
  let choice := (s.e &&& s.f) ^^^ (~~~s.e &&& s.g)
  let majority := (s.a &&& s.b) ^^^ (s.a &&& s.c) ^^^ (s.b &&& s.c)
  let fromE := s.h + (rotate s.e 6 ^^^ rotate s.e 11 ^^^ rotate s.e 25) + choice + step.1 + step.2
  let fromA := (rotate s.a 2 ^^^ rotate s.a 13 ^^^ rotate s.a 22) + majority
  ⟨fromE + fromA, s.a, s.b, s.c, s.d + fromE, s.e, s.f, s.g⟩

def State.add (s t : State) : State :=
  ⟨s.a + t.a, s.b + t.b, s.c + t.c, s.d + t.d, s.e + t.e, s.f + t.f, s.g + t.g, s.h + t.h⟩

/-- Takes in one block. -/
def State.absorb (s : State) (block : List UInt32) : State :=
  s.add ((roundConstants.zip (schedule block)).foldl State.round s)

/-- Takes in all blocks. -/
def State.absorbAll (s : State) (words : List UInt32) : State :=
  if words.length < 16 then s else (s.absorb (words.take 16)).absorbAll (words.drop 16)
termination_by words.length
decreasing_by simp only [List.length_drop]; omega

def State.bytes (s : State) : List UInt8 :=
  [s.a, s.b, s.c, s.d, s.e, s.f, s.g, s.h].flatMap fun w => bytesOf 4 w.toNat

/-- The thirty-two bytes of the digest. -/
def sha256 (message : List UInt8) : List UInt8 :=
  (initialState.absorbAll (wordsOf (padded message))).bytes

end ContractDocs.Digest
