/-
The words of JSON text: punctuation, literals, numbers and strings, with
white space left out.

A number is kept as it is written. A string whose escapes name half of a
character (an unpaired surrogate) is a word, but has no text.
-/
import ContractDocs.Decimal.Numeral

namespace ContractDocs.Json

/-- A word of JSON text. -/
inductive Token
  | openArray
  | closeArray
  | openObject
  | closeObject
  | comma
  | colon
  | null
  | bool (b : Bool)
  | number (written : List Char)
  | string (text : Option String)
  deriving DecidableEq

namespace Token

/-- The four characters that may stand between words. -/
def isSpace (c : Char) : Bool := c = ' ' || c = '\t' || c = '\n' || c = '\r'

/-! ## Strings -/

/-- What a string is made of: characters, and code units written by number. -/
inductive Piece
  | char (c : Char)
  | unit (n : Nat)

def hexValue? (c : Char) : Option Nat :=
  if Decimal.isDigit c then some (c.toNat - '0'.toNat)
  else if 'a' ≤ c && c ≤ 'f' then some (c.toNat - 'a'.toNat + 10)
  else if 'A' ≤ c && c ≤ 'F' then some (c.toNat - 'A'.toNat + 10)
  else none

/-- The code unit that four hexadecimal digits write. -/
def unit? (a b c d : Char) : Option Nat := do
  let a ← hexValue? a
  let b ← hexValue? b
  let c ← hexValue? c
  let d ← hexValue? d
  return ((a * 16 + b) * 16 + c) * 16 + d

/-- The character that a backslash and a letter stand for. -/
def escaped? (c : Char) : Option Char :=
  match c with
  | '"' => some '"'
  | '\\' => some '\\'
  | '/' => some '/'
  | 'b' => some '\x08'
  | 'f' => some '\x0c'
  | 'n' => some '\n'
  | 'r' => some '\r'
  | 't' => some '\t'
  | _ => none

/-- Reads up to the closing quote; the pieces come last first. -/
def pieces? (read : List Piece) : List Char → Option (List Piece × List Char)
  | [] => none
  | '"' :: rest => some (read, rest)
  | '\\' :: 'u' :: a :: b :: c :: d :: rest =>
    match unit? a b c d with
    | some n => pieces? (.unit n :: read) rest
    | none => none
  | '\\' :: c :: rest =>
    match escaped? c with
    | some e => pieces? (.char e :: read) rest
    | none => none
  | c :: rest => if c.toNat < 0x20 then none else pieces? (.char c :: read) rest

theorem length_of_pieces? {read : List Piece} {cs : List Char} {ps : List Piece}
    {rest : List Char} (h : pieces? read cs = some (ps, rest)) : rest.length < cs.length := by
  fun_induction pieces? read cs <;> simp_all <;> grind

/-- The character of a code unit that is none of a pair. -/
def scalar? (n : Nat) : Option Char :=
  if 0xD800 ≤ n && n ≤ 0xDFFF then none else some (Char.ofNat n)

/-- The characters of the pieces: a leading unit and the trailing unit after it are one character,
and neither stands alone. -/
def characters? : List Piece → Option (List Char)
  | [] => some []
  | .char c :: rest => (characters? rest).map (c :: ·)
  | .unit n :: rest =>
    if 0xD800 ≤ n && n ≤ 0xDBFF then
      match rest with
      | .unit m :: rest =>
        if 0xDC00 ≤ m && m ≤ 0xDFFF then
          (characters? rest).map
            (Char.ofNat (0x10000 + (n - 0xD800) * 0x400 + (m - 0xDC00)) :: ·)
        else none
      | _ => none
    else do
      let c ← scalar? n
      return c :: (← characters? rest)

def textOf? (pieces : List Piece) : Option String :=
  (characters? pieces.reverse).map String.ofList

/-! ## Numbers -/

/-- No superfluous zero in front. -/
def isWhole : List Char → Bool
  | [] => false
  | ['0'] => true
  | c :: cs => c ≠ '0' && (c :: cs).all Decimal.isDigit

/-- Nothing, or an exponent. -/
def isExponent : List Char → Bool
  | [] => true
  | c :: cs => (c = 'e' || c = 'E') && (Decimal.signedDigits? cs).isSome

/-- Nothing, or a point with digits, then nothing or an exponent. -/
def isFraction : List Char → Bool
  | '.' :: cs => (cs.takeWhile Decimal.isDigit) ≠ [] && isExponent (cs.dropWhile Decimal.isDigit)
  | cs => isExponent cs

/-- `[-] digits [. digits] [e [sign] digits]`. -/
def isNumber (cs : List Char) : Bool :=
  let body := match cs with
    | '-' :: rest => rest
    | _ => cs
  isWhole (body.takeWhile Decimal.isDigit) && isFraction (body.dropWhile Decimal.isDigit)

/-! ## Words -/

/-- The characters of literals and numbers. -/
def isWordChar (c : Char) : Bool := c.isAlphanum || c = '+' || c = '-' || c = '.'

/-- A literal or a number. -/
def word? (cs : List Char) : Option Token :=
  if cs = ['n', 'u', 'l', 'l'] then some .null
  else if cs = ['t', 'r', 'u', 'e'] then some (.bool true)
  else if cs = ['f', 'a', 'l', 's', 'e'] then some (.bool false)
  else if isNumber cs then some (.number cs)
  else none

def punctuation? (c : Char) : Option Token :=
  match c with
  | '[' => some .openArray
  | ']' => some .closeArray
  | '{' => some .openObject
  | '}' => some .closeObject
  | ',' => some .comma
  | ':' => some .colon
  | _ => none

/-- The words of a text; none if it has anything else. -/
def ofChars? : List Char → Option (List Token)
  | [] => some []
  | c :: cs =>
    if isSpace c then ofChars? cs
    else if c = '"' then
      match h : pieces? [] cs with
      | some (ps, rest) =>
        have : rest.length < cs.length := length_of_pieces? h
        (ofChars? rest).map (.string (textOf? ps) :: ·)
      | none => none
    else
      match punctuation? c with
      | some t => (ofChars? cs).map (t :: ·)
      | none =>
        have : (cs.dropWhile isWordChar).length ≤ cs.length := (List.dropWhile_suffix _).length_le
        match word? (c :: cs.takeWhile isWordChar) with
        | some t => (ofChars? (cs.dropWhile isWordChar)).map (t :: ·)
        | none => none
termination_by cs => cs.length

end Token

end ContractDocs.Json
