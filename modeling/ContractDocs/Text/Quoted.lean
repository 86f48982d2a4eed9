/-
Texts and lists of texts in quotes, as they appear in messages. A quote and
a backslash are escaped, and so is every character that would not be visible
on its own.
-/
import ContractDocs.Text.Hidden

namespace ContractDocs.Text

/-- A character between quotes. -/
def quoteChar (c : Char) : List Char :=
  if c = '\x00' then ['\\', '0']
  else if c = '\t' then ['\\', 't']
  else if c = '\r' then ['\\', 'r']
  else if c = '\n' then ['\\', 'n']
  else if c = '\\' then ['\\', '\\']
  else if c = '"' then ['\\', '"']
  else if isHidden c then ['\\', 'u', '{'] ++ Nat.toDigits 16 c.toNat ++ ['}']
  else [c]

/-- A text in quotes. -/
def quote (s : String) : String := String.ofList ('"' :: s.toList.flatMap quoteChar ++ ['"'])

/-- A list of texts, each in quotes, in brackets. -/
def quoteList (ss : List String) : String := "[" ++ ", ".intercalate (ss.map quote) ++ "]"

end ContractDocs.Text
