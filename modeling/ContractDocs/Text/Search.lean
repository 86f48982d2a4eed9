/-
Searching a text for another.
-/

namespace ContractDocs.Text

/-- Does one text occur in another? The empty text occurs in every text. -/
def occursIn (needle : List Char) : List Char → Bool
  | [] => needle.isEmpty
  | c :: cs => needle.isPrefixOf (c :: cs) || occursIn needle cs

/-- Does a text contain another? -/
def contains (s needle : String) : Bool := occursIn needle.toList s.toList

end ContractDocs.Text
