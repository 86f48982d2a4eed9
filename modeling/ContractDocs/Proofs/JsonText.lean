/-
The text of a JSON value is read as that value: first as words, then as a
tree that has the numbers as they are written.

`Tree.ofText?_text`: the tree that a text is read as. `text_injective`: no two
values have the same text, whatever is nested in them, as no two have the same
tree.
-/
import ContractDocs.Proofs.WrittenNumbers

namespace ContractDocs.Json

open Decimal

/-! ## The words of a value -/

mutual

/-- The words of the text of a value. -/
def tokens : Json → List Token
  | .null => [.null]
  | .bool b => [.bool b]
  | .number n => [.number (numberChars n)]
  | .string s => [.string (some s)]
  | .array items => .openArray :: itemTokens items ++ [.closeArray]
  | .object members => .openObject :: memberTokens members ++ [.closeObject]

def itemTokens : List Json → List Token
  | [] => []
  | x :: xs => tokens x ++ (if xs.isEmpty then [] else .comma :: itemTokens xs)

def memberTokens : List (String × Json) → List Token
  | [] => []
  | (k, x) :: xs =>
    .string (some k) :: .colon :: tokens x ++ (if xs.isEmpty then [] else .comma :: memberTokens xs)

end

namespace Token

/-! ### Strings -/

/-- The ways in which a character stands in a string. -/
inductive Escaped (c : Char) : List Char → Prop
  /-- As a letter after a backslash. -/
  | letter {e : Char} (h : escaped? e = some c) (plain : e ≠ 'u') : Escaped c ['\\', e]
  /-- By its number. -/
  | number (control : c.toNat < 0x20) :
    Escaped c ['\\', 'u', '0', '0', hexDigit (c.toNat / 16), hexDigit (c.toNat % 16)]
  | plain (quote : c ≠ '"') (backslash : c ≠ '\\') (visible : 0x20 ≤ c.toNat) : Escaped c [c]

theorem escaped_escape (c : Char) : Escaped c (escape c) := by
  unfold escape
  split_ifs with h h h h h h h control
  · exact .letter (e := '"') (by rw [h]; rfl) (by decide)
  · exact .letter (e := '\\') (by rw [h]; rfl) (by decide)
  · exact .letter (e := 'b') (by rw [h]; rfl) (by decide)
  · exact .letter (e := 'f') (by rw [h]; rfl) (by decide)
  · exact .letter (e := 'n') (by rw [h]; rfl) (by decide)
  · exact .letter (e := 'r') (by rw [h]; rfl) (by decide)
  · exact .letter (e := 't') (by rw [h]; rfl) (by decide)
  · exact .number control
  · exact .plain ‹_› ‹_› (Nat.le_of_not_lt control)

/-- The piece that a character is read as. -/
def Reads (c : Char) (p : Piece) : Prop := p = .char c ∨ c.toNat < 0x20 ∧ p = .unit c.toNat

theorem unit?_hexDigit : ∀ n < 0x20,
    unit? '0' '0' (hexDigit (n / 16)) (hexDigit (n % 16)) = some n := by
  decide

theorem pieces?_escape (c : Char) : ∃ p, Reads c p ∧
    ∀ read rest, pieces? read (escape c ++ rest) = pieces? (p :: read) rest := by
  have h := escaped_escape c
  generalize escape c = cs at h
  cases h with
  | @letter e h plain =>
    refine ⟨.char c, .inl rfl, fun read rest => ?_⟩
    show pieces? read ('\\' :: e :: rest) = _
    rw [pieces?, h]
    intro a b c d rest same
    cases same
    exact absurd rfl plain
  | number control =>
    refine ⟨.unit c.toNat, .inr ⟨control, rfl⟩, fun read rest => ?_⟩
    simp [pieces?, unit?_hexDigit c.toNat control]
  | plain quote backslash visible =>
    refine ⟨.char c, .inl rfl, fun read rest => ?_⟩
    show pieces? read (c :: rest) = _
    rw [pieces?, if_neg (Nat.not_lt.2 visible)]
    · exact quote
    · exact fun _ _ _ _ _ same => absurd same backslash
    · exact fun _ _ same => absurd same backslash

theorem pieces?_flatMap_escape (cs : List Char) : ∃ ps, List.Forall₂ Reads cs ps ∧
    ∀ read rest, pieces? read (cs.flatMap escape ++ '"' :: rest) =
      some (ps.reverse ++ read, rest) := by
  induction cs with
  | nil => exact ⟨[], .nil, fun read rest => by simp [pieces?]⟩
  | cons c cs ih =>
    obtain ⟨p, reads, hp⟩ := pieces?_escape c
    obtain ⟨ps, all, hps⟩ := ih
    refine ⟨p :: ps, .cons reads all, fun read rest => ?_⟩
    rw [List.flatMap_cons, List.append_assoc, hp, hps]
    simp

theorem characters?_of_reads {cs : List Char} {ps : List Piece} (h : List.Forall₂ Reads cs ps) :
    characters? ps = some cs := by
  induction h with
  | nil => rfl
  | @cons c p cs ps reads _ ih =>
    rcases reads with rfl | ⟨control, rfl⟩
    · simp [characters?, ih]
    · have leading : ¬ 0xD800 ≤ c.toNat := by omega
      rw [characters?.eq_def]
      simp [scalar?, leading, ih]

/-- A string is read as its text. -/
theorem ofChars?_quoted (s : String) (rest : List Char) :
    ofChars? (quoted s ++ rest) = (ofChars? rest).map (.string (some s) :: ·) := by
  obtain ⟨ps, reads, hps⟩ := pieces?_flatMap_escape s.toList
  have text : textOf? ps.reverse = some s := by
    rw [textOf?, List.reverse_reverse, characters?_of_reads reads, Option.map_some,
      String.ofList_toList]
  have chars : quoted s ++ rest = '"' :: (s.toList.flatMap escape ++ '"' :: rest) := by
    simp [quoted]
  rw [chars, ofChars?, if_neg (by decide), if_pos rfl]
  split
  · next read rest' h =>
    rw [hps, List.append_nil] at h
    cases h
    rw [text]
  · next h =>
    rw [hps] at h
    cases h

/-! ### Punctuation, literals and numbers -/

theorem not_isWordChar_of_isSpace {c : Char} (h : isSpace c = true) : isWordChar c = false := by
  simp only [isSpace, Bool.or_eq_true, decide_eq_true_eq] at h
  rcases h with ((rfl | rfl) | rfl) | rfl <;> decide

theorem not_isWordChar_of_punctuation? {c : Char} {t : Token} (h : punctuation? c = some t) :
    isWordChar c = false := by
  unfold punctuation? at h
  split at h <;> first | decide | cases h

theorem not_isSpace_of_punctuation? {c : Char} {t : Token} (h : punctuation? c = some t) :
    isSpace c = false := by
  unfold punctuation? at h
  split at h <;> first | decide | cases h

theorem ofChars?_punctuation {c : Char} {t : Token} (h : punctuation? c = some t)
    (cs : List Char) : ofChars? (c :: cs) = (ofChars? cs).map (t :: ·) := by
  have quote : c ≠ '"' := by
    rintro rfl
    cases h
  rw [ofChars?, not_isSpace_of_punctuation? h, if_neg Bool.false_ne_true, if_neg quote, h]

/-- What follows a literal or a number and belongs to none. -/
def EndsWord (rest : List Char) : Prop := ∀ c ∈ rest.head?, isWordChar c = false

theorem ofChars?_word {w rest : List Char} {t : Token} (nonempty : w ≠ [])
    (chars : ∀ c ∈ w, isWordChar c = true) (h : word? w = some t) (ends : EndsWord rest) :
    ofChars? (w ++ rest) = (ofChars? rest).map (t :: ·) := by
  obtain ⟨c, cs, rfl⟩ := List.exists_cons_of_ne_nil nonempty
  rw [List.forall_mem_cons] at chars
  have space : isSpace c = false := by
    rw [Bool.eq_false_iff]
    exact fun hs => Bool.false_ne_true ((not_isWordChar_of_isSpace hs).symm.trans chars.1)
  have quote : c ≠ '"' := by
    rintro rfl
    exact absurd chars.1 (by decide)
  have punctuation : punctuation? c = none := by
    rw [Option.eq_none_iff_forall_ne_some]
    exact fun t ht =>
      Bool.false_ne_true ((not_isWordChar_of_punctuation? ht).symm.trans chars.1)
  have rest_take : rest.takeWhile isWordChar = [] ∧ rest.dropWhile isWordChar = rest := by
    cases rest with
    | nil => simp
    | cons d rest => simp [ends d rfl]
  have taken : (cs ++ rest).takeWhile isWordChar = cs := by
    rw [List.takeWhile_append_of_pos chars.2, rest_take.1, List.append_nil]
  have left : (cs ++ rest).dropWhile isWordChar = rest := by
    rw [List.dropWhile_append_of_pos chars.2, rest_take.2]
  rw [List.cons_append, ofChars?, space, if_neg Bool.false_ne_true, if_neg quote, punctuation]
  simp only [taken, left, h]

theorem isWordChar_of_isDigit {c : Char} (h : isDigit c = true) : isWordChar c = true := by
  have : c.isDigit = true := h
  simp [isWordChar, Char.isAlphanum, this]

theorem isWordChar_of_mem_numberChars {n : Number} {c : Char} (h : c ∈ numberChars n) :
    isWordChar c = true := by
  obtain ⟨negative, w, wellFormed, chars⟩ := exists_written n
  rw [chars] at h
  rcases w.mem_signed wellFormed h with digit | other
  · exact isWordChar_of_isDigit digit
  · simp only [List.mem_cons, List.not_mem_nil, or_false] at other
    rcases other with rfl | rfl | rfl | rfl <;> decide

/-- A number is none of the literals. -/
theorem word?_of_isNumber {cs : List Char} (h : isNumber cs = true) :
    word? cs = some (.number cs) := by
  have other : ∀ ds, isNumber ds = false → cs ≠ ds := by
    rintro ds no rfl
    exact Bool.false_ne_true (no.symm.trans h)
  rw [word?, if_neg (other _ (by decide)), if_neg (other _ (by decide)),
    if_neg (other _ (by decide)), if_pos h]

theorem ofChars?_numberChars (n : Number) {rest : List Char} (ends : EndsWord rest) :
    ofChars? (numberChars n ++ rest) = (ofChars? rest).map (.number (numberChars n) :: ·) := by
  have number := isNumber_numberChars n
  refine ofChars?_word ?_ (fun c => isWordChar_of_mem_numberChars) (word?_of_isNumber number) ends
  intro empty
  rw [empty] at number
  exact absurd number (by decide)

/-! ### Values -/

mutual

/-- The text of a value is read as the words of the value. -/
theorem ofChars?_chars (v : Json) {rest : List Char} (ends : EndsWord rest) :
    ofChars? (v.chars ++ rest) = (ofChars? rest).map (v.tokens ++ ·) := by
  cases v with
  | null =>
    rw [chars]
    exact ofChars?_word (List.cons_ne_nil _ _) (by simp [isWordChar]) rfl ends
  | bool b =>
    cases b with
    | true =>
      rw [chars]
      exact ofChars?_word (List.cons_ne_nil _ _) (by simp [isWordChar]) rfl ends
    | false =>
      rw [chars]
      exact ofChars?_word (List.cons_ne_nil _ _) (by simp [isWordChar]) rfl ends
  | number n => exact ofChars?_numberChars n ends
  | string s => exact ofChars?_quoted s rest
  | array items =>
    have closing : EndsWord (']' :: rest) := by simp [EndsWord, isWordChar]
    simp only [chars, tokens, List.cons_append, List.append_assoc, List.nil_append]
    rw [ofChars?_punctuation rfl, ofChars?_itemChars items closing, ofChars?_punctuation rfl]
    simp [Option.map_map, Function.comp_def]
  | object members =>
    have closing : EndsWord ('}' :: rest) := by simp [EndsWord, isWordChar]
    simp only [chars, tokens, List.cons_append, List.append_assoc, List.nil_append]
    rw [ofChars?_punctuation rfl, ofChars?_memberChars members closing, ofChars?_punctuation rfl]
    simp [Option.map_map, Function.comp_def]

theorem ofChars?_itemChars (xs : List Json) {rest : List Char} (ends : EndsWord rest) :
    ofChars? (itemChars xs ++ rest) = (ofChars? rest).map (itemTokens xs ++ ·) := by
  cases xs with
  | nil => simp [itemChars, itemTokens]
  | cons x xs =>
    simp only [itemChars, itemTokens, List.append_assoc]
    cases xs with
    | nil => simpa using ofChars?_chars x ends
    | cons y ys =>
      have next : EndsWord (',' :: (itemChars (y :: ys) ++ rest)) := by
        simp [EndsWord, isWordChar]
      simp only [List.isEmpty_cons, Bool.false_eq_true, ↓reduceIte, List.cons_append]
      rw [ofChars?_chars x next, ofChars?_punctuation rfl, ofChars?_itemChars (y :: ys) ends]
      simp [Option.map_map, Function.comp_def]

theorem ofChars?_memberChars (es : List (String × Json)) {rest : List Char}
    (ends : EndsWord rest) :
    ofChars? (memberChars es ++ rest) = (ofChars? rest).map (memberTokens es ++ ·) := by
  cases es with
  | nil => simp [memberChars, memberTokens]
  | cons e es =>
    obtain ⟨k, x⟩ := e
    simp only [memberChars, memberTokens, List.append_assoc, List.cons_append]
    rw [ofChars?_quoted, ofChars?_punctuation rfl]
    cases es with
    | nil =>
      simp only [List.isEmpty_nil, ↓reduceIte, List.nil_append]
      rw [ofChars?_chars x ends]
      simp [Option.map_map, Function.comp_def]
    | cons f fs =>
      have next : EndsWord (',' :: (memberChars (f :: fs) ++ rest)) := by
        simp [EndsWord, isWordChar]
      simp only [List.isEmpty_cons, Bool.false_eq_true, ↓reduceIte, List.cons_append]
      rw [ofChars?_chars x next, ofChars?_punctuation rfl, ofChars?_memberChars (f :: fs) ends]
      simp [Option.map_map, Function.comp_def]

end

end Token

/-! ## The tree of a value -/

mutual

/-- A value with its numbers as they are written. -/
def toTree : Json → Tree
  | .null => .null
  | .bool b => .bool b
  | .number n => .number (numberChars n)
  | .string s => .string (some s)
  | .array items => .array (toTrees items)
  | .object members => .object (toTreeMembers members)

def toTrees : List Json → List Tree
  | [] => []
  | x :: xs => toTree x :: toTrees xs

def toTreeMembers : List (String × Json) → List (Option String × Tree)
  | [] => []
  | (k, x) :: es => (some k, toTree x) :: toTreeMembers es

end

namespace Tree

open State

/-- The first word of a value opens no further container and closes none. -/
theorem exists_tokens (v : Json) : ∃ t ts, v.tokens = t :: ts ∧ t ≠ .closeArray := by
  cases v <;> exact ⟨_, _, rfl, nofun⟩

theorem step_firstItem {t : Token} (h : t ≠ .closeArray) (outer : List Frame) :
    step (.firstItem outer) t = step (.value (.array [] :: outer)) t := by
  cases t <;> first | rfl | exact absurd rfl h

/-- The first item is read like the others. -/
theorem foldlM_firstItem (v : Json) (rest : List Token) (outer : List Frame) :
    (v.tokens ++ rest).foldlM step (.firstItem outer) =
      (v.tokens ++ rest).foldlM step (.value (.array [] :: outer)) := by
  obtain ⟨t, ts, tokens, other⟩ := exists_tokens v
  rw [tokens, List.cons_append, List.foldlM_cons, List.foldlM_cons, step_firstItem other]

/-- The first name is read like the others. -/
theorem foldlM_firstKey (e : String × Json) (es : List (String × Json)) (rest : List Token)
    (outer : List Frame) :
    (memberTokens (e :: es) ++ rest).foldlM step (.firstKey outer) =
      (memberTokens (e :: es) ++ rest).foldlM step (.key [] outer) := rfl

mutual

/-- The words of a value deliver its tree. -/
theorem foldlM_tokens (v : Json) (outer : List Frame) :
    v.tokens.foldlM step (.value outer) = some (.deliver v.toTree outer) := by
  cases v with
  | null => rfl
  | bool b => rfl
  | number n => rfl
  | string s => rfl
  | array items =>
    cases items with
    | nil => rfl
    | cons x xs =>
      have read := foldlM_itemTokens (x :: xs) (List.cons_ne_nil _ _) [] outer
      rw [itemTokens] at read
      show (itemTokens (x :: xs) ++ [Token.closeArray]).foldlM step (.firstItem outer) = _
      rw [itemTokens, List.append_assoc, foldlM_firstItem, ← List.append_assoc,
        List.foldlM_append, read]
      simp [step, toTree, pure]
  | object members =>
    cases members with
    | nil => rfl
    | cons e es =>
      show (memberTokens (e :: es) ++ [Token.closeObject]).foldlM step (.firstKey outer) = _
      rw [foldlM_firstKey, List.foldlM_append,
        foldlM_memberTokens (e :: es) (List.cons_ne_nil _ _) [] outer]
      simp [step, toTree, pure]

/-- The words of items add their trees to those before. -/
theorem foldlM_itemTokens (xs : List Json) (nonempty : xs ≠ []) (items : List Tree)
    (outer : List Frame) :
    (itemTokens xs).foldlM step (.value (.array items :: outer)) =
      some (.afterItem ((toTrees xs).reverse ++ items) outer) := by
  cases xs with
  | nil => exact absurd rfl nonempty
  | cons x xs =>
    rw [itemTokens, List.foldlM_append, foldlM_tokens x]
    cases xs with
    | nil => rfl
    | cons y ys =>
      have read := foldlM_itemTokens (y :: ys) (List.cons_ne_nil _ _) (x.toTree :: items) outer
      show (itemTokens (y :: ys)).foldlM step (.value (.array (x.toTree :: items) :: outer)) = _
      rw [read]
      simp [toTrees]

/-- The words of members add their trees to those before. -/
theorem foldlM_memberTokens (es : List (String × Json)) (nonempty : es ≠ [])
    (members : List (Option String × Tree)) (outer : List Frame) :
    (memberTokens es).foldlM step (.key members outer) =
      some (.afterMember ((toTreeMembers es).reverse ++ members) outer) := by
  cases es with
  | nil => exact absurd rfl nonempty
  | cons e es =>
    obtain ⟨k, x⟩ := e
    show (x.tokens ++ (if es.isEmpty then [] else .comma :: memberTokens es)).foldlM step
      (.value (.object members (some k) :: outer)) = _
    rw [List.foldlM_append, foldlM_tokens x]
    cases es with
    | nil => rfl
    | cons f fs =>
      have read := foldlM_memberTokens (f :: fs) (List.cons_ne_nil _ _)
        ((some k, x.toTree) :: members) outer
      show (memberTokens (f :: fs)).foldlM step (.key ((some k, x.toTree) :: members) outer) = _
      rw [read]
      simp [toTreeMembers]

end

/-- **The text of a value is read as its tree.** -/
theorem ofText?_text (v : Json) : Tree.ofText? v.text = some v.toTree := by
  have ends : Token.EndsWord [] := by simp [Token.EndsWord]
  have words := Token.ofChars?_chars v ends
  have read := foldlM_tokens v []
  rw [List.append_nil] at words
  rw [ofText?, text, String.toList_ofList, words]
  simp only [Token.ofChars?, Option.map_some, List.append_nil, Option.bind_some, ofTokens?, read]
  rfl

end Tree

/-! ## Different values have different texts -/

mutual

theorem eq_of_toTree {v w : Json} (h : v.toTree = w.toTree) : v = w := by
  cases v <;> cases w <;> simp only [toTree, reduceCtorEq, Tree.bool.injEq, Tree.number.injEq,
    Tree.string.injEq, Tree.array.injEq, Tree.object.injEq, Option.some.injEq] at h
  · rfl
  · rw [h]
  · rw [numberChars_injective h]
  · rw [h]
  · rw [eq_of_toTrees h]
  · rw [eq_of_toTreeMembers h]

theorem eq_of_toTrees {xs ys : List Json} (h : toTrees xs = toTrees ys) : xs = ys := by
  cases xs <;> cases ys <;> simp only [toTrees, reduceCtorEq, List.cons.injEq] at h
  · rfl
  · rw [eq_of_toTree h.1, eq_of_toTrees h.2]

theorem eq_of_toTreeMembers {es fs : List (String × Json)}
    (h : toTreeMembers es = toTreeMembers fs) : es = fs := by
  cases es with
  | nil =>
    cases fs with
    | nil => rfl
    | cons f fs => cases h
  | cons e es =>
    cases fs with
    | nil => cases h
    | cons f fs =>
      simp only [toTreeMembers, List.cons.injEq, Prod.mk.injEq, Option.some.injEq] at h
      rw [eq_of_toTreeMembers h.2, Prod.ext h.1.1 (eq_of_toTree h.1.2)]

end

/-- **No two values have the same text.** -/
theorem text_injective : Function.Injective text := by
  intro v w h
  have trees := (Tree.ofText?_text v).symm.trans (h ▸ Tree.ofText?_text w)
  exact eq_of_toTree (Option.some.inj trees)

end ContractDocs.Json
