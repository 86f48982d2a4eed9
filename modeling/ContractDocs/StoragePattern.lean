/-
Storage patterns: where a document is stored, as a folder and a file name
with `{variable}` placeholders.

A pattern is read once into pieces; `placeholderNames` and `render` both go through
the pieces, so a value that looks like a placeholder is never read as one.
-/
import ContractDocs.Record
import ContractDocs.Json.Decode

namespace ContractDocs

/-- A folder and a file name, both with placeholders. -/
structure StoragePattern where
  folder : String
  filename : String
  deriving DecidableEq

namespace StoragePattern

/-- A text between braces. -/
def braced (cs : List Char) : List Char := '{' :: cs ++ ['}']

/-- The placeholder of a variable, as it is written in a pattern. -/
def placeholder (name : String) : String := String.ofList (braced name.toList)

/-- A piece of a pattern. -/
inductive Piece
  | literal (c : Char)
  | placeholder (name : String)
  deriving DecidableEq

/-- The characters of a variable's name. -/
def isNameChar (c : Char) : Bool := c.isAlphanum || c = '_'

/-- The pieces of a text. `started` holds the characters since a brace that may begin a
placeholder, last first; a placeholder is a name between braces, and any other brace is literal. -/
def piecesFrom (started : Option (List Char)) : List Char → List Piece
  | [] =>
    match started with
    | none => []
    | some name => .literal '{' :: name.reverse.map .literal
  | c :: rest =>
    match started with
    | none => if c = '{' then piecesFrom (some []) rest else .literal c :: piecesFrom none rest
    | some name =>
      if isNameChar c then piecesFrom (some (c :: name)) rest
      else if c = '}' && !name.isEmpty then
        .placeholder (String.ofList name.reverse) :: piecesFrom none rest
      else
        .literal '{' :: name.reverse.map .literal
          ++ (if c = '{' then piecesFrom (some []) rest else .literal c :: piecesFrom none rest)

def pieces (s : String) : List Piece := piecesFrom none s.toList

/-- The names of the placeholders among the pieces. -/
def names (ps : List Piece) : List String :=
  ps.filterMap fun
    | .placeholder name => some name
    | .literal _ => none

/-- The names of the placeholders in their order, with repetitions, those of the folder first. -/
def placeholderNames (p : StoragePattern) : List String :=
  names (pieces p.folder) ++ names (pieces p.filename)

/-! ## Values as parts of a path -/

/-- A separator becomes a hyphen. -/
def replaceSeparator (c : Char) : Char := if c = '/' || c = '\\' then '-' else c

/-- Are there two dots in a row? -/
def hasDotPair : List Char → Bool
  | '.' :: '.' :: _ => true
  | _ :: rest => hasDotPair rest
  | [] => false

/-- One dot for each pair of dots, from the left. -/
def mergeDotPairs : List Char → List Char
  | '.' :: '.' :: rest => '.' :: mergeDotPairs rest
  | c :: rest => c :: mergeDotPairs rest
  | [] => []

theorem length_mergeDotPairs_le (cs : List Char) : (mergeDotPairs cs).length ≤ cs.length := by
  fun_induction mergeDotPairs cs with
  | case1 rest ih =>
    simp only [List.length_cons]
    omega
  | case2 c rest _ ih =>
    simp only [List.length_cons]
    omega
  | case3 => exact Nat.le_refl _

theorem length_mergeDotPairs_lt {cs : List Char} (h : hasDotPair cs = true) :
    (mergeDotPairs cs).length < cs.length := by
  fun_induction hasDotPair cs with
  | case1 rest =>
    have := length_mergeDotPairs_le rest
    simp only [mergeDotPairs, List.length_cons]
    omega
  | case2 c rest hne ih =>
    rw [mergeDotPairs]
    · have := ih h
      simp only [List.length_cons]
      omega
    · exact hne
  | case3 => simp at h

/-- Merges pairs of dots until there is none. -/
def collapseDots (cs : List Char) : List Char :=
  if h : hasDotPair cs = true then
    have := length_mergeDotPairs_lt h
    collapseDots (mergeDotPairs cs)
  else cs
termination_by cs.length

/-- A text that can be a part of a path: it has no separator and no two dots in a row. -/
def pathSegment (cs : List Char) : List Char := collapseDots (cs.map replaceSeparator)

/-! ## Rendering -/

/-- The text of a piece; a variable without a value has none. -/
def fillPiece (vars : Dict Json) : Piece → List Char
  | .literal c => [c]
  | .placeholder name =>
    match vars.get? name with
    | some v => pathSegment v.display.toList
    | none => []

/-- The text of a part of the pattern. -/
def fill (vars : Dict Json) (s : String) : List Char := (pieces s).flatMap (fillPiece vars)

/-- Leaves out the strokes at the end. -/
def trimStrokes (cs : List Char) : List Char := (cs.reverse.dropWhile (· = '/')).reverse

/-- The destination: the folder without strokes at its end, a stroke, and the file name; the file
name alone when there is no folder. -/
def render (p : StoragePattern) (vars : Dict Json) : String :=
  let folder := trimStrokes (fill vars p.folder)
  let filename := fill vars p.filename
  String.ofList (if folder.isEmpty then filename else folder ++ '/' :: filename)

def toJson (p : StoragePattern) : Json :=
  .object [("folder", .string p.folder), ("filename", .string p.filename)]

end StoragePattern

namespace Json.Decode

def storagePattern : Decoder StoragePattern := fun v => do
  let m ← members (closedRecord "StoragePattern"
    [("folder", check string), ("filename", check string)]) v
  return ⟨← m.need "folder" string, ← m.need "filename" string⟩

end Json.Decode

end ContractDocs
