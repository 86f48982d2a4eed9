/-
Date patterns: text with `%` specifiers, as a list of pieces.

A pattern serves two ends. Written for a date, a piece gives text, unless it
asks for a time of day or an offset, which a date does not have. Read from a
text, each piece takes its part of the text and says something about the
date.
-/
import ContractDocs.Text.Blank

namespace ContractDocs.Calendar

/-- How a number is filled up to its width. -/
inductive Pad
  | none
  | space
  | zero
  deriving DecidableEq

/-- What a number stands for. -/
inductive NumberKind
  | year
  | century
  | yearOfCentury
  | isoYear
  | isoYearOfCentury
  | quarter
  | month
  | day
  | weekFromSunday
  | weekFromMonday
  | isoWeek
  | daysSinceSunday
  | dayOfWeek
  | ordinal
  | hour
  | hourOfHalf
  | minute
  | second
  | nanosecond
  | timestamp
  deriving DecidableEq

/-- How an offset from universal time may be written. -/
structure OffsetStyle where
  /-- `Z` is an offset of zero. -/
  zulu : Bool
  /-- So is `UTC`, in any case. -/
  utcName : Bool
  /-- The minutes may be missing. -/
  minutesOptional : Bool
  /-- Any run of colons and white space, an empty one too, separates hours and minutes; otherwise
  one colon does. -/
  looseSeparator : Bool
  deriving DecidableEq

/-- A piece of a pattern. -/
inductive Piece
  | literal (c : Char)
  | space (c : Char)
  | number (kind : NumberKind) (pad : Pad)
  /-- The name of the month, in full or its first three letters. -/
  | monthName (full : Bool)
  /-- The name of the day of the week, in full or its first three letters. -/
  | weekdayName (full : Bool)
  /-- AM or PM. -/
  | halfDay
  /-- A point and digits after it, or nothing. -/
  | fraction
  /-- A point and exactly so many digits, or nothing. -/
  | fixedFraction (places : Nat)
  /-- Exactly so many digits. -/
  | fractionDigits (places : Nat)
  | zoneName
  | offset (style : OffsetStyle)
  /-- What separates date and time: `T` in either case, or a space. -/
  | timeMark
  deriving DecidableEq

/-- A date pattern. -/
abbrev Pattern := List Piece

namespace Pattern

/-- A literal text. -/
def ofLiteral (s : String) : Pattern := s.toList.map .literal

def plainOffset : OffsetStyle := ⟨false, false, false, true⟩

/-- The timestamp that `%+` reads, which is looser than RFC 3339. -/
def timestamp : Pattern :=
  [.number .year .zero, .space ' ', .literal '-', .number .month .zero, .space ' ', .literal '-',
    .number .day .zero, .timeMark, .number .hour .zero, .space ' ', .literal ':',
    .number .minute .zero, .space ' ', .literal ':', .number .second .zero, .fraction, .space ' ',
    .offset ⟨true, true, false, true⟩]

/-- The pieces of a specifier of one letter. -/
def specifier? (c : Char) : Option Pattern :=
  let time : Pattern :=
    [.number .hour .zero, .literal ':', .number .minute .zero, .literal ':', .number .second .zero]
  let monthDayYear : Pattern :=
    [.number .month .zero, .literal '/', .number .day .zero, .literal '/',
      .number .yearOfCentury .zero]
  match c with
  | 'A' => some [.weekdayName true]
  | 'B' => some [.monthName true]
  | 'C' => some [.number .century .zero]
  | 'D' => some monthDayYear
  | 'F' => some
      [.number .year .zero, .literal '-', .number .month .zero, .literal '-', .number .day .zero]
  | 'G' => some [.number .isoYear .zero]
  | 'H' => some [.number .hour .zero]
  | 'I' => some [.number .hourOfHalf .zero]
  | 'M' => some [.number .minute .zero]
  | 'P' => some [.halfDay]
  | 'R' => some [.number .hour .zero, .literal ':', .number .minute .zero]
  | 'S' => some [.number .second .zero]
  | 'T' => some time
  | 'U' => some [.number .weekFromSunday .zero]
  | 'V' => some [.number .isoWeek .zero]
  | 'W' => some [.number .weekFromMonday .zero]
  | 'X' => some time
  | 'Y' => some [.number .year .zero]
  | 'Z' => some [.zoneName]
  | 'a' => some [.weekdayName false]
  | 'b' => some [.monthName false]
  | 'c' => some
      ([.weekdayName false, .space ' ', .monthName false, .space ' ', .number .day .space,
        .space ' '] ++ time ++ [.space ' ', .number .year .zero])
  | 'd' => some [.number .day .zero]
  | 'e' => some [.number .day .space]
  | 'f' => some [.number .nanosecond .zero]
  | 'g' => some [.number .isoYearOfCentury .zero]
  | 'h' => some [.monthName false]
  | 'j' => some [.number .ordinal .zero]
  | 'k' => some [.number .hour .space]
  | 'l' => some [.number .hourOfHalf .space]
  | 'm' => some [.number .month .zero]
  | 'n' => some [.space '\n']
  | 'p' => some [.halfDay]
  | 'q' => some [.number .quarter .none]
  | 'r' => some
      [.number .hourOfHalf .zero, .literal ':', .number .minute .zero, .literal ':',
        .number .second .zero, .space ' ', .halfDay]
  | 's' => some [.number .timestamp .none]
  | 't' => some [.space '\t']
  | 'u' => some [.number .dayOfWeek .none]
  | 'v' => some
      [.number .day .space, .literal '-', .monthName false, .literal '-', .number .year .zero]
  | 'w' => some [.number .daysSinceSunday .none]
  | 'x' => some monthDayYear
  | 'y' => some [.number .yearOfCentury .zero]
  | 'z' => some [.offset plainOffset]
  | '+' => some timestamp
  | '%' => some [.literal '%']
  | _ => none

/-- A specifier with a flag for the padding: only a single number can have one. -/
def padded? (pad : Pad) (c : Char) : Option Pattern :=
  match specifier? c with
  | some [.number kind _] => some [.number kind pad]
  | _ => none

/-- Puts the pieces before the rest, if both are there. -/
def followedBy (ps : Option Pattern) (rest : Option Pattern) : Option Pattern := do
  return (← ps) ++ (← rest)

/-- The pieces of a pattern; none if a `%` does not begin a specifier. -/
def ofChars? : List Char → Option Pattern
  | [] => some []
  | '%' :: '-' :: c :: rest => followedBy (padded? .none c) (ofChars? rest)
  | '%' :: '_' :: c :: rest => followedBy (padded? .space c) (ofChars? rest)
  | '%' :: '0' :: c :: rest => followedBy (padded? .zero c) (ofChars? rest)
  | '%' :: '#' :: 'z' :: rest =>
    followedBy (some [.offset ⟨true, false, true, true⟩]) (ofChars? rest)
  | '%' :: ':' :: 'z' :: rest => followedBy (some [.offset plainOffset]) (ofChars? rest)
  | '%' :: ':' :: ':' :: 'z' :: rest => followedBy (some [.offset plainOffset]) (ofChars? rest)
  | '%' :: ':' :: ':' :: ':' :: 'z' :: rest =>
    followedBy (some [.offset plainOffset]) (ofChars? rest)
  | '%' :: '.' :: 'f' :: rest => followedBy (some [.fraction]) (ofChars? rest)
  | '%' :: '.' :: '3' :: 'f' :: rest => followedBy (some [.fixedFraction 3]) (ofChars? rest)
  | '%' :: '.' :: '6' :: 'f' :: rest => followedBy (some [.fixedFraction 6]) (ofChars? rest)
  | '%' :: '.' :: '9' :: 'f' :: rest => followedBy (some [.fixedFraction 9]) (ofChars? rest)
  | '%' :: '3' :: 'f' :: rest => followedBy (some [.fractionDigits 3]) (ofChars? rest)
  | '%' :: '6' :: 'f' :: rest => followedBy (some [.fractionDigits 6]) (ofChars? rest)
  | '%' :: '9' :: 'f' :: rest => followedBy (some [.fractionDigits 9]) (ofChars? rest)
  | '%' :: c :: rest => followedBy (specifier? c) (ofChars? rest)
  | ['%'] => none
  | c :: rest =>
    followedBy (some [if Text.isBlank c then .space c else .literal c]) (ofChars? rest)

/-- Reads a pattern. -/
def ofText? (s : String) : Option Pattern := ofChars? s.toList

end Pattern

end ContractDocs.Calendar
