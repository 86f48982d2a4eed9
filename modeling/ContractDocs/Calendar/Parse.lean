/-
Reading dates by a pattern, and RFC 3339 timestamps.

Numbers may have white space in front and any number of digits up to their
width; white space in a pattern stands for any white space or none. Names
are read in any case. The whole text must be taken.
-/
import ContractDocs.Calendar.Clues
import ContractDocs.Calendar.Format
import ContractDocs.Decimal.Numeral

namespace ContractDocs.Calendar

/-- What is known so far, and the text that is left. -/
abbrev ScanState := Clues × List Char

namespace Scan

/-- Takes a character, which must be there. -/
def char? (c : Char) : List Char → Option (List Char)
  | [] => none
  | d :: rest => if d = c then some rest else none

/-- Takes at least `least` and at most `most` digits; the number must fit 64 bits with a sign. -/
def number? (least most : Nat) (cs : List Char) : Option (Int × List Char) :=
  let digits := (cs.takeWhile Decimal.isDigit).take most
  let n := Decimal.digitsValue digits
  if digits.length < least || 9223372036854775808 ≤ n then none else some (n, cs.drop digits.length)

/-- Takes a number of any length with a sign, or one up to a width without. -/
def signedNumber? (width : Nat) : List Char → Option (Int × List Char)
  | '-' :: rest => (number? 1 rest.length rest).map fun (n, rest) => (-n, rest)
  | '+' :: rest => number? 1 rest.length rest
  | cs => number? 1 width cs

/-- The letter in lower case, for ASCII. -/
def sameLetter (a b : Char) : Bool := a.toLower = b.toLower

/-- Takes a word in any case. -/
def word? : List Char → List Char → Option (List Char)
  | [], cs => some cs
  | _ :: _, [] => none
  | w :: ws, c :: cs => if sameLetter w c then word? ws cs else none

/-- Takes the first three letters of a name, then the rest of it if `full` allows; gives the place
of the name. -/
def name? (names : List String) (full : Bool) (cs : List Char) : Option (Nat × List Char) :=
  names.zipIdx.findSome? fun (name, i) =>
    (word? (name.toList.take 3) cs).map fun rest =>
      if full then (i, (word? (name.toList.drop 3) rest).getD rest) else (i, rest)

/-- Takes digits after a point as nanoseconds; what comes after the ninth has no weight. -/
def nanoseconds? (cs : List Char) : Option (Int × List Char) := do
  let (n, rest) ← number? 1 9 cs
  let places := cs.length - rest.length
  return (n * Nat.pow 10 (9 - places), rest.dropWhile Decimal.isDigit)

/-- Takes exactly so many digits after a point. -/
def fixedNanoseconds? (places : Nat) (cs : List Char) : Option (Int × List Char) := do
  let (n, rest) ← number? places places cs
  return (n * Nat.pow 10 (9 - places), rest)

def twoDigits? : List Char → Option (Int × List Char) := number? 2 2

/-- Takes the minutes of an offset. -/
def offsetMinutes? (style : OffsetStyle) (cs : List Char) : Option (Int × List Char) :=
  if cs.isEmpty then (if style.minutesOptional then some (0, []) else none)
  else do
    let (minutes, rest) ← twoDigits? cs
    if 59 < minutes then none else return (minutes, rest)

/-- Takes an offset from universal time, in seconds. A minus sign may also be U+2212. -/
def offset? (style : OffsetStyle) (cs : List Char) : Option (Int × List Char) :=
  match cs with
  | [] => none
  | sign :: rest =>
    if style.zulu && (sign = 'Z' || sign = 'z') then some (0, rest)
    else if sign = '+' || sign = '-' || sign = '\u2212' then do
      let (hours, rest) ← twoDigits? rest
      let rest ←
        if style.looseSeparator then some (rest.dropWhile fun c => c = ':' || Text.isBlank c)
        else char? ':' rest
      let (minutes, rest) ← offsetMinutes? style rest
      let seconds := hours * 3600 + minutes * 60
      return (if sign = '+' then seconds else -seconds, rest)
    else none

end Scan

/-- The longest text that a number without a sign may have. -/
def NumberKind.width : NumberKind → Nat
  | .year | .isoYear => 4
  | .quarter | .daysSinceSunday | .dayOfWeek => 1
  | .ordinal => 3
  | .nanosecond => 9
  | _ => 2

/-- What a number says. -/
def NumberKind.clues? (cs : Clues) (v : Int) : NumberKind → Option Clues
  | .year => cs.add? .year v
  | .century => cs.add? .century v
  | .yearOfCentury => cs.add? .yearOfCentury v
  | .isoYear => cs.add? .isoYear v
  | .isoYearOfCentury => cs.add? .isoYearOfCentury v
  | .quarter => cs.add? .quarter v
  | .month => cs.add? .month v
  | .day => cs.add? .day v
  | .weekFromSunday => cs.add? .weekFromSunday v
  | .weekFromMonday => cs.add? .weekFromMonday v
  | .isoWeek => cs.add? .isoWeek v
  | .daysSinceSunday => if v < 0 || 6 < v then none else cs.add? .weekday ((v + 6) % 7)
  | .dayOfWeek => cs.add? .weekday (v - 1)
  | .ordinal => cs.add? .ordinal v
  | .hour =>
    if v < 0 || 23 < v then none
    else (cs.add? .halfDay (v / 12)).bind fun cs => cs.add? .hourOfHalf (v % 12)
  | .hourOfHalf => if v < 1 || 12 < v then none else cs.add? .hourOfHalf (v % 12)
  | .minute => cs.add? .minute v
  | .second => cs.add? .second v
  | .nanosecond => cs.add? .nanosecond v
  | .timestamp => cs.add? .timestamp v

/-- Takes a number of a pattern. -/
def NumberKind.scan? (kind : NumberKind) : ScanState → Option ScanState := fun (known, cs) => do
  let cs := Text.trimStart cs
  let (v, rest) ← match kind with
    | .year | .isoYear => Scan.signedNumber? kind.width cs
    | .timestamp => Scan.number? 1 cs.length cs
    | _ => Scan.number? 1 kind.width cs
  return (← kind.clues? known v, rest)

/-- Takes a name of a pattern. -/
def scanName? (names : List String) (full : Bool) (clue : Clue) (first : Int) :
    ScanState → Option ScanState := fun (known, cs) => do
  let (i, rest) ← Scan.name? names full cs
  return (← known.add? clue (first + i), rest)

/-- Takes the part of a text that a piece of a pattern stands for. -/
def Piece.scan? : Piece → ScanState → Option ScanState
  | .literal c, (known, cs) => do return (known, ← Scan.char? c cs)
  | .space _, (known, cs) => some (known, Text.trimStart cs)
  | .number kind _, p => kind.scan? p
  | .monthName full, p => scanName? monthNames full .month 1 p
  | .weekdayName full, p => scanName? weekdayNames full .weekday 0 p
  | .halfDay, p => scanName? ["am", "pm"] false .halfDay 0 p
  | .fraction, (known, '.' :: cs) => do
    let (n, rest) ← Scan.nanoseconds? cs
    return (← known.add? .nanosecond n, rest)
  | .fixedFraction places, (known, '.' :: cs) => do
    let (n, rest) ← Scan.fixedNanoseconds? places cs
    return (← known.add? .nanosecond n, rest)
  | .fraction, p | .fixedFraction _, p => some p
  | .fractionDigits places, (known, cs) => do
    let (n, rest) ← Scan.fixedNanoseconds? places cs
    return (← known.add? .nanosecond n, rest)
  | .zoneName, (known, cs) => some (known, cs.dropWhile fun c => !Text.isBlank c)
  | .offset style, (known, cs) => do
    let cs := Text.trimStart cs
    let (seconds, rest) ←
      match if style.utcName then Scan.word? ['u', 't', 'c'] cs else none with
      | some rest => some (0, rest)
      | none => Scan.offset? style cs
    return (← known.add? .offset seconds, rest)
  | .timeMark, (known, c :: cs) => if c = 'T' || c = 't' || c = ' ' then some (known, cs) else none
  | .timeMark, (_, []) => none

/-- Takes the parts of a text that the pieces of a pattern stand for, one after the other. -/
def Pattern.scan? (p : Pattern) (start : ScanState) : Option ScanState :=
  p.foldlM (fun state piece => piece.scan? state) start

/-- Reads a text by a pattern; the whole text must be taken. -/
def Pattern.clues? (p : Pattern) (cs : List Char) : Option Clues :=
  match p.scan? ([], cs) with
  | some (known, []) => some known
  | _ => none

/-- The date of a text that is written by a pattern. -/
def Pattern.parse? (p : Pattern) (cs : List Char) : Option Date := (p.clues? cs).bind Clues.date?

/-! ## RFC 3339 -/

/-- Takes a number of exactly so many digits. -/
def scanExact? (kind : NumberKind) (width : Nat) : ScanState → Option ScanState :=
  fun (known, cs) => do
    let (v, rest) ← Scan.number? width width cs
    return (← kind.clues? known v, rest)

/-- The greatest offset: 23 hours and 59 minutes. -/
def maxOffset : Int := (23 * 60 + 59) * 60

/-- What an RFC 3339 timestamp says: date, `T` or a space, time of day, offset, all with their full
number of digits. -/
def rfc3339Clues? (cs : List Char) : Option Clues := do
  let p ← scanExact? .year 4 ([], cs)
  let p ← (Piece.literal '-').scan? p
  let p ← scanExact? .month 2 p
  let p ← (Piece.literal '-').scan? p
  let p ← scanExact? .day 2 p
  let p ← Piece.timeMark.scan? p
  let p ← scanExact? .hour 2 p
  let p ← (Piece.literal ':').scan? p
  let p ← scanExact? .minute 2 p
  let p ← (Piece.literal ':').scan? p
  let p ← scanExact? .second 2 p
  let (known, cs) ← Piece.fraction.scan? p
  let (seconds, rest) ← Scan.offset? ⟨true, false, false, false⟩ cs
  if !rest.isEmpty || maxOffset < seconds || seconds < -maxOffset then none else return known

/-- The date of an RFC 3339 timestamp, in its own offset. -/
def Date.ofRfc3339? (cs : List Char) : Option Date := (rfc3339Clues? cs).bind Clues.date?

end ContractDocs.Calendar
