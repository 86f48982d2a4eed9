/-
Which patterns write dates. Whether a piece has a text depends on the piece
alone: a date has no time of day and no offset, and has everything else. So a
pattern writes either every date or none.

`exists_formatDate_iff`, `formatDate_eq_error_iff`: which of the two it is.
-/
import ContractDocs.Calendar.DateFormats

namespace ContractDocs

open Calendar

/-- The pattern writes some date. -/
def WritesDates (pattern : String) : Prop := ∃ d text, formatDate d pattern = .ok text

namespace Calendar

/-! ## Pieces that a date has no text for -/

/-- The number belongs to a time of day. -/
def NumberKind.ofTime : NumberKind → Bool
  | .hour | .hourOfHalf | .minute | .second | .nanosecond | .timestamp => true
  | _ => false

/-- The piece asks for a time of day or an offset. -/
def Piece.asksTime : Piece → Bool
  | .number kind _ => kind.ofTime
  | .halfDay | .fraction | .fixedFraction _ | .fractionDigits _ | .zoneName | .offset _
  | .timeMark => true
  | .literal _ | .space _ | .monthName _ | .weekdayName _ => false

/-- Some piece of the pattern asks for a time of day or an offset. -/
def Pattern.asksTime (ps : Pattern) : Bool := ps.any Piece.asksTime

theorem NumberKind.isSome_format? (d : Date) (pad : Pad) (kind : NumberKind) :
    (kind.format? d pad).isSome = !kind.ofTime := by
  cases kind <;> rfl

theorem Piece.isSome_format? (d : Date) (p : Piece) : (p.format? d).isSome = !p.asksTime := by
  cases p with
  | number kind pad => exact kind.isSome_format? d pad
  | _ => rfl

theorem Pattern.isSome_format? (d : Date) (ps : Pattern) :
    (ps.format? d).isSome = !ps.asksTime := by
  have pieces : (ps.mapM (Piece.format? d)).isSome = !ps.asksTime := by
    induction ps with
    | nil => rfl
    | cons p ps ih =>
      have hp := p.isSome_format? d
      rw [asksTime, List.any_cons, Bool.not_or, ← hp, ← asksTime, ← ih, List.mapM_cons]
      cases p.format? d <;> cases ps.mapM (Piece.format? d) <;> rfl
  rw [format?, Option.isSome_map, pieces]

end Calendar

/-! ## Patterns -/

theorem checkDatePattern_eq_ok_iff {pattern : String} :
    checkDatePattern pattern = .ok () ↔ ∃ ps, Pattern.ofText? pattern = some ps := by
  rw [checkDatePattern]
  cases Pattern.ofText? pattern <;> simp

/-- A date is written exactly by the patterns that do not ask for a time. -/
theorem exists_formatDate_iff {d : Date} {pattern : String} :
    (∃ text, formatDate d pattern = .ok text) ↔
      ∃ ps, Pattern.ofText? pattern = some ps ∧ ps.asksTime = false := by
  rw [formatDate]
  cases Pattern.ofText? pattern with
  | none => simp
  | some ps =>
    have written := ps.isSome_format? d
    cases hd : ps.format? d <;> simp_all

theorem formatDate_eq_error_iff {d : Date} {pattern : String} {e : DateError} :
    formatDate d pattern = .error e ↔
      e = .badPattern pattern ∧ ∀ ps, Pattern.ofText? pattern = some ps → ps.asksTime = true := by
  rw [formatDate]
  cases Pattern.ofText? pattern with
  | none => simp [@eq_comm _ e]
  | some ps =>
    have written := ps.isSome_format? d
    cases hd : ps.format? d with
    | none => simp_all [@eq_comm _ e]
    | some cs => simp_all

/-- A pattern that writes one date writes all. -/
theorem WritesDates.formatDate {pattern : String} (h : WritesDates pattern) (d : Date) :
    ∃ text, formatDate d pattern = .ok text := by
  obtain ⟨d', written⟩ := h
  exact exists_formatDate_iff.2 (exists_formatDate_iff.1 written)

end ContractDocs
