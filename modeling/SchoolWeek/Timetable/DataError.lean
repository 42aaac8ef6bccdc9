import SchoolWeek.Date.Text

/-! What can be wrong with data that is offered or stored, and the sentence that
says so. -/
namespace SchoolWeek

/-- A fault in the content of data. -/
inductive DataError
  | entryPeriod (day : Weekday) (period : Nat)
  | entrySubject (day : Weekday) (period : Nat)
  | duplicateEntry (day : Weekday) (period : Nat)
  | weekday (value : Int)
  | period (value : Int)
  | date (text : String) (reason : TimeTextError)
  | timestamp (text : String) (reason : TimeTextError)
  | weekdayGlyph (text : String)
  | noEntries
  | snapshotVersion (version : Nat)
  | other (text : String)
  deriving DecidableEq, Repr

namespace DataError

/-- A cell of the timetable, as `月3`. -/
def cellText (day : Weekday) (number : Nat) : String :=
  day.glyph.toString ++ String.ofList (Text.decimal number)

/-- The sentence for a number that is no period. -/
def periodRange (value : Int) : String :=
  "period " ++ String.ofList (Text.signedDecimal value) ++ " out of range 1..=9"

def message : DataError → String
  | .entryPeriod day number => "entry " ++ cellText day number ++ " has period outside 1..=9"
  | .entrySubject day number => "entry " ++ cellText day number ++ " requires a non-empty subject"
  | .duplicateEntry day number => "duplicate entry for " ++ cellText day number
  | .weekday value => "invalid weekday " ++ String.ofList (Text.signedDecimal value)
  | .period value => periodRange value
  | .date text reason => "invalid date '" ++ text ++ "': " ++ reason.message
  | .timestamp text reason => "invalid timestamp '" ++ text ++ "': " ++ reason.message
  | .weekdayGlyph text => "invalid weekday '" ++ text ++ "'"
  | .noEntries => "CSV file contained no timetable entries"
  | .snapshotVersion version =>
    "unsupported timetable snapshot version " ++ String.ofList (Text.decimal version)
  | .other text => text

end DataError
end SchoolWeek
