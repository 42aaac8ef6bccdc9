import SchoolWeek.Calendar.Event
import SchoolWeek.Remap.Row
import SchoolWeek.Timetable.DataError
import SchoolWeek.Timetable.Entry

/-! What the engine asks of a backend: a weekly timetable, the records of special
dates and a calendar with markers. Each operation takes the state and answers with
a result and the state after it. -/
namespace SchoolWeek

/-- Why the timetable or the records cannot be read or written. -/
inductive StoreError
  | badData (error : DataError)
  | noTimetable
  | io (text : String)
  /-- The database may be read but not written. -/
  | readOnly
  deriving DecidableEq, Repr

/-- How a refused writing into a database is explained. -/
def StoreError.readOnlyText : String := "attempt to write a readonly database"

def StoreError.message : StoreError → String
  | .badData error => "invalid data: " ++ error.message
  | .noTimetable => "no timetable stored"
  | .io text => "io error: " ++ text
  | .readOnly => "sqlite error: " ++ StoreError.readOnlyText

/-- An operation that may fail, on a state it may change. -/
abbrev Operation (σ ε α : Type) := σ → Except ε α × σ

class Backend (σ : Type) where
  /-- The classes of one day, by period. -/
  fetch : Weekday → Operation σ StoreError (List Entry)
  /-- The classes of the week, by day and period. -/
  entries : Operation σ StoreError (List Entry)
  replaceEntries : List Entry → Operation σ StoreError Unit
  /-- Makes this the record of the date, in place of any other. -/
  replace : Date → List Remap → String → Operation σ StoreError Unit
  rows : Date → Operation σ StoreError (List Row)
  /-- Forgets the record of the date and says whether there was one. -/
  clear : Date → Operation σ StoreError Bool
  record : Date → Operation σ StoreError (Option Record)
  /-- The dates from the first to the second that have a record. -/
  specialDates : Date → Date → Operation σ StoreError (List Date)
  findMarker : Date → Operation σ CalendarError (Option Marker)
  /-- Puts one marker on the date in place of those it has, and gives its handle. -/
  createMarker : Date → String → Operation σ CalendarError Int
  deleteMarker : Int → Operation σ CalendarError Unit

namespace Backend

/-- The stored rows of a date as remaps. -/
def storedRemaps {σ : Type} [Backend σ] (date : Date) : Operation σ StoreError (List Remap) :=
  fun state =>
    let (result, state) := rows date state
    (result.map Remap.regroup, state)

end Backend
end SchoolWeek
