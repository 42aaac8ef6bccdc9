import SchoolWeek.Timetable.DataError
import SchoolWeek.Timetable.Entry

/-! The weekly timetable: at most one class for each day and period. Every way to
fill it passes the same check, and what fails the check changes nothing. -/
namespace SchoolWeek

namespace Entry

/-- The cell of the timetable that an entry fills. -/
def cell (entry : Entry) : Weekday × Nat := (entry.day, entry.period)

/-- The first fault of an entry that follows entries filling the cells `taken`. -/
def fault? (taken : List (Weekday × Nat)) (entry : Entry) : Option DataError :=
  if entry.period < 1 ∨ 9 < entry.period then some (.entryPeriod entry.day entry.period)
  else if Text.allBlank entry.subject.toList then some (.entrySubject entry.day entry.period)
  else if entry.cell ∈ taken then some (.duplicateEntry entry.day entry.period)
  else none

def checkAfter (taken : List (Weekday × Nat)) : List Entry → Except DataError Unit
  | [] => .ok ()
  | entry :: entries =>
    match entry.fault? taken with
    | some error => .error error
    | none => checkAfter (entry.cell :: taken) entries

/-- Accepts entries with a proper period, a subject that is not blank and no cell
filled twice; otherwise names the first fault of the first faulty entry. -/
def check (entries : List Entry) : Except DataError Unit := checkAfter [] entries

/-- Sunday's classes first, each day in the order of its periods. -/
def sortByCell (entries : List Entry) : List Entry :=
  entries.mergeSort fun left right =>
    left.day.sundayIndex < right.day.sundayIndex ||
      (left.day.sundayIndex == right.day.sundayIndex && left.period ≤ right.period)

def sortByPeriod (entries : List Entry) : List Entry :=
  entries.mergeSort fun left right => left.period ≤ right.period

end Entry

/-- The classes of the week, in the order in which they were put in. -/
structure Timetable where
  stored : List Entry
  deriving DecidableEq, Repr

namespace Timetable

def empty : Timetable := ⟨[]⟩

def ofEntries (entries : List Entry) : Except DataError Timetable :=
  (Entry.check entries).map fun _ => ⟨entries⟩

def put (entry : Entry) : List Entry → List Entry
  | [] => [entry]
  | old :: rest => if old.cell = entry.cell then entry :: rest else old :: put entry rest

/-- Fills the entry's cell, whatever was in it before. -/
def upsert (timetable : Timetable) (entry : Entry) : Except DataError Timetable :=
  (Entry.check [entry]).map fun _ => ⟨put entry timetable.stored⟩

/-- Empties a cell and says whether there was a class in it. -/
def remove (timetable : Timetable) (day : Weekday) (period : Nat) : Bool × Timetable :=
  let kept := timetable.stored.filter (·.cell != (day, period))
  (kept.length != timetable.stored.length, ⟨kept⟩)

/-- Exchanges the whole content. -/
def replaceAll (_ : Timetable) (entries : List Entry) : Except DataError Timetable :=
  ofEntries entries

/-- Every class, by day and period. -/
def entries (timetable : Timetable) : List Entry := Entry.sortByCell timetable.stored

/-- The classes of one day, by period. -/
def entriesOn (timetable : Timetable) (day : Weekday) : List Entry :=
  Entry.sortByPeriod (timetable.stored.filter (·.day == day))

end Timetable
end SchoolWeek
