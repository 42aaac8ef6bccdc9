import SchoolWeek.Weekday
import SchoolWeek.Remap.Basic

/-! Cells of the weekly timetable, and the slots of the schedule that is in force
on a date, which may have been copied from another cell. -/
namespace SchoolWeek

/-- A class in the weekly timetable. Its period is as it was given; whether it is
one of the nine is checked when the timetable takes it in. -/
structure Entry where
  day : Weekday
  period : Nat
  subject : String
  room? : Option String := none
  color? : Option String := none
  deriving DecidableEq, Repr

/-- A class in the schedule of one date. A copied class is special and names the
slot it came from. -/
structure Slot extends Entry where
  isSpecial : Bool := false
  origin? : Option String := none
  deriving DecidableEq, Repr

namespace Slot

/-- The class where the weekly timetable has it. -/
def ofEntry (entry : Entry) : Slot := { toEntry := entry }

/-- Where a class comes from, as `(月3)`. -/
def originText (day : Weekday) (period : Period) : String :=
  String.ofList ['(', day.glyph, period.digit, ')']

/-- The class copied from one period of the remap's source to one of its target. -/
def copied (remap : Remap) (sourcePeriod targetPeriod : Period) (entry : Entry) : Slot :=
  { entry with
    day := remap.target
    period := targetPeriod.number
    isSpecial := true
    origin? := some (originText remap.source sourcePeriod) }

/-- Ordered by period; slots of one period keep their order. -/
def sortByPeriod (slots : List Slot) : List Slot :=
  slots.mergeSort fun left right => left.period ≤ right.period

end Slot
end SchoolWeek
