import SchoolWeek.Json.Basic
import SchoolWeek.Calendar.Event
import SchoolWeek.Pattern.Kind
import SchoolWeek.Remap.Row
import SchoolWeek.Timetable.Entry

/-! The JSON forms of what the program exchanges. Weekdays are numbers: remaps and
rows count them from Monday, the timetable from Sunday. -/
namespace SchoolWeek.Encode

def mondayWeekday (day : Weekday) : Json := .ofNat day.mondayIndex

def sundayWeekday (day : Weekday) : Json := .ofNat day.sundayIndex

def period (period : Period) : Json := .ofNat period.number

def periods (list : List Period) : Json := .array (list.map period)

def kind (kind : Kind) : Json := .text kind.code

def date (date : Date) : Json := .text date.text

def segment (segment : Segment) : Json :=
  .object [("day", mondayWeekday segment.day), ("periods", periods segment.periods)]

def remap (remap : Remap) : Json :=
  .object [
    ("original_day", mondayWeekday remap.source),
    ("target_day", mondayWeekday remap.target),
    ("original_periods", periods remap.sourcePeriods),
    ("target_periods", periods remap.targetPeriods)]

def remaps (list : List Remap) : Json := .array (list.map remap)

def row (row : Row) : Json :=
  .object [
    ("original_day", mondayWeekday row.source),
    ("target_day", mondayWeekday row.target),
    ("original_period", period row.sourcePeriod),
    ("target_period", period row.targetPeriod),
    ("pattern_name", .text row.patternName)]

def rows (list : List Row) : Json := .array (list.map row)

def record (record : Record) : Json :=
  .object [
    ("date", date record.date),
    ("pattern_name", .text record.patternName),
    ("rows", rows record.rows)]

/-- A missing room or color leaves no member. -/
def entryMembers (entry : Entry) : List (String × Json) :=
  [("day", sundayWeekday entry.day), ("period", .ofNat entry.period),
    ("subject", .text entry.subject)] ++
    Json.optional "room" (entry.room?.map .text) ++
    Json.optional "color" (entry.color?.map .text)

def entry (entry : Entry) : Json := .object (entryMembers entry)

def entries (list : List Entry) : Json := .array (list.map entry)

def slot (slot : Slot) : Json :=
  .object (entryMembers slot.toEntry ++ [("is_special", .bool slot.isSpecial)] ++
    Json.optional "original_info" (slot.origin?.map .text))

def slots (list : List Slot) : Json := .array (list.map slot)

def marker (marker : Marker) : Json :=
  .object [("pattern_name", .text marker.patternName), ("handle", .number marker.handle)]

def event (event : Event) : Json :=
  .object [
    ("handle", .number event.handle),
    ("date", date event.date),
    ("title", .text event.title),
    ("start", .text event.start.text),
    ("end", .text event.stop.text),
    ("all_day", .bool event.allDay)]

end SchoolWeek.Encode
