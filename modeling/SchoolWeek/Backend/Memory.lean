import SchoolWeek.Backend.Basic
import SchoolWeek.Calendar.Basic
import SchoolWeek.Timetable.Basic

/-! The backend that lives in memory. Its records are kept in the order of their
dates. -/
namespace SchoolWeek

structure Memory where
  timetable : Timetable
  records : List Record
  calendar : Calendar

namespace Memory

def empty (lead : String) : Memory := ⟨.empty, [], .empty lead⟩

/-- Puts a record at its place among records in the order of their dates. -/
def insertRecord (record : Record) : List Record → List Record
  | [] => [record]
  | other :: rest =>
    if record.date = other.date then record :: rest
    else if record.date.Before other.date then record :: other :: rest
    else other :: insertRecord record rest

def recordOn? (memory : Memory) (date : Date) : Option Record :=
  memory.records.find? (·.date == date)

/-- The dates from `first` to `last` that have a record. -/
def datesBetween (memory : Memory) (first last : Date) : List Date :=
  (memory.records.map Record.date).filter fun date => !(date.Before first) && !(last.Before date)

def replaceEntries (entries : List Entry) (memory : Memory) : Except StoreError Unit × Memory :=
  match memory.timetable.replaceAll entries with
  | .error error => (.error (.badData error), memory)
  | .ok timetable => (.ok (), { memory with timetable })

def upsert (entry : Entry) (memory : Memory) : Except StoreError Unit × Memory :=
  match memory.timetable.upsert entry with
  | .error error => (.error (.badData error), memory)
  | .ok timetable => (.ok (), { memory with timetable })

def removeEntry (day : Weekday) (period : Nat) (memory : Memory) : Bool × Memory :=
  let (removed, timetable) := memory.timetable.remove day period
  (removed, { memory with timetable })

def replace (date : Date) (remaps : List Remap) (patternName : String) (memory : Memory) : Memory :=
  let record : Record := ⟨date, patternName, Remap.flatten remaps patternName⟩
  { memory with records := insertRecord record memory.records }

def clear (date : Date) (memory : Memory) : Bool × Memory :=
  ((memory.recordOn? date).isSome,
    { memory with records := memory.records.filter (·.date != date) })

/-- Runs a calendar operation on the calendar of the backend. -/
def withCalendar {α : Type} (operation : Operation Calendar CalendarError α) :
    Operation Memory CalendarError α := fun memory =>
  let (result, calendar) := operation memory.calendar
  (result, { memory with calendar })

def setPermission (granted : Bool) (memory : Memory) : Memory :=
  { memory with calendar := { memory.calendar with permitted := granted } }

instance : Backend Memory where
  fetch day memory := (.ok (memory.timetable.entriesOn day), memory)
  entries memory := (.ok memory.timetable.entries, memory)
  replaceEntries := replaceEntries
  replace date remaps patternName memory := (.ok (), memory.replace date remaps patternName)
  rows date memory := (.ok (((memory.recordOn? date).map Record.rows).getD []), memory)
  clear date memory := let (cleared, memory) := memory.clear date; (.ok cleared, memory)
  record date memory := (.ok (memory.recordOn? date), memory)
  specialDates first last memory := (.ok (memory.datesBetween first last), memory)
  findMarker date memory := (memory.calendar.findMarker date, memory)
  createMarker date patternName := withCalendar (Calendar.createMarker date patternName)
  deleteMarker handle := withCalendar (Calendar.deleteMarker handle)

end Memory
end SchoolWeek
