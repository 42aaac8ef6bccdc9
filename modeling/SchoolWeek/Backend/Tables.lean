import SchoolWeek.Backend.Basic
import SchoolWeek.Timetable.Basic

/-! The backend made of tables, which a database file keeps from one run to the
next. Dates and times are kept as text and numbers as plain integers, so a table
can hold what no date, weekday or period is; reading it then fails. Comparing and
sorting dates in a table is comparing and sorting their texts. -/
namespace SchoolWeek

/-- A row of the table of remap rows. -/
structure StoredRow where
  date : String
  source : Int
  target : Int
  sourcePeriod : Int
  targetPeriod : Int
  patternName : String
  deriving DecidableEq, Repr

/-- A row of the table of calendar events. -/
structure StoredEvent where
  handle : Int
  date : String
  title : String
  start : String
  stop : String
  allDay : Bool
  deriving DecidableEq, Repr

/-- The content of a database. `schedules` has at most one row for each date. -/
structure Tables where
  entries : List Entry
  schedules : List (String × String)
  rows : List StoredRow
  events : List StoredEvent
  lastHandle : Int
  deriving DecidableEq, Repr

/-- An opened database and the marker lead it was opened with. -/
structure TableStore where
  tables : Tables
  lead : String
  /-- Nothing can be written into the database. -/
  isReadOnly : Bool := false
  deriving DecidableEq, Repr

namespace StoredRow

def ofRow (date : Date) (row : Row) : StoredRow :=
  { date := date.text
    source := row.source.mondayIndex
    target := row.target.mondayIndex
    sourcePeriod := row.sourcePeriod.number
    targetPeriod := row.targetPeriod.number
    patternName := row.patternName }

def weekday (value : Int) : Except DataError Weekday :=
  match if 0 ≤ value then Weekday.ofMondayIndex? value.toNat else none with
  | some day => .ok day
  | none => .error (.weekday value)

def period (value : Int) : Except DataError Period :=
  match if 0 ≤ value then Period.ofNat? value.toNat else none with
  | some period => .ok period
  | none => .error (.period value)

def toRow (row : StoredRow) : Except DataError Row := do
  let source ← weekday row.source
  let target ← weekday row.target
  let sourcePeriod ← period row.sourcePeriod
  let targetPeriod ← period row.targetPeriod
  return ⟨source, target, sourcePeriod, targetPeriod, row.patternName⟩

end StoredRow

namespace StoredEvent

def ofEvent (event : Event) : StoredEvent :=
  { handle := event.handle
    date := event.date.text
    title := event.title
    start := event.start.text
    stop := event.stop.text
    allDay := event.allDay }

def timestamp (text : String) : Except DataError Timestamp :=
  match Timestamp.read text with
  | .ok stamp => .ok stamp
  | .error reason => .error (.timestamp text reason)

/-- The event, which was found under its date. -/
def toEvent (date : Date) (event : StoredEvent) : Except DataError Event := do
  let start ← timestamp event.start
  let stop ← timestamp event.stop
  return ⟨event.handle, date, event.title, start, stop, event.allDay⟩

end StoredEvent

namespace Tables

def empty : Tables := ⟨[], [], [], [], 0⟩

/-- The rows of a date, in the order in which they were put in. -/
def rowsOn (tables : Tables) (date : Date) : Except DataError (List Row) :=
  (tables.rows.filter (·.date == date.text)).mapM StoredRow.toRow

def patternOn? (tables : Tables) (date : Date) : Option String := tables.schedules.lookup date.text

def recordOn (tables : Tables) (date : Date) : Except DataError (Option Record) :=
  match tables.patternOn? date with
  | none => .ok none
  | some patternName => do
    let rows ← tables.rowsOn date
    return some ⟨date, patternName, rows⟩

/-- The events of a date, oldest first. -/
def eventsOn (tables : Tables) (date : Date) : Except DataError (List Event) :=
  (tables.events.filter (·.date == date.text)).mapM (StoredEvent.toEvent date)

def readDate (text : String) : Except DataError Date :=
  match Date.read text with
  | .ok date => .ok date
  | .error reason => .error (.date text reason)

/-- Texts in the order of their code points. -/
def textLe (left right : String) : Bool := !(decide (right < left))

/-- The dates whose texts lie between the texts of two dates, in the order of the texts. -/
def datesBetween (tables : Tables) (first last : Date) : Except DataError (List Date) :=
  let keys := (tables.schedules.map Prod.fst).filter fun key =>
    textLe first.text key && textLe key last.text
  (keys.mergeSort textLe).mapM readDate

def clear (date : Date) (tables : Tables) : Bool × Tables :=
  let rows := tables.rows.filter (·.date != date.text)
  let schedules := tables.schedules.filter (·.1 != date.text)
  (rows.length != tables.rows.length || schedules.length != tables.schedules.length,
    { tables with rows, schedules })

/-- Clears the date without reading what is there, then writes the new record. -/
def replace (date : Date) (remaps : List Remap) (patternName : String) (tables : Tables) : Tables :=
  let cleared := (tables.clear date).2
  { cleared with
    schedules := cleared.schedules ++ [(date.text, patternName)]
    rows := cleared.rows ++ (Remap.flatten remaps patternName).map (StoredRow.ofRow date) }

/-- Appends a full-day event; nothing changes if the event cannot be made. -/
def addEvent (date : Date) (title : String) (tables : Tables) : Except CalendarError Int × Tables :=
  let handle := tables.lastHandle + 1
  match Event.fullDay handle date title with
  | .error error => (.error error, tables)
  | .ok event => (.ok handle,
    { tables with events := tables.events ++ [.ofEvent event], lastHandle := handle })

/-- Puts a record in directly; refused if the date has one. -/
def insertSchedule? (date patternName : String) (tables : Tables) : Option Tables :=
  if (tables.schedules.lookup date).isSome then none
  else some { tables with schedules := tables.schedules ++ [(date, patternName)] }

/-- Puts a remap row in directly. -/
def insertRow (row : StoredRow) (tables : Tables) : Tables :=
  { tables with rows := tables.rows ++ [row] }

/-- Puts an event in directly, under the next handle. -/
def insertEvent (date title start stop : String) (allDay : Bool) (tables : Tables) : Tables :=
  let handle := tables.lastHandle + 1
  { tables with
    events := tables.events ++ [⟨handle, date, title, start, stop, allDay⟩]
    lastHandle := handle }

end Tables

namespace TableStore

def empty (lead : String) : TableStore := { tables := .empty, lead }

/-- What goes wrong in a table reaches the reader of the calendar as a message. -/
def calendarError (error : StoreError) : CalendarError := .backend error.message

def findMarker (date : Date) (store : TableStore) : Except CalendarError (Option Marker) :=
  match store.tables.eventsOn date with
  | .error error => .error (calendarError (.badData error))
  | .ok events => .ok (Marker.detect? store.lead events)

/-- Appends a full-day event. That the event cannot be made comes to light before the
database refuses it. -/
def addEvent (date : Date) (title : String) (store : TableStore) :
    Except CalendarError Int × TableStore :=
  match store.tables.addEvent date title with
  | (.error error, _) => (.error error, store)
  | (.ok handle, tables) =>
    if store.isReadOnly then (.error (calendarError .readOnly), store)
    else (.ok handle, { store with tables })

/-- Replaces the markers of the date by one, or changes nothing at all. -/
def createMarker (date : Date) (patternName : String) (store : TableStore) :
    Except CalendarError Int × TableStore :=
  match store.tables.eventsOn date with
  | .error error => (.error (calendarError (.badData error)), store)
  | .ok events =>
    let markers := (events.filter fun event => Marker.isTitle store.lead event.title).map Event.handle
    let kept := store.tables.events.filter (!markers.contains ·.handle)
    if store.isReadOnly && !markers.isEmpty then
      (.error (.backend StoreError.readOnlyText), store)
    else
      match addEvent date (Marker.title store.lead patternName)
        { store with tables := { store.tables with events := kept } } with
      | (.error error, _) => (.error error, store)
      | (.ok handle, store) => (.ok handle, store)

def deleteMarker (handle : Int) (store : TableStore) : Except CalendarError Unit × TableStore :=
  let kept := store.tables.events.filter (·.handle != handle)
  if store.isReadOnly then (.error (.backend StoreError.readOnlyText), store)
  else if kept.length = store.tables.events.length then (.error (.notFound handle), store)
  else (.ok (), { store with tables := { store.tables with events := kept } })

/-- A reading of the tables that may find bad data. -/
def reading {α : Type} (read : Tables → Except DataError α) : Operation TableStore StoreError α :=
  fun store => ((read store.tables).mapError StoreError.badData, store)

/-- A change of the tables, which the database may refuse. -/
def writing {α : Type} (write : Tables → α × Tables) : Operation TableStore StoreError α :=
  fun store =>
    if store.isReadOnly then (.error .readOnly, store)
    else
      let (value, tables) := write store.tables
      (.ok value, { store with tables })

/-- Exchanges the whole timetable. Bad entries are found before anything is written. -/
def replaceEntries (entries : List Entry) : Operation TableStore StoreError Unit :=
  match Entry.check entries with
  | .error error => fun store => (.error (.badData error), store)
  | .ok () => writing fun tables => ((), { tables with entries })

instance : Backend TableStore where
  fetch day store := (.ok (Entry.sortByPeriod (store.tables.entries.filter (·.day == day))), store)
  entries store := (.ok (Entry.sortByCell store.tables.entries), store)
  replaceEntries := replaceEntries
  replace date remaps patternName :=
    writing fun tables => ((), tables.replace date remaps patternName)
  rows date := reading (·.rowsOn date)
  clear date := writing (·.clear date)
  record date := reading (·.recordOn date)
  specialDates first last := reading (·.datesBetween first last)
  findMarker date store := (store.findMarker date, store)
  createMarker := createMarker
  deleteMarker := deleteMarker

end TableStore
end SchoolWeek
