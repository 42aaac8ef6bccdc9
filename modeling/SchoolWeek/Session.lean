import SchoolWeek.Backend.Memory
import SchoolWeek.Backend.Tables
import SchoolWeek.Backend.Traced
import SchoolWeek.Http.Service

/-! Sessions: one engine over one backend, and the steps that can be taken with it.
What a session can become by steps is what its backend can ever look like. Some steps
are open to one kind of backend only. -/
namespace SchoolWeek

/-- A calendar that takes events of any title and shows those of a date. -/
class EventBook (σ : Type) where
  addEvent : Date → String → Operation σ CalendarError Int
  eventsOn : Date → Operation σ StoreError (List Event)

instance : EventBook Memory where
  addEvent date title := Memory.withCalendar (Calendar.addEvent date title)
  eventsOn date memory := (.ok (memory.calendar.eventsOn date), memory)

instance : EventBook TableStore where
  addEvent := TableStore.addEvent
  eventsOn date := TableStore.reading (·.eventsOn date)

/-- Events are added and shown without a note in the list of calls. -/
instance {σ : Type} [EventBook σ] : EventBook (Traced σ) where
  addEvent date title := Traced.below (EventBook.addEvent date title)
  eventsOn date := Traced.below (EventBook.eventsOn date)

/-- The steps open to every backend. -/
inductive Step
  | replaceEntries (entries : List Entry)
  | entries
  | fetch (day : Weekday)
  | replace (date : Date) (remaps : List Remap) (patternName : String)
  | rows (date : Date)
  | storedRemaps (date : Date)
  | record (date : Date)
  | clear (date : Date)
  | specialDates (first last : Date)
  | addEvent (date : Date) (title : String)
  | events (date : Date)
  | findMarker (date : Date)
  | createMarker (date : Date) (patternName : String)
  | deleteMarker (handle : Int)
  | effective (date : Date)
  | effectiveSorted (date : Date)
  | remapsFor (date : Date)
  | normal (date : Date)
  | merge (remaps : List Remap)
  | applyOn (date : Date) (patternName : String) (day : Weekday) (custom? : Option String)
  | apply (date : Date) (patternName : String) (custom? : Option String)
  | remove (date : Date)
  | http (request : Http.Request)
  | takeCalls
  | setFault (fault : Fault)

/-- The steps open to the backend in memory only. -/
inductive MemoryStep
  | upsert (entry : Entry)
  | removeEntry (day : Weekday) (period : Nat)
  | permission (granted : Bool)

/-- The steps open to a backend of tables in a file only: opening the file anew, and
putting records into a table past all checks. -/
inductive FileStep
  | reopen (lead : String)
  | insertRow (row : StoredRow)
  | insertSchedule (date patternName : String)
  | insertEvent (date title start stop : String) (allDay : Bool)

/-- What a step gives. -/
inductive Outcome
  | done
  | reopened
  | inserted
  | flag (value : Bool)
  | handle (value : Int)
  | entries (list : List Entry)
  | slots (list : List Slot)
  | rows (list : List Row)
  | remaps (list : List Remap)
  | record (record? : Option Record)
  | dates (list : List Date)
  | events (list : List Event)
  | marker (marker? : Option Marker)
  | response (response : Http.Response)
  | calls (list : List Call)
  | storeError (error : StoreError)
  | calendarError (error : CalendarError)
  | applyError (error : ApplyError)
  /-- A request that stopped without an answer. -/
  | noResponse
  /-- The key of the record to insert is taken. -/
  | keyTaken
  /-- The step is not open to this backend. -/
  | wrongBackend (needed : String)

namespace Outcome

def ofStore {α : Type} (wrap : α → Outcome) : Except StoreError α → Outcome
  | .ok value => wrap value
  | .error error => storeError error

def ofCalendar {α : Type} (wrap : α → Outcome) : Except CalendarError α → Outcome
  | .ok value => wrap value
  | .error error => calendarError error

def ofApply : Except ApplyError Bool → Outcome
  | .ok value => flag value
  | .error error => applyError error

def ofHttp : Option Http.Response → Outcome
  | some answer => response answer
  | none => noResponse

/-- The outcome of an operation with its result wrapped up. -/
def of {α σ : Type} (wrap : α → Outcome) (ran : α × σ) : Outcome × σ := (wrap ran.1, ran.2)

end Outcome

namespace Step
open Outcome (of ofStore ofCalendar ofApply ofHttp)

/-- Takes a step with any backend. -/
def run {σ : Type} [Backend σ] [EventBook σ] (step : Step) (state : Traced σ) :
    Outcome × Traced σ :=
  match step with
  | replaceEntries list => of (ofStore fun _ => .done) (Backend.replaceEntries list state)
  | entries => of (ofStore .entries) (Backend.entries state)
  | fetch day => of (ofStore .entries) (Backend.fetch day state)
  | replace date remaps patternName =>
    of (ofStore fun _ => .done) (Backend.replace date remaps patternName state)
  | rows date => of (ofStore .rows) (Backend.rows date state)
  | storedRemaps date => of (ofStore .remaps) (Backend.storedRemaps date state)
  | record date => of (ofStore .record) (Backend.record date state)
  | clear date => of (ofStore .flag) (Backend.clear date state)
  | specialDates first last => of (ofStore .dates) (Backend.specialDates first last state)
  | addEvent date title => of (ofCalendar .handle) (EventBook.addEvent date title state)
  | events date => of (ofStore .events) (EventBook.eventsOn date state)
  | findMarker date => of (ofCalendar .marker) (Backend.findMarker date state)
  | createMarker date patternName =>
    of (ofCalendar .handle) (Backend.createMarker date patternName state)
  | deleteMarker handle => of (ofCalendar fun _ => .done) (Backend.deleteMarker handle state)
  | effective date => of .slots (Engine.effectiveSchedule date state)
  | effectiveSorted date =>
    of (fun slots => .slots (Slot.sortByPeriod slots)) (Engine.effectiveSchedule date state)
  | remapsFor date => of .remaps (Engine.remapsFor date state)
  | normal date => of .slots (Engine.normalSchedule date state)
  | merge remaps => of .slots (Engine.merge remaps state)
  | applyOn date patternName day custom? =>
    of ofApply (Engine.applyOn date patternName day custom? state)
  | apply date patternName custom? => of ofApply (Engine.apply date patternName custom? state)
  | remove date => of ofApply (Engine.remove date state)
  | http request => of ofHttp (Http.handle request state)
  | takeCalls => of .calls state.takeCalls
  | setFault fault => (.done, state.setFault fault)

end Step

namespace MemoryStep

def run (step : MemoryStep) (state : Traced Memory) : Outcome × Traced Memory :=
  match step with
  | upsert entry =>
    Outcome.of (Outcome.ofStore fun _ => .done) (Traced.below (Memory.upsert entry) state)
  | removeEntry day period =>
    let (removed, base) := state.base.removeEntry day period
    (.flag removed, { state with base })
  | permission granted => (.done, { state with base := state.base.setPermission granted })

end MemoryStep

namespace FileStep

def withTables (tables : Tables) (state : Traced TableStore) : Traced TableStore :=
  { state with base := { state.base with tables } }

def run (step : FileStep) (state : Traced TableStore) : Outcome × Traced TableStore :=
  let tables := state.base.tables
  match step with
  | reopen lead => (.reopened, .ofBackend { tables, lead })
  | insertRow row => (.inserted, withTables (tables.insertRow row) state)
  | insertSchedule date patternName =>
    match tables.insertSchedule? date patternName with
    | some tables => (.inserted, withTables tables state)
    | none => (.keyTaken, state)
  | insertEvent date title start stop allDay =>
    (.inserted, withTables (tables.insertEvent date title start stop allDay) state)

end FileStep

/-- A backend in use. Tables are kept in a file or not at all. -/
inductive Session
  | memory (state : Traced Memory)
  | tables (inFile : Bool) (state : Traced TableStore)

namespace Session

/-- A session whose timetable holds the entries, unless they are refused. -/
def openMemory (lead : String) (entries : List Entry) : Except StoreError Session :=
  match (Memory.empty lead).replaceEntries entries with
  | (.ok (), base) => .ok (.memory (.ofBackend base))
  | (.error error, _) => .error error

def openTables (inFile : Bool) (lead : String) (entries : List Entry) : Except StoreError Session :=
  match TableStore.replaceEntries entries (.empty lead) with
  | (.ok (), store) => .ok (.tables inFile (.ofBackend store))
  | (.error error, _) => .error error

def run (step : Step) : Session → Outcome × Session
  | memory state => let (outcome, state) := step.run state; (outcome, memory state)
  | tables inFile state => let (outcome, state) := step.run state; (outcome, tables inFile state)

def runMemory (step : MemoryStep) : Session → Outcome × Session
  | memory state => let (outcome, state) := step.run state; (outcome, memory state)
  | session => (.wrongBackend "memory", session)

def runFile (step : FileStep) : Session → Outcome × Session
  | tables true state => let (outcome, state) := step.run state; (outcome, tables true state)
  | session => (.wrongBackend "file", session)

end Session
end SchoolWeek
