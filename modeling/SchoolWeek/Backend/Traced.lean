import SchoolWeek.Backend.Basic

/-! A backend that keeps a list of the operations asked of it and can be told to
fail at some of them. An operation is noted before it runs, so also when it then
fails; a failure laid on it keeps it from the backend below. -/
namespace SchoolWeek

/-- The operations of a backend. -/
inductive Call
  | fetch | entries | replaceEntries
  | replace | rows | clear | record | specialDates
  | findMarker | createMarker | deleteMarker
  deriving DecidableEq, Repr

namespace Call

def all : List Call :=
  [fetch, entries, replaceEntries, replace, rows, clear, record, specialDates, findMarker,
    createMarker, deleteMarker]

def name : Call → String
  | fetch => "timetable.fetch"
  | entries => "timetable.all"
  | replaceEntries => "timetable.replace"
  | replace => "mappings.replace"
  | rows => "mappings.rows"
  | clear => "mappings.clear"
  | record => "mappings.record"
  | specialDates => "mappings.special_dates"
  | findMarker => "markers.find"
  | createMarker => "markers.create"
  | deleteMarker => "markers.delete"

def ofName? (name : String) : Option Call := all.find? (·.name == name)

end Call

/-- What a failure looks like. `silent` means that nothing is done and success reported. -/
inductive Mishap
  | denied
  | missing
  | io
  | silent
  | other
  deriving DecidableEq, Repr

/-- A failure laid on one operation, for a number of times or, if negative, for good. -/
structure Fault where
  call : Call
  times : Int
  mishap : Mishap
  text : String
  deriving DecidableEq, Repr

namespace Fault

/-- How the failure shows in the timetable and the records. -/
def storeError (fault : Fault) : StoreError :=
  match fault.mishap with
  | .missing => .noTimetable
  | .io => .io fault.text
  | _ => .badData (.other fault.text)

/-- How the failure shows in the calendar, where it may also pass for success. -/
def calendarResult {α : Type} (pretended : α) (fault : Fault) : Except CalendarError α :=
  match fault.mishap with
  | .denied => .error .permissionDenied
  | .missing => .error (.notFound (-1))
  | .silent => .ok pretended
  | _ => .error (.backend fault.text)

/-- What is left of a fault that has struck once. -/
def struck (fault : Fault) : List Fault :=
  if fault.times < 0 then [fault]
  else if fault.times ≤ 1 then []
  else [{ fault with times := fault.times - 1 }]

end Fault

/-- A backend with the calls since they were last asked for, and the faults to come. -/
structure Traced (σ : Type) where
  base : σ
  calls : List Call
  faults : List Fault

namespace Traced

variable {σ : Type}

def ofBackend (base : σ) : Traced σ := ⟨base, [], []⟩

/-- Lays a fault on an operation in place of the one it had. Zero times is no fault. -/
def setFault (fault : Fault) (traced : Traced σ) : Traced σ :=
  let others := traced.faults.filter (·.call != fault.call)
  { traced with faults := if fault.times = 0 then others else others ++ [fault] }

/-- The calls noted so far, which are then forgotten. -/
def takeCalls (traced : Traced σ) : List Call × Traced σ :=
  (traced.calls, { traced with calls := [] })

/-- Notes a call and takes the fault that waits for it. -/
def enter (call : Call) (traced : Traced σ) : Option Fault × Traced σ :=
  let noted := { traced with calls := traced.calls ++ [call] }
  match traced.faults.find? (·.call == call) with
  | none => (none, noted)
  | some fault =>
    (some fault, { noted with faults := traced.faults.filter (·.call != call) ++ fault.struck })

/-- Runs an operation of the backend below, past the record of calls and the faults. -/
def below {ε α : Type} (operation : Operation σ ε α) : Operation (Traced σ) ε α := fun traced =>
  let (result, base) := operation traced.base
  (result, { traced with base })

/-- Notes the call, then runs it unless a fault waits for it. -/
def noted {ε α : Type} (call : Call) (failed : Fault → Except ε α) (operation : Operation σ ε α) :
    Operation (Traced σ) ε α := fun traced =>
  match traced.enter call with
  | (some fault, traced) => (failed fault, traced)
  | (none, traced) => below operation traced

def storeFault {α : Type} (fault : Fault) : Except StoreError α := .error fault.storeError

instance [Backend σ] : Backend (Traced σ) where
  fetch day := noted .fetch storeFault (Backend.fetch day)
  entries := noted .entries storeFault Backend.entries
  replaceEntries entries := noted .replaceEntries storeFault (Backend.replaceEntries entries)
  replace date remaps patternName :=
    noted .replace storeFault (Backend.replace date remaps patternName)
  rows date := noted .rows storeFault (Backend.rows date)
  clear date := noted .clear storeFault (Backend.clear date)
  record date := noted .record storeFault (Backend.record date)
  specialDates first last := noted .specialDates storeFault (Backend.specialDates first last)
  findMarker date := noted .findMarker (Fault.calendarResult none) (Backend.findMarker date)
  createMarker date patternName :=
    noted .createMarker (Fault.calendarResult (-1)) (Backend.createMarker date patternName)
  deleteMarker handle :=
    noted .deleteMarker (Fault.calendarResult ()) (Backend.deleteMarker handle)

end Traced
end SchoolWeek
