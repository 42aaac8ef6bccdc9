import SchoolWeek.Backend.Basic
import SchoolWeek.Pattern.Plan

/-! The schedule in force on a date, and the making and unmaking of special
schedules, over any backend. A marker in the calendar becomes a stored record the
first time its date is looked at. Reading never fails: what cannot be read counts
as absent, which leaves the normal week. -/
namespace SchoolWeek

/-- Why a special schedule could not be applied or removed. -/
inductive ApplyError
  | calendar (error : CalendarError)
  | store (error : StoreError)
  deriving DecidableEq

def ApplyError.message : ApplyError → String
  | .calendar error => "marker event error: " ++ error.message
  | .store error => "mapping store error: " ++ error.message

namespace Engine

variable {σ : Type} [Backend σ]

/-- The classes of a weekday; none if they cannot be read. -/
def classesOn (day : Weekday) (state : σ) : List Entry × σ :=
  match Backend.fetch day state with
  | (.ok entries, state) => (entries, state)
  | (.error _, state) => ([], state)

/-- The normal classes of the date's weekday. -/
def normalSchedule (date : Date) (state : σ) : List Slot × σ :=
  let (entries, state) := classesOn date.weekday state
  (entries.map Slot.ofEntry, state)

/-- Stores what a marker asks for. The remaps are in force even if storing them fails. -/
def materialize (date : Date) (marker : Marker) (state : σ) : List Remap × σ :=
  let remaps := Plan.ofPatternName marker.patternName.toList date.weekday
  let (_, state) := Backend.replace date remaps marker.patternName state
  (remaps, state)

/-- Looks for a marker on a date that has no record. -/
def remapsFromMarker (date : Date) (state : σ) : List Remap × σ :=
  match Backend.findMarker date state with
  | (.ok (some marker), state) => materialize date marker state
  | (_, state) => ([], state)

/-- The remaps in force on a date. A stored record decides even when it is empty. -/
def remapsFor (date : Date) (state : σ) : List Remap × σ :=
  match Backend.storedRemaps date state with
  | (.error _, state) => ([], state)
  | (.ok (remap :: remaps), state) => (remap :: remaps, state)
  | (.ok [], state) =>
    match Backend.record date state with
    | (.ok none, state) => remapsFromMarker date state
    | (_, state) => ([], state)

/-- The classes that a remap copies, given the classes of its source day. A source
period without a class is passed over. -/
def copies (remap : Remap) (entries : List Entry) : List Slot :=
  remap.pairs.filterMap fun pair =>
    (entries.find? (·.period == pair.1.number)).map (Slot.copied remap pair.1 pair.2)

/-- Merges remaps when the classes of some days are known already. -/
def mergeKnowing : List (Weekday × List Entry) → List Remap → σ → List Slot × σ
  | _, [], state => ([], state)
  | known, remap :: remaps, state =>
    match known.lookup remap.source with
    | some entries =>
      let (slots, state) := mergeKnowing known remaps state
      (copies remap entries ++ slots, state)
    | none =>
      let (entries, state) := classesOn remap.source state
      let (slots, state) := mergeKnowing ((remap.source, entries) :: known) remaps state
      (copies remap entries ++ slots, state)

/-- The copied classes of every remap in turn. Each source day is read once, when a
remap first names it. -/
def merge (remaps : List Remap) (state : σ) : List Slot × σ := mergeKnowing [] remaps state

/-- The classes held on a date, not sorted. -/
def effectiveSchedule (date : Date) (state : σ) : List Slot × σ :=
  match remapsFor date state with
  | ([], state) => normalSchedule date state
  | (remaps, state) => merge remaps state

/-- Puts a marker on the date, then the record. A custom text names the marker, the
record keeps the pattern name. Says whether there is anything to remap. -/
def applyOn (date : Date) (patternName : String) (day : Weekday) (custom? : Option String)
    (state : σ) : Except ApplyError Bool × σ :=
  let remaps := Plan.preview patternName day custom?
  let markerText := ((Plan.effectiveCustom? custom?).map String.ofList).getD patternName
  match Backend.createMarker date markerText state with
  | (.error error, state) => (.error (.calendar error), state)
  | (.ok _, state) =>
    match Backend.replace date remaps patternName state with
    | (.error error, state) => (.error (.store error), state)
    | (.ok (), state) => (.ok (!remaps.isEmpty), state)

/-- Applies a special schedule on the weekday of the date itself. -/
def apply (date : Date) (patternName : String) (custom? : Option String) (state : σ) :
    Except ApplyError Bool × σ :=
  applyOn date patternName date.weekday custom? state

/-- How often a marker is looked for and deleted. A calendar may keep showing a
marker it does not delete. -/
def markerDeletions : Nat := 16

/-- Deletes markers until there is none, at most as often as given. A calendar that
denies access is left alone. -/
def removeMarkers (date : Date) : Nat → Bool → σ → Except CalendarError Bool × σ
  | 0, removed, state => (.ok removed, state)
  | attempts + 1, removed, state =>
    match Backend.findMarker date state with
    | (.ok none, state) => (.ok removed, state)
    | (.error .permissionDenied, state) => (.ok removed, state)
    | (.error error, state) => (.error error, state)
    | (.ok (some marker), state) =>
      match Backend.deleteMarker marker.handle state with
      | (.error error, state) => (.error error, state)
      | (.ok (), state) => removeMarkers date attempts true state

/-- Clears the record of a date, then its markers, and says whether there was either.
If the record cannot be cleared the markers stay. -/
def remove (date : Date) (state : σ) : Except ApplyError Bool × σ :=
  match Backend.clear date state with
  | (.error error, state) => (.error (.store error), state)
  | (.ok cleared, state) =>
    match removeMarkers date markerDeletions false state with
    | (.error error, state) => (.error (.calendar error), state)
    | (.ok removed, state) => (.ok (removed || cleared), state)

end Engine
end SchoolWeek
