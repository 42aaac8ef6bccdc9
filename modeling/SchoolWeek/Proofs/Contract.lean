import Mathlib
import SchoolWeek.Session

/-! What a backend shows to those who use it: the timetable, the record of each
date and the events of the calendar. A view does not say how a backend keeps these
things nor which handle a new event will get. The contract of a backend is stated
over views: each operation gives the result that the view determines and leaves a
state that shows the view after the operation. -/
namespace SchoolWeek

structure View where
  entries : List Entry
  recordOn : Date → Option Record
  /-- Oldest first. -/
  events : List Event
  lead : String
  permitted : Bool

namespace View

def classesOn (view : View) (day : Weekday) : List Entry :=
  Entry.sortByPeriod (view.entries.filter (·.day == day))

def replaceEntries (view : View) (entries : List Entry) : Except StoreError Unit × View :=
  match Entry.check entries with
  | .error error => (.error (.badData error), view)
  | .ok () => (.ok (), { view with entries })

/-- The view in which this is what the date has for a record. -/
def withRecord (view : View) (date : Date) (record? : Option Record) : View :=
  { view with recordOn := fun other => if other = date then record? else view.recordOn other }

def rowsOn (view : View) (date : Date) : List Row :=
  ((view.recordOn date).map Record.rows).getD []

def eventsOn (view : View) (date : Date) : List Event := view.events.filter (·.date == date)

def isMarkerOn (view : View) (date : Date) (event : Event) : Bool :=
  event.date == date && Marker.isTitle view.lead event.title

/-- The markers of a date, oldest first. -/
def markersOn (view : View) (date : Date) : List Event := view.events.filter (view.isMarkerOn date)

def handles (view : View) : List Int := view.events.map Event.handle

def findMarker (view : View) (date : Date) : Except CalendarError (Option Marker) :=
  if view.permitted then .ok (Marker.detect? view.lead (view.eventsOn date))
  else .error .permissionDenied

/-- Adds a full-day event under a handle, if there can be such an event. -/
def addEvent (view : View) (handle : Int) (date : Date) (title : String) :
    Except CalendarError Int × View :=
  match Event.fullDay handle date title with
  | .error error => (.error error, view)
  | .ok event => (.ok handle, { view with events := view.events ++ [event] })

def withoutMarkers (view : View) (date : Date) : View :=
  { view with events := view.events.filter (!view.isMarkerOn date ·) }

/-- Puts one marker on the date in place of those it has, or changes nothing. -/
def createMarker (view : View) (handle : Int) (date : Date) (patternName : String) :
    Except CalendarError Int × View :=
  if view.permitted then
    match Event.fullDay handle date (Marker.title view.lead patternName) with
    | .error error => (.error error, view)
    | .ok _ => (view.withoutMarkers date).addEvent handle date (Marker.title view.lead patternName)
  else (.error .permissionDenied, view)

def withoutHandle (view : View) (handle : Int) : View :=
  { view with events := view.events.filter (·.handle != handle) }

def deleteMarker (view : View) (handle : Int) : Except CalendarError Unit × View :=
  if view.permitted then
    if handle ∈ view.handles then (.ok (), view.withoutHandle handle)
    else (.error (.notFound handle), view)
  else (.error .permissionDenied, view)

/-- What holds of everything a backend shows: its events last a full day, and a
handle names one of them. -/
structure Valid (view : View) : Prop where
  fullDays : ∀ event ∈ view.events, Event.fullDay event.handle event.date event.title = .ok event
  distinct : view.handles.Nodup

@[simp]
theorem withRecord_recordOn_self (view : View) (date : Date) (record? : Option Record) :
    (view.withRecord date record?).recordOn date = record? := by
  simp [withRecord]

@[simp]
theorem withRecord_permitted (view : View) (date : Date) (record? : Option Record) :
    (view.withRecord date record?).permitted = view.permitted := rfl

@[simp]
theorem withRecord_markersOn (view : View) (date : Date) (record? : Option Record) :
    (view.withRecord date record?).markersOn = view.markersOn := rfl

/-- The first marker is the first event of the date with the title of one. -/
theorem detect?_eventsOn (view : View) (date : Date) :
    Marker.detect? view.lead (view.eventsOn date) =
      (view.markersOn date).head?.map fun event =>
        ⟨Marker.patternNameOf view.lead event.title, event.handle⟩ := by
  have order : (fun event : Event => Marker.isTitle view.lead event.title && event.date == date) =
      view.isMarkerOn date := funext fun event => Bool.and_comm _ _
  rw [Marker.detect?, ← List.head?_filter, eventsOn, List.filter_filter, markersOn, order]

theorem mem_markersOn {view : View} {date : Date} {event : Event} :
    event ∈ view.markersOn date ↔
      event ∈ view.events ∧ event.date = date ∧ Marker.isTitle view.lead event.title = true := by
  simp [markersOn, isMarkerOn]

namespace Valid

theorem of_no_events {view : View} (empty : view.events = []) : view.Valid where
  fullDays event member := by
    rw [empty] at member
    cases member
  distinct := by
    rw [handles, empty]
    exact List.nodup_nil

/-- Removing events leaves a proper view. -/
theorem of_sublist {view after : View} (valid : view.Valid)
    (fewer : after.events.Sublist view.events) : after.Valid where
  fullDays event member := valid.fullDays event (fewer.subset member)
  distinct := valid.distinct.sublist (fewer.map Event.handle)

/-- So does a new event under a new handle. -/
theorem of_append {view after : View} {event : Event} (valid : view.Valid)
    (fullDay : Event.fullDay event.handle event.date event.title = .ok event)
    (fresh : event.handle ∉ view.handles) (more : after.events = view.events ++ [event]) :
    after.Valid where
  fullDays other member := by
    rw [more] at member
    rcases List.mem_append.mp member with old | new
    · exact valid.fullDays other old
    · obtain rfl := List.mem_singleton.mp new
      exact fullDay
  distinct := by
    rw [handles, more, List.map_append, List.nodup_append]
    refine ⟨valid.distinct, List.nodup_singleton _, ?_⟩
    intro old member new isNew same
    obtain rfl := List.mem_singleton.mp isNew
    exact fresh (same ▸ member)

theorem addEvent {view : View} {handle : Int} (valid : view.Valid) (fresh : handle ∉ view.handles)
    (date : Date) (title : String) : (view.addEvent handle date title).2.Valid := by
  unfold View.addEvent
  split
  · exact valid
  · rename_i event made
    obtain ⟨sameHandle, sameDate, sameTitle⟩ := Event.fullDay_fields made
    have full : Event.fullDay event.handle event.date event.title = .ok event := by
      rw [sameHandle, sameDate, sameTitle, made]
    exact valid.of_append full (by rwa [sameHandle]) rfl

theorem withoutMarkers {view : View} (valid : view.Valid) (date : Date) :
    (view.withoutMarkers date).Valid := valid.of_sublist List.filter_sublist

/-- A date on which an event can stand is not the last one. -/
theorem exists_fullDay {view : View} {event : Event} (valid : view.Valid)
    (member : event ∈ view.events) (handle : Int) (title : String) :
    ∃ made, Event.fullDay handle event.date title = .ok made := by
  have full := valid.fullDays event member
  unfold Event.fullDay at full ⊢
  split at full
  · cases full
  · exact ⟨_, rfl⟩

end Valid

end View

/-- The run gave this result and left a state that shows this view. -/
def Gives {σ α : Type} (shows : σ → View → Prop) (ran : α × σ) (expected : α × View) : Prop :=
  ran.1 = expected.1 ∧ shows ran.2 expected.2

theorem Gives.ran {σ α : Type} {shows : σ → View → Prop} {ran : α × σ} {value : α} {view : View}
    (gives : Gives shows ran (value, view)) : ∃ after, ran = (value, after) ∧ shows after view :=
  ⟨ran.2, Prod.ext gives.1 rfl, gives.2⟩

/-- A backend whose states show views and whose operations do what the views say.
Which handle a new marker gets is left to the backend, as long as it is a new one. -/
class Backend.Lawful (σ : Type) [Backend σ] where
  Shows : σ → View → Prop
  valid {state : σ} {view : View} : Shows state view → view.Valid
  fetch {state : σ} {view : View} (day : Weekday) : Shows state view →
    Gives Shows (Backend.fetch day state) (.ok (view.classesOn day), view)
  entries {state : σ} {view : View} : Shows state view →
    Gives Shows (Backend.entries state) (.ok (Entry.sortByCell view.entries), view)
  replaceEntries {state : σ} {view : View} (entries : List Entry) : Shows state view →
    Gives Shows (Backend.replaceEntries entries state) (view.replaceEntries entries)
  replace {state : σ} {view : View} (date : Date) (remaps : List Remap) (patternName : String) :
    Shows state view → Gives Shows (Backend.replace date remaps patternName state)
      (.ok (), view.withRecord date (some ⟨date, patternName, Remap.flatten remaps patternName⟩))
  rows {state : σ} {view : View} (date : Date) : Shows state view →
    Gives Shows (Backend.rows date state) (.ok (view.rowsOn date), view)
  clear {state : σ} {view : View} (date : Date) : Shows state view →
    Gives Shows (Backend.clear date state)
      (.ok (view.recordOn date).isSome, view.withRecord date none)
  record {state : σ} {view : View} (date : Date) : Shows state view →
    Gives Shows (Backend.record date state) (.ok (view.recordOn date), view)
  specialDates {state : σ} {view : View} (first last : Date) : Shows state view →
    ∃ dates, Gives Shows (Backend.specialDates first last state) (.ok dates, view)
  findMarker {state : σ} {view : View} (date : Date) : Shows state view →
    Gives Shows (Backend.findMarker date state) (view.findMarker date, view)
  createMarker {state : σ} {view : View} (date : Date) (patternName : String) : Shows state view →
    ∃ handle, handle ∉ view.handles ∧
      Gives Shows (Backend.createMarker date patternName state)
        (view.createMarker handle date patternName)
  deleteMarker {state : σ} {view : View} (handle : Int) : Shows state view →
    Gives Shows (Backend.deleteMarker handle state) (view.deleteMarker handle)

/-- The same for the calendar as a book of events of any title. -/
class EventBook.Lawful (σ : Type) [Backend σ] [Backend.Lawful σ] [EventBook σ] : Prop where
  addEvent {state : σ} {view : View} (date : Date) (title : String) :
    Backend.Lawful.Shows state view → ∃ handle, handle ∉ view.handles ∧
      Gives Backend.Lawful.Shows (EventBook.addEvent date title state)
        (view.addEvent handle date title)
  eventsOn {state : σ} {view : View} (date : Date) : Backend.Lawful.Shows state view →
    Gives Backend.Lawful.Shows (EventBook.eventsOn date state) (.ok (view.eventsOn date), view)

end SchoolWeek
