import SchoolWeek.Calendar.Event

/-! A calendar held in memory. Handles count upward and are not used again. Reading
and writing markers needs permission; ordinary events do not. -/
namespace SchoolWeek

structure Calendar where
  lead : String
  events : List Event
  nextHandle : Int
  permitted : Bool

namespace Calendar

def empty (lead : String) : Calendar := ⟨lead, [], 1, true⟩

def eventsOn (calendar : Calendar) (date : Date) : List Event :=
  calendar.events.filter (·.date == date)

/-- A marker of the date under this calendar's lead. -/
def isMarkerOn (calendar : Calendar) (date : Date) (event : Event) : Bool :=
  event.date == date && Marker.isTitle calendar.lead event.title

/-- Appends a full-day event; its handle is used up even if the event cannot be made. -/
def addEvent (date : Date) (title : String) (calendar : Calendar) :
    Except CalendarError Int × Calendar :=
  let handle := calendar.nextHandle
  let calendar := { calendar with nextHandle := handle + 1 }
  match Event.fullDay handle date title with
  | .error error => (.error error, calendar)
  | .ok event => (.ok handle, { calendar with events := calendar.events ++ [event] })

def findMarker (date : Date) (calendar : Calendar) : Except CalendarError (Option Marker) :=
  if calendar.permitted then .ok (Marker.detect? calendar.lead (calendar.eventsOn date))
  else .error .permissionDenied

/-- Replaces the markers of the date by one. The old ones go before the new one is made. -/
def createMarker (date : Date) (patternName : String) (calendar : Calendar) :
    Except CalendarError Int × Calendar :=
  if calendar.permitted then
    let cleared := { calendar with events := calendar.events.filter (!calendar.isMarkerOn date ·) }
    addEvent date (Marker.title calendar.lead patternName) cleared
  else (.error .permissionDenied, calendar)

/-- Deletes the event with the handle, whatever its date and title. -/
def deleteMarker (handle : Int) (calendar : Calendar) : Except CalendarError Unit × Calendar :=
  if calendar.permitted then
    let kept := calendar.events.filter (·.handle != handle)
    if kept.length = calendar.events.length then (.error (.notFound handle), calendar)
    else (.ok (), { calendar with events := kept })
  else (.error .permissionDenied, calendar)

end Calendar
end SchoolWeek
