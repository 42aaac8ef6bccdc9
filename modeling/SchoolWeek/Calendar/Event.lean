import SchoolWeek.Date.Timestamp
import SchoolWeek.Text.Search

/-! Calendar events, and the titles that make an event a marker. A marker says
that its date is special: its title begins with the marker lead or mentions one
of the keywords, and the rest of the title is the name of the pattern. -/
namespace SchoolWeek

structure Event where
  handle : Int
  date : Date
  title : String
  start : Timestamp
  stop : Timestamp
  allDay : Bool
  deriving DecidableEq

/-- The pattern that an event asks for. -/
structure Marker where
  patternName : String
  handle : Int
  deriving DecidableEq, Repr

/-- Why the calendar does not do as asked. -/
inductive CalendarError
  | permissionDenied
  | notFound (handle : Int)
  | backend (text : String)
  | noNextDay (date : Date)
  deriving DecidableEq

def CalendarError.message : CalendarError → String
  | .permissionDenied => "calendar access was denied"
  | .notFound handle =>
    "marker event MarkerHandle(" ++ String.ofList (Text.signedDecimal handle) ++ ") not found"
  | .backend text => "calendar backend error: " ++ text
  | .noNextDay date => "no day follows " ++ date.text

namespace Event

/-- An event from midnight to midnight. The last day of the calendar has no end to give it. -/
def fullDay (handle : Int) (date : Date) (title : String) : Except CalendarError Event :=
  match date.next? with
  | none => .error (.noNextDay date)
  | some next => .ok
    { handle, date, title
      start := ⟨date, .midnight⟩
      stop := ⟨next, .midnight⟩
      allDay := true }

theorem fullDay_fields {handle : Int} {date : Date} {title : String} {event : Event}
    (made : fullDay handle date title = .ok event) :
    event.handle = handle ∧ event.date = date ∧ event.title = title := by
  unfold fullDay at made
  split at made
  · cases made
  · cases made
    exact ⟨rfl, rfl, rfl⟩

end Event

namespace Marker

/-- The lead of marker titles unless another one is set. -/
def defaultLead : String := "特殊時程:"

/-- Any of these in a title makes the event a marker, too. -/
def keywords : List String := ["時程", "短縮", "テスト時程", "特殊", "カスタム"]

def isTitle (lead title : String) : Bool :=
  lead.toList.isPrefixOf title.toList || keywords.any (Text.occurs ·.toList title.toList)

def title (lead patternName : String) : String := lead ++ patternName

/-- The title without the lead, if it has it, and without white space around it. -/
def patternNameOf (lead title : String) : String :=
  String.ofList (Text.trim ((Text.dropLead? lead.toList title.toList).getD title.toList))

/-- The first marker among the events. -/
def detect? (lead : String) (events : List Event) : Option Marker :=
  (events.find? fun event => isTitle lead event.title).map fun event =>
    ⟨patternNameOf lead event.title, event.handle⟩

end Marker
end SchoolWeek
