import Mathlib
import SchoolWeek.Proofs.MarkerTitle
import SchoolWeek.Proofs.Removal

/-! Applying a special schedule. An application that succeeds leaves its record and one
marker on the date, in place of the record and the markers the date had, and touches
nothing else: neither the other events of the date nor other dates nor the timetable. -/
namespace SchoolWeek

/-- An event can stand only on a date that another one follows. -/
theorem Event.followed_of_fullDay {handle : Int} {date : Date} {title : String} {event : Event}
    (made : fullDay handle date title = .ok event) : date.next?.isSome := by
  unfold fullDay at made
  split at made
  · cases made
  · rename_i next following
    rw [following]
    rfl

namespace View

/-- A marker is created where markers may be written and an event can stand. It is a
full-day event in place of the markers of the date. -/
theorem createMarker_ok {view created : View} {handle value : Int} {date : Date}
    {patternName : String}
    (creates : view.createMarker handle date patternName = (.ok value, created)) :
    view.permitted = true ∧ ∃ event,
      Event.fullDay handle date (Marker.title view.lead patternName) = .ok event ∧
        created = view.marked date event := by
  unfold createMarker at creates
  split at creates
  · rename_i permitted
    split at creates
    · cases creates
    · rename_i event made
      rw [addEvent, made] at creates
      cases creates
      exact ⟨permitted, event, made, rfl⟩
  · cases creates

theorem followed_of_createMarker_ok {view created : View} {handle value : Int} {date : Date}
    {patternName : String}
    (creates : view.createMarker handle date patternName = (.ok value, created)) :
    date.next?.isSome := by
  obtain ⟨_, event, made, _⟩ := createMarker_ok creates
  exact Event.followed_of_fullDay made

/-- An application that succeeds creates its marker and writes its record. -/
theorem applyOn_ok {view after : View} {handle : Int} {date : Date} {patternName : String}
    {day : Weekday} {custom? : Option String} {flag : Bool}
    (applies : view.applyOn handle date patternName day custom? = (.ok flag, after)) :
    view.permitted = true ∧ flag = !(Plan.preview patternName day custom?).isEmpty ∧ ∃ event,
      Event.fullDay handle date (Marker.title view.lead (markerText patternName custom?)) =
        .ok event ∧
      after = (view.marked date event).withRecord date
        (some ⟨date, patternName,
          Remap.flatten (Plan.preview patternName day custom?) patternName⟩) := by
  unfold applyOn at applies
  dsimp only at applies
  split at applies
  · cases applies
  · rename_i value created creates
    obtain ⟨permitted, event, made, rfl⟩ := createMarker_ok creates
    cases applies
    exact ⟨permitted, rfl, event, made, rfl⟩

/-- Where markers may be written and an event can stand, an application succeeds. -/
theorem applyOn_followed {view : View} {date : Date} (permitted : view.permitted = true)
    (followed : date.next?.isSome) (handle : Int) (patternName : String) (day : Weekday)
    (custom? : Option String) :
    ∃ event,
      Event.fullDay handle date (Marker.title view.lead (markerText patternName custom?)) =
        .ok event ∧
      view.applyOn handle date patternName day custom? =
        (.ok (!(Plan.preview patternName day custom?).isEmpty),
          (view.marked date event).withRecord date (some ⟨date, patternName,
            Remap.flatten (Plan.preview patternName day custom?) patternName⟩)) := by
  obtain ⟨event, made⟩ := Event.exists_fullDay followed handle
    (Marker.title view.lead (markerText patternName custom?))
  refine ⟨event, made, ?_⟩
  rw [applyOn, createMarker, if_pos permitted, made]
  dsimp only
  rw [addEvent, made]
  rfl

/-- The ordinary events of the date stay, and the marker comes after them. -/
theorem eventsOn_marked (view : View) {date : Date} {event : Event} (here : event.date = date) :
    (view.marked date event).eventsOn date =
      (view.eventsOn date).filter (!Marker.isTitle view.lead ·.title) ++ [event] := by
  have ordinary : (view.events.filter (!view.isMarkerOn date ·)).filter (·.date == date) =
      (view.eventsOn date).filter (!Marker.isTitle view.lead ·.title) := by
    rw [eventsOn, List.filter_filter, List.filter_filter]
    refine List.filter_congr fun other _ => ?_
    rw [isMarkerOn]
    cases other.date == date <;> simp
  show (view.events.filter (!view.isMarkerOn date ·) ++ [event]).filter (·.date == date) = _
  rw [List.filter_append, ordinary, List.filter_cons_of_pos (by simpa using here), List.filter_nil]

theorem eventsOn_marked_of_ne (view : View) {date other : Date} {event : Event}
    (here : event.date = date) (elsewhere : other ≠ date) :
    (view.marked date event).eventsOn other = view.eventsOn other := by
  show (view.events.filter (!view.isMarkerOn date ·) ++ [event]).filter (·.date == other) = _
  rw [List.filter_append, List.filter_filter,
    List.filter_cons_of_neg (by simpa [here] using Ne.symm elsewhere), List.filter_nil,
    List.append_nil, eventsOn]
  refine List.filter_congr fun event _ => ?_
  by_cases onOther : event.date = other <;> simp [isMarkerOn, onOther, elsewhere]

theorem isMarkerOn_of_fullDay {view : View} {handle : Int} {date : Date} {patternName : String}
    {event : Event}
    (made : Event.fullDay handle date (Marker.title view.lead patternName) = .ok event) :
    view.isMarkerOn date event = true := by
  obtain ⟨_, sameDate, sameTitle⟩ := Event.fullDay_fields made
  rw [isMarkerOn, sameDate, sameTitle, Marker.isTitle_title, beq_self_eq_true, Bool.true_and]

theorem findMarker_marked {view : View} {handle : Int} {date : Date} {patternName : String}
    {event : Event} (permitted : view.permitted = true)
    (made : Event.fullDay handle date (Marker.title view.lead patternName) = .ok event) :
    (view.marked date event).findMarker date =
      .ok (some ⟨String.ofList (Text.trim patternName.toList), event.handle⟩) := by
  have stillPermitted : (view.marked date event).permitted = true := permitted
  rw [findMarker_permitted stillPermitted, marker?_eq stillPermitted,
    markersOn_marked (isMarkerOn_of_fullDay made), List.head?_cons, Option.map_some,
    (Event.fullDay_fields made).2.2, ← Marker.patternNameOf_title view.lead patternName]
  rfl

theorem withRecord_recordOn_of_ne (view : View) {date other : Date} (record? : Option Record)
    (elsewhere : other ≠ date) :
    (view.withRecord date record?).recordOn other = view.recordOn other := by
  rw [withRecord]
  exact if_neg elsewhere

end View

namespace Session

/-- The events that the calendar lists on a date, oldest first. -/
def eventsOn (session : Session) (date : Date) : List Event :=
  match (session.run (.events date)).1 with
  | .events events => events
  | _ => []

namespace Shows

variable {session : Session} {view : View}

theorem eventsOn (shown : session.Shows view) (date : Date) :
    session.eventsOn date = view.eventsOn date := by
  rw [Session.eventsOn, (shown.events date).1]

theorem entries (shown : session.Shows view) :
    Gives Session.Shows (session.run .entries) (.entries (Entry.sortByCell view.entries), view) :=
  shown.run fun shown => (Backend.Lawful.entries shown).of _

theorem applyOn (shown : session.Shows view) (date : Date) (patternName : String) (day : Weekday)
    (custom? : Option String) :
    ∃ handle, handle ∉ view.handles ∧
      Gives Session.Shows (session.run (.applyOn date patternName day custom?))
        (Outcome.ofApply (view.applyOn handle date patternName day custom?).1,
          (view.applyOn handle date patternName day custom?).2) :=
  shown.run_some fun shown =>
    have ⟨handle, fresh, applied⟩ := Engine.applyOn_gives date patternName day custom? shown
    ⟨handle, fresh, applied.of _⟩

/-- What a session shows after an application that succeeds. -/
theorem applyOn_ok (shown : session.Shows view) {date : Date} {patternName : String}
    {day : Weekday} {custom? : Option String} {flag : Bool}
    (answered : (session.run (.applyOn date patternName day custom?)).1 = .flag flag) :
    view.permitted = true ∧ flag = !(Plan.preview patternName day custom?).isEmpty ∧
      ∃ handle event,
        Event.fullDay handle date
            (Marker.title view.lead (View.markerText patternName custom?)) = .ok event ∧
          (session.run (.applyOn date patternName day custom?)).2.Shows
            ((view.marked date event).withRecord date (some ⟨date, patternName,
              Remap.flatten (Plan.preview patternName day custom?) patternName⟩)) := by
  obtain ⟨handle, _, outcome, shownAfter⟩ := shown.applyOn date patternName day custom?
  rw [answered] at outcome
  cases applies : view.applyOn handle date patternName day custom? with
  | mk result after =>
    rw [applies] at outcome shownAfter
    cases result with
    | error error => cases outcome
    | ok value =>
      obtain rfl : flag = value := Outcome.flag.inj outcome
      obtain ⟨permitted, remaps, event, made, rfl⟩ := View.applyOn_ok applies
      exact ⟨permitted, remaps, handle, event, made, shownAfter⟩

end Shows

/-- What an application has established on its date, and what it has left alone. -/
structure Applied (before after : Session) (date : Date) (patternName : String) (day : Weekday)
    (custom? : Option String) : Prop where
  record : (after.run (.record date)).1 = .record (some ⟨date, patternName,
    Remap.flatten (Plan.preview patternName day custom?) patternName⟩)
  /-- There is one marker, after the ordinary events of the date. -/
  marker : ∃ event : Event,
    event.title = before.lead ++ View.markerText patternName custom? ∧
    after.markersOn date = [event] ∧
    after.eventsOn date =
      (before.eventsOn date).filter (!Marker.isTitle before.lead ·.title) ++ [event] ∧
    (after.run (.findMarker date)).1 = .marker (some
      ⟨String.ofList (Text.trim (View.markerText patternName custom?).toList), event.handle⟩)
  otherEvents (other : Date) : other ≠ date → after.eventsOn other = before.eventsOn other
  otherRecords (other : Date) : other ≠ date →
    (after.run (.record other)).1 = (before.run (.record other)).1
  entries : (after.run .entries).1 = (before.run .entries).1
  fetch (weekday : Weekday) : (after.run (.fetch weekday)).1 = (before.run (.fetch weekday)).1

/-- An application that succeeds leaves exactly its record and one marker on the date, and
says whether there is anything to remap. -/
theorem applyOn_establishes {session : Session} {date : Date} {patternName : String}
    {day : Weekday} {custom? : Option String} {flag : Bool} (reachable : session.Reachable)
    (calm : session.faults = [])
    (answered : (session.run (.applyOn date patternName day custom?)).1 = .flag flag) :
    Applied session (session.run (.applyOn date patternName day custom?)).2 date patternName day
        custom? ∧
      (flag = true ↔ Plan.preview patternName day custom? ≠ []) := by
  obtain ⟨view, shown⟩ := reachable.shows calm
  obtain ⟨permitted, rfl, handle, event, made, after⟩ := shown.applyOn_ok answered
  obtain ⟨_, here, titled⟩ := Event.fullDay_fields made
  refine ⟨⟨?_, ⟨event, ?_, ?_, ?_, ?_⟩, ?_, ?_, ?_, ?_⟩, by simp⟩
  · rw [(after.record date).1, View.withRecord_recordOn_self]
  · rw [titled, shown.lead]
    rfl
  · rw [after.markersOn, View.withRecord_markersOn]
    exact View.markersOn_marked (View.isMarkerOn_of_fullDay made)
  · rw [after.eventsOn, shown.eventsOn, ← shown.lead]
    exact view.eventsOn_marked here
  · rw [(after.findMarker date).1]
    exact congrArg (Outcome.ofCalendar .marker) (View.findMarker_marked permitted made)
  · intro other elsewhere
    rw [after.eventsOn, shown.eventsOn]
    exact view.eventsOn_marked_of_ne here elsewhere
  · intro other elsewhere
    rw [(after.record other).1, (shown.record other).1,
      View.withRecord_recordOn_of_ne _ _ elsewhere]
    rfl
  · rw [after.entries.1, shown.entries.1]
    rfl
  · intro weekday
    rw [(after.fetch weekday).1, (shown.fetch weekday).1]
    rfl

/-- A session with a meeting on a date and two markers around it. -/
def meeting : Session :=
  emptyTables.runAll [.addEvent monday "特殊", .addEvent monday "会議", .addEvent monday "短縮"]

theorem applyOn_establishes_meeting :
    meeting.Reachable ∧ meeting.faults = [] ∧
      (meeting.run (.applyOn monday "行事" .wednesday (some " 月1→水1 "))).1 = .flag true ∧
      Applied meeting (meeting.run (.applyOn monday "行事" .wednesday (some " 月1→水1 "))).2 monday
        "行事" .wednesday (some " 月1→水1 ") :=
  have reachable : meeting.Reachable := reachable_emptyTables.runAll _
  have answered :
      (meeting.run (.applyOn monday "行事" .wednesday (some " 月1→水1 "))).1 = .flag true := by rfl
  ⟨reachable, rfl, answered, (applyOn_establishes reachable rfl answered).1⟩

end Session
end SchoolWeek
