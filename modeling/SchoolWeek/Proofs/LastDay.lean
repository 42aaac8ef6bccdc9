import Mathlib
import SchoolWeek.Proofs.InBounds
import SchoolWeek.Proofs.Panics
import SchoolWeek.Proofs.Undoing

/-! The last day of the calendar. A step that panics there leaves everything as it was but for
a number that was given out, as no calendar ever holds an event on that day. -/
namespace SchoolWeek

section Steps

variable {σ : Type} [Backend σ] [Backend.Lawful σ] [EventBook σ] [EventBook.Lawful σ]
  {state : Traced σ} {view : View}

/-- A panic makes no more of a state than this. -/
structure Backend.Stops (stuck : σ → σ) : Prop where
  createMarker {state : σ} {view : View} {date : Date} {patternName : String} :
    Backend.Lawful.Shows state view →
    failsBy CalendarError.isPanic (Backend.createMarker date patternName state).1 = true →
    (Backend.createMarker date patternName state).2 = stuck state
  addEvent {state : σ} {view : View} {date : Date} {title : String} :
    Backend.Lawful.Shows state view →
    failsBy CalendarError.isPanic (EventBook.addEvent date title state).1 = true →
    (EventBook.addEvent date title state).2 = stuck state

variable {stuck : σ → σ}

omit [EventBook.Lawful σ] in
theorem Traced.createMarker_stops (stops : Backend.Stops stuck)
    (shown : Backend.Lawful.Shows state.base view) {date : Date} {patternName : String}
    (panics : failsBy CalendarError.isPanic (Backend.createMarker date patternName state).1 = true) :
    ∃ calls, (Backend.createMarker date patternName state).2 =
      ⟨stuck state.base, calls, state.faults⟩ := by
  have noted : failsBy CalendarError.isPanic (Backend.createMarker date patternName state).1 = _ :=
    failsBy_noted (-1)
  rw [noted, Bool.and_eq_true, Bool.not_eq_true'] at panics
  obtain ⟨free, panics⟩ := panics
  refine ⟨state.calls ++ [.createMarker], ?_⟩
  rw [← stops.createMarker shown panics]
  exact congrArg Prod.snd (noted_of_not_awaits _ free)

omit [EventBook.Lawful σ] in
theorem Traced.applyOn_stops (stops : Backend.Stops stuck)
    (shown : Backend.Lawful.Shows state.base view) {date : Date} {patternName : String}
    {day : Weekday} {custom? : Option String}
    (panics : failsBy ApplyError.isPanic
      (Engine.applyOn date patternName day custom? state).1 = true) :
    ∃ calls, (Engine.applyOn date patternName day custom? state).2 =
      ⟨stuck state.base, calls, state.faults⟩ := by
  rw [Engine.applyOn_stops panics]
  rw [Engine.failsBy_applyOn] at panics
  exact createMarker_stops stops shown panics

/-- A step that panics has given out one number and done nothing else. -/
theorem Step.run_stops (steady : Backend.Steady σ) (stops : Backend.Stops stuck)
    (shown : Backend.Lawful.Shows state.base view) {step : Step}
    (panics : (step.run state).1.isPanic = true) :
    ∃ calls, (step.run state).2 = ⟨stuck state.base, calls, state.faults⟩ := by
  have builds := (step.run_isPanic_iff steady shown).mp panics
  cases step with
  | addEvent date title =>
    change (Outcome.ofCalendar .handle (EventBook.addEvent date title state).1).isPanic = true
      at panics
    rw [Outcome.isPanic_ofCalendar fun _ => rfl] at panics
    exact ⟨state.calls, congrArg (Traced.mk · state.calls state.faults)
      (stops.addEvent shown panics)⟩
  | createMarker date patternName =>
    change (Outcome.ofCalendar .handle
      (Backend.createMarker date patternName state).1).isPanic = true at panics
    rw [Outcome.isPanic_ofCalendar fun _ => rfl] at panics
    exact Traced.createMarker_stops stops shown panics
  | applyOn date patternName day custom? =>
    exact Traced.applyOn_stops stops shown ((Outcome.isPanic_ofApply _).symm.trans panics)
  | apply date patternName custom? =>
    exact Traced.applyOn_stops stops shown ((Outcome.isPanic_ofApply _).symm.trans panics)
  | http request =>
    obtain ⟨mayMark, order, orders, written⟩ := builds
    have unanswered := Outcome.isPanic_ofHttp_iff.mp panics
    show ∃ calls, (Http.handle request state).2 = _
    rw [orders.handle_eq] at unanswered ⊢
    rw [Http.putSpecial_stops unanswered]
    exact Traced.createMarker_stops stops shown (Http.putSpecial_eq_none_iff.mp unanswered).2
  | _ => exact builds.elim

/-- The events of the last day can be listed at any time, and there are none. -/
theorem Step.run_events_last (shown : Backend.Lawful.Shows state.base view) :
    ((Step.events Date.last).run state).1 = .events [] := by
  have listed : (EventBook.eventsOn Date.last state.base).1 = _ :=
    (EventBook.Lawful.eventsOn Date.last shown).1
  rw [(Backend.Lawful.valid shown).eventsOn_last] at listed
  exact congrArg (Outcome.ofStore .events) listed

end Steps

theorem Calendar.addEvent_stops {calendar : Calendar} {date : Date} {title : String}
    (panics : failsBy CalendarError.isPanic (calendar.addEvent date title).1 = true) :
    (calendar.addEvent date title).2 =
      { calendar with nextHandle := calendar.nextHandle + 1 } := by
  unfold addEvent at panics ⊢
  dsimp only at panics ⊢
  cases made : Event.fullDay calendar.nextHandle date title with
  | error error => rfl
  | ok event =>
    rw [made] at panics
    cases panics

/-- The markers of the last day go before the new one is made, but there are none. -/
theorem Memory.stops : Backend.Stops fun memory : Memory =>
    { memory with
      calendar := { memory.calendar with nextHandle := memory.calendar.nextHandle + 1 } } where
  createMarker {memory view date patternName} := by
    rintro ⟨sound, rfl⟩ panics
    change failsBy _ (memory.calendar.createMarker date patternName).1 = true at panics
    obtain ⟨-, rfl⟩ := (View.failsBy_createMarker _ patternName).mp
      ((congrArg _ (Memory.createMarker_gives sound date patternName).1).symm.trans panics)
    have fails : Event.fullDay 0 Date.last "" = .error (.noNextDay Date.last) := rfl
    have kept : memory.calendar.events.filter (!memory.calendar.isMarkerOn Date.last ·) =
        memory.calendar.events := congrArg View.events (withoutMarkers_of_error sound.valid fails)
    show { memory with calendar := (memory.calendar.createMarker Date.last patternName).2 } = _
    unfold Calendar.createMarker at panics ⊢
    split_ifs at panics ⊢
    · rw [Calendar.addEvent_stops panics, kept]
    · cases panics
  addEvent {memory view date title} := by
    intro _ panics
    exact congrArg (fun calendar => { memory with calendar }) (Calendar.addEvent_stops panics)

/-- A database in which the event cannot be made takes everything back. -/
theorem TableStore.stops : Backend.Stops (id : TableStore → TableStore) where
  createMarker {store view date patternName} := by
    intro _ panics
    obtain ⟨error, failed⟩ := exists_error_of_failsBy panics
    exact createMarker_refused (Prod.ext failed rfl)
  addEvent {store view date title} := by
    intro _ panics
    obtain ⟨error, failed⟩ := exists_error_of_failsBy panics
    exact addEvent_refused (Prod.ext failed rfl)

namespace Session

/-- A marker is not kept from being made, by a lack of permission or by a fault. -/
def mayMark (session : Session) : Bool :=
  session.permitted && !session.faults.any (·.call == .createMarker)

/-- Panics are confined to one place, and there they are harmless. -/
structure Confined (session : Session) : Prop where
  panics_iff (step : Step) :
    (session.run step).1.isPanic = true ↔ step.BuildsOn Date.last session.mayMark
  inMemory (step : MemoryStep) : (session.runMemory step).1.isPanic = false
  inFile (step : FileStep) : (session.runFile step).1.isPanic = false
  /-- The timetable, the records and the events are as before: a number was given out. -/
  harmless (step : Step) : (session.run step).1.isPanic = true →
    ∃ next calls, (session.run step).2 = session.numbering next calls
  lastDay : (session.run (.events Date.last)).1 = .events []

theorem isPanic_runMemory (session : Session) (step : MemoryStep) :
    (session.runMemory step).1.isPanic = false := by
  cases session with
  | tables inFile state => rfl
  | memory state =>
    cases step with
    | upsert entry => exact Outcome.isPanic_ofStore (fun _ => rfl) _
    | removeEntry day period => rfl
    | permission granted => rfl

theorem isPanic_runFile (session : Session) (step : FileStep) :
    (session.runFile step).1.isPanic = false := by
  match session with
  | memory state => rfl
  | tables false state => rfl
  | tables true state =>
    cases step with
    | reopen lead => rfl
    | insertRow row => rfl
    | insertEvent date title start stop allDay => rfl
    | insertSchedule date patternName =>
      show (FileStep.run (.insertSchedule date patternName) state).1.isPanic = false
      unfold FileStep.run
      dsimp only
      split <;> rfl

theorem numbering_lastHandle {inFile : Bool} (state : Traced TableStore) (calls : List Call) :
    tables inFile ⟨state.base, calls, state.faults⟩ =
      (tables inFile state).numbering (state.base.tables.lastHandle + 1) calls := by
  rw [numbering, add_sub_cancel_right]

theorem BaseShows.confined {session : Session} {view : View} (shown : session.BaseShows view) :
    session.Confined := by
  have permitted := shown.permitted
  cases session with
  | memory state =>
    have panics_iff (step : Step) := step.run_isPanic_iff Memory.steady shown
    rw [permitted] at panics_iff
    exact ⟨panics_iff, isPanic_runMemory _, isPanic_runFile _, fun step panics =>
      have ⟨calls, ran⟩ := step.run_stops Memory.steady Memory.stops shown panics
      ⟨_, calls, congrArg memory ran⟩, Step.run_events_last shown⟩
  | tables inFile state =>
    have panics_iff (step : Step) := step.run_isPanic_iff TableStore.steady shown
    rw [permitted] at panics_iff
    exact ⟨panics_iff, isPanic_runMemory _, isPanic_runFile _, fun step panics =>
      have ⟨calls, ran⟩ := step.run_stops TableStore.steady TableStore.stops shown panics
      ⟨_, calls, (congrArg (tables inFile) ran).trans (numbering_lastHandle state calls)⟩,
      Step.run_events_last shown⟩

/-- Whatever has been done and whatever faults wait, a step panics only on its way to an event
on the last day, and leaves everything as it was; nothing else is ever out of bounds. -/
theorem panics_are_confined {session : Session} (reachable : session.Reachable) :
    session.Confined ∧ InBounds :=
  have ⟨_, shown⟩ := reachable.baseShows
  ⟨shown.confined, inBounds⟩

theorem panics_are_confined_meeting :
    meeting.Reachable ∧ meeting.Confined ∧ InBounds ∧
      (meeting.run (.apply Date.last "短縮A時程" none)).1.isPanic = true ∧
      ∃ next calls, (meeting.run (.apply Date.last "短縮A時程" none)).2 =
        meeting.numbering next calls := by
  have reachable : meeting.Reachable := reachable_emptyTables.runAll _
  obtain ⟨confined, bounded⟩ := panics_are_confined reachable
  have panics := (confined.panics_iff (.apply Date.last "短縮A時程" none)).mpr ⟨rfl, rfl⟩
  exact ⟨reachable, confined, bounded, panics, confined.harmless _ panics⟩

end Session

end SchoolWeek
