import Mathlib
import SchoolWeek.Proofs.DatesApart

/-! What every step makes of the view that a session shows and of the numbering of its
events. The view before and the number of the next event decide on both, so what holds of
views after each of these changes holds after each step, and by induction after any run. -/
namespace SchoolWeek

namespace View

/-- The view after a request, which reads no more of the request than its task. -/
def afterTask (view : View) (handle : Int) : Http.Task → View
  | .writeTimetable entries => (view.replaceEntries entries).2
  | .readSchedule date => (view.remapsFor date).2
  | .writeSpecial date order =>
    let patternName := String.ofList (Text.trim order.patternName.toList)
    if patternName.isEmpty then view
    else (view.applyOn handle date patternName date.weekday order.custom?).2
  | .removeSpecial date => (view.remove date).2
  | .respond _ | .readTimetable | .listSpecials _ _ => view

/-- The view after a step that lays no fault, where a new event gets this handle. -/
def after (view : View) (handle : Int) : Step → View
  | .replaceEntries entries => (view.replaceEntries entries).2
  | .replace date remaps patternName =>
    view.withRecord date (some ⟨date, patternName, Remap.flatten remaps patternName⟩)
  | .clear date => view.withRecord date none
  | .addEvent date title => (view.addEvent handle date title).2
  | .createMarker date patternName => (view.createMarker handle date patternName).2
  | .deleteMarker old => (view.deleteMarker old).2
  | .effective date | .effectiveSorted date | .remapsFor date => (view.remapsFor date).2
  | .applyOn date patternName day custom? =>
    (view.applyOn handle date patternName day custom?).2
  | .apply date patternName custom? =>
    (view.applyOn handle date patternName date.weekday custom?).2
  | .remove date => (view.remove date).2
  | .http request => view.afterTask handle request.task
  | .entries | .fetch _ | .rows _ | .storedRemaps _ | .record _ | .specialDates _ _ | .events _
  | .findMarker _ | .normal _ | .merge _ | .takeCalls | .setFault _ => view

/-- The view after a step open to the backend in memory only. -/
def afterInMemory (view : View) : MemoryStep → View
  | .upsert entry =>
    let timetable : Timetable := ⟨view.entries⟩
    { view with entries := ((timetable.upsert entry).toOption.getD timetable).stored }
  | .removeEntry day period =>
    let timetable : Timetable := ⟨view.entries⟩
    { view with entries := (timetable.remove day period).2.stored }
  | .permission granted => { view with permitted := granted }

section Records

variable (view : View) (date : Date) (handle : Int)

theorem replaceEntries_recordOn (entries : List Entry) :
    (view.replaceEntries entries).2.recordOn = view.recordOn := by
  unfold View.replaceEntries
  split <;> rfl

theorem addEvent_recordOn (title : String) :
    (view.addEvent handle date title).2.recordOn = view.recordOn := by
  unfold View.addEvent
  split <;> rfl

theorem createMarker_recordOn (patternName : String) :
    (view.createMarker handle date patternName).2.recordOn = view.recordOn := by
  rw [createMarker_eq]
  split_ifs
  · split <;> rfl
  · rfl

theorem deleteMarker_recordOn : (view.deleteMarker handle).2.recordOn = view.recordOn := by
  unfold View.deleteMarker
  split_ifs <;> rfl

end Records

end View

/-- The date that a request asks to be marked. -/
def Http.Task.marks? : Task → Option Date
  | writeSpecial date order =>
    if (String.ofList (Text.trim order.patternName.toList)).isEmpty then none else some date
  | _ => none

/-- The date on which a step puts an event; a marker needs permission. -/
def Step.numbers? (permitted : Bool) : Step → Option Date
  | addEvent date _ => some date
  | createMarker date _ | applyOn date _ _ _ | apply date _ _ => if permitted then some date else none
  | http request => if permitted then request.task.marks? else none
  | _ => none

open Backend.Lawful (Shows)

namespace Http

variable {σ : Type} [Backend σ] [Backend.Lawful σ] {state : σ} {view : View}

theorem putTimetable_shows (entries : List Entry) (shown : Shows state view) :
    Shows (putTimetable entries state).2 (view.replaceEntries entries).2 := by
  have replaced := Backend.Lawful.replaceEntries entries shown
  rw [putTimetable]
  generalize Backend.replaceEntries entries state = ran at replaced ⊢
  obtain ⟨result, between⟩ := ran
  cases result with
  | error error => exact replaced.2
  | ok done =>
    obtain ⟨last, read, shown⟩ := (Backend.Lawful.entries replaced.2).ran
    dsimp only
    rw [getTimetable, answer, read]
    exact shown

theorem getSchedule_shows (date : Date) (shown : Shows state view) :
    Shows (getSchedule date state).2 (view.remapsFor date).2 := by
  obtain ⟨between, read, shown⟩ := (Engine.effectiveSchedule_gives date shown).ran
  rw [getSchedule, read]
  exact (Backend.Lawful.record date shown).2

theorem deleteSpecial_shows (date : Date) (shown : Shows state view) :
    Shows (deleteSpecial date state).2 (view.remove date).2 := by
  have removed := Engine.remove_gives date shown
  rw [deleteSpecial]
  generalize Engine.remove date state = ran at removed ⊢
  obtain ⟨result, after⟩ := ran
  cases result with
  | error error => exact removed.2
  | ok found => cases found <;> exact removed.2

end Http

section Numbers

variable {σ : Type} [Backend σ] [Backend.Lawful σ] [EventBook σ] [Numbered σ]

namespace Numbered

theorem storedRemaps (date : Date) (state : σ) :
    next (Backend.storedRemaps date state).2 = next state := rows date state

theorem classesOn (day : Weekday) (state : σ) :
    next (Engine.classesOn day state).2 = next state := by
  have fetched := fetch day state
  unfold Engine.classesOn
  split <;> rename_i read <;> rwa [read] at fetched

theorem normalSchedule (date : Date) (state : σ) :
    next (Engine.normalSchedule date state).2 = next state := classesOn date.weekday state

theorem remapsFromMarker (date : Date) (state : σ) :
    next (Engine.remapsFromMarker date state).2 = next state := by
  have looked := findMarker date state
  unfold Engine.remapsFromMarker
  split
  · rename_i marker between found
    rw [found] at looked
    exact (replace date _ _ between).trans looked
  · rename_i result between _ found
    rwa [found] at looked

theorem remapsFor (date : Date) (state : σ) :
    next (Engine.remapsFor date state).2 = next state := by
  have read := storedRemaps date state
  unfold Engine.remapsFor
  split
  · rename_i between ran
    rwa [ran] at read
  · rename_i between ran
    rwa [ran] at read
  · rename_i between ran
    rw [ran] at read
    have asked := record date between
    split
    · rename_i last missing
      rw [missing] at asked
      exact (remapsFromMarker date last).trans (asked.trans read)
    · rename_i last _ recorded
      rw [recorded] at asked
      exact asked.trans read

theorem mergeKnowing (known : List (Weekday × List Entry)) (remaps : List Remap) (state : σ) :
    next (Engine.mergeKnowing known remaps state).2 = next state := by
  induction remaps generalizing known state with
  | nil => rfl
  | cons remap remaps ih =>
    rw [Engine.mergeKnowing]
    split
    · exact ih known state
    · exact (ih _ _).trans (classesOn remap.source state)

theorem effectiveSchedule (date : Date) (state : σ) :
    next (Engine.effectiveSchedule date state).2 = next state := by
  have found := remapsFor date state
  unfold Engine.effectiveSchedule
  split
  · rename_i between ran
    rw [ran] at found
    exact (normalSchedule date between).trans found
  · rename_i remaps between _ ran
    rw [ran] at found
    exact (mergeKnowing [] remaps between).trans found

theorem removeMarkers (date : Date) (attempts : Nat) (removed : Bool) (state : σ) :
    next (Engine.removeMarkers date attempts removed state).2 = next state := by
  induction attempts generalizing removed state with
  | zero => rfl
  | succ attempts ih =>
    have looked := findMarker date state
    rw [Engine.removeMarkers]
    split
    · rename_i between found
      rwa [found] at looked
    · rename_i between found
      rwa [found] at looked
    · rename_i error between _ found
      rwa [found] at looked
    · rename_i marker between found
      rw [found] at looked
      have deleted := deleteMarker marker.handle between
      split
      · rename_i error last gone
        rw [gone] at deleted
        exact deleted.trans looked
      · rename_i last gone
        rw [gone] at deleted
        exact (ih true last).trans (deleted.trans looked)

theorem remove (date : Date) (state : σ) : next (Engine.remove date state).2 = next state := by
  have cleared := clear date state
  unfold Engine.remove
  split
  · rename_i error between ran
    rwa [ran] at cleared
  · rename_i flag between ran
    rw [ran] at cleared
    have removed := removeMarkers date Engine.markerDeletions false between
    split
    · rename_i error last ended
      rw [ended] at removed
      exact removed.trans cleared
    · rename_i last ended
      rw [ended] at removed
      exact removed.trans cleared

omit [Backend σ] [Backend.Lawful σ] [EventBook σ] [Numbered σ] in
theorem add_elim (number : Int) (permitted : Bool) (date : Date) (taken : Date → Int) :
    (if permitted then number + taken date else number) =
      number + (if permitted then some date else none).elim 0 taken := by
  cases permitted <;> simp

/-- An application numbers its marker, whether or not the record can be written after it. -/
theorem applyOn {state : σ} {view : View} (date : Date) (patternName : String) (day : Weekday)
    (custom? : Option String) (shown : Shows state view) :
    Gives (fun after shown => Shows after shown ∧
        next after = if view.permitted then next state + taken σ date else next state)
      (Engine.applyOn date patternName day custom? state)
      (view.applyOn (next state) date patternName day custom?) := by
  have created := createMarker date (View.markerText patternName custom?) shown
  rw [Engine.applyOn, View.applyOn, ← View.markerText]
  generalize view.createMarker (next state) date (View.markerText patternName custom?) = expected
    at created ⊢
  obtain ⟨result, marked⟩ := expected
  obtain ⟨after, ran, shown, moved⟩ := created.ran
  rw [ran]
  cases result with
  | error error => exact ⟨rfl, shown, moved⟩
  | ok handle =>
    have still := replace date (Plan.preview patternName day custom?) patternName after
    obtain ⟨last, replaced, shown⟩ := (Backend.Lawful.replace date
      (Plan.preview patternName day custom?) patternName shown).ran
    rw [replaced] at still
    dsimp only
    rw [replaced]
    exact ⟨rfl, shown, still.trans moved⟩

theorem answer {α : Type} (encode : α → Json) {operation : Operation σ StoreError α} {state : σ}
    (still : next (operation state).2 = next state) :
    next (Http.answer encode operation state).2 = next state := by
  unfold Http.answer
  split <;> rename_i ran <;> rwa [ran] at still

theorem putTimetable (list : List Entry) (state : σ) :
    next (Http.putTimetable list state).2 = next state := by
  have replaced := replaceEntries list state
  unfold Http.putTimetable
  split
  · rename_i error between ran
    rwa [ran] at replaced
  · rename_i between ran
    rw [ran] at replaced
    exact (answer Encode.entries (entries between)).trans replaced

theorem getSchedule (date : Date) (state : σ) :
    next (Http.getSchedule date state).2 = next state :=
  (record date _).trans (effectiveSchedule date state)

theorem deleteSpecial (date : Date) (state : σ) :
    next (Http.deleteSpecial date state).2 = next state := by
  have removed := remove date state
  unfold Http.deleteSpecial
  split <;> rename_i ran <;> rwa [ran] at removed

end Numbered

variable {state : σ} {view : View}

namespace Http

/-- The remaps are read again for the answer, which numbers nothing. -/
theorem putSpecial_numbered (date : Date) (order : ApplyOrder) (shown : Shows state view) :
    Shows (putSpecial date order state).2
        (view.afterTask (Numbered.next state) (.writeSpecial date order)) ∧
      Numbered.next (putSpecial date order state).2 = Numbered.next state +
        (if view.permitted then (Task.writeSpecial date order).marks? else none).elim 0
          (Numbered.taken σ) := by
  rw [putSpecial]
  dsimp only [View.afterTask, Task.marks?]
  split_ifs with blank permitted permitted
  · exact ⟨shown, (add_zero _).symm⟩
  · exact ⟨shown, (add_zero _).symm⟩
  all_goals
    obtain ⟨-, applied, moved⟩ := Numbered.applyOn date
      (String.ofList (Text.trim order.patternName.toList)) date.weekday order.custom? shown
    rw [Engine.apply]
    generalize Engine.applyOn date _ date.weekday order.custom? state = ran at applied moved ⊢
    obtain ⟨result, between⟩ := ran
    simp only [permitted] at moved
    cases result with
    | error error => exact ⟨applied, by simpa using moved⟩
    | ok flag =>
      have still := Numbered.storedRemaps date between
      obtain ⟨last, read, shown⟩ := (Engine.storedRemaps_gives date applied).ran
      rw [read] at still
      dsimp only
      rw [answer, read]
      exact ⟨shown, by simpa using still.trans moved⟩

theorem Task.perform_numbered (task : Task) (shown : Shows state view) :
    Shows (task.perform state).2 (view.afterTask (Numbered.next state) task) ∧
      Numbered.next (task.perform state).2 = Numbered.next state +
        (if view.permitted then task.marks? else none).elim 0 (Numbered.taken σ) := by
  have silent {after : σ} (shows : Shows after (view.afterTask (Numbered.next state) task))
      (same : task.marks? = none) (still : Numbered.next after = Numbered.next state) :
      Shows after (view.afterTask (Numbered.next state) task) ∧ Numbered.next after =
        Numbered.next state +
          (if view.permitted then task.marks? else none).elim 0 (Numbered.taken σ) := by
    rw [same, ite_self]
    exact ⟨shows, still.trans (add_zero _).symm⟩
  cases task with
  | respond response => exact silent shown rfl rfl
  | readTimetable =>
    obtain ⟨after, read, shown⟩ := (Backend.Lawful.entries shown).ran
    have still := Numbered.answer Encode.entries (Numbered.entries state)
    refine silent ?_ rfl still
    rw [perform, always, getTimetable, answer, read]
    exact shown
  | writeTimetable entries =>
    exact silent (putTimetable_shows entries shown) rfl (Numbered.putTimetable entries state)
  | readSchedule date =>
    exact silent (getSchedule_shows date shown) rfl (Numbered.getSchedule date state)
  | writeSpecial date order => exact putSpecial_numbered date order shown
  | removeSpecial date =>
    exact silent (deleteSpecial_shows date shown) rfl (Numbered.deleteSpecial date state)
  | listSpecials first last =>
    obtain ⟨dates, listed⟩ := Backend.Lawful.specialDates first last shown
    obtain ⟨after, read, shown⟩ := listed.ran
    have still := Numbered.answer (fun dates => .array (dates.map Encode.date))
      (Numbered.specialDates first last state)
    refine silent ?_ rfl still
    rw [perform, always, getSpecials, answer, read]
    exact shown

end Http

end Numbers

/-- Every step that lays no fault makes of the view what `View.after` says, and numbers at
most one event. -/
theorem Step.run_numbered {σ : Type} [Backend σ] [Backend.Lawful σ] [EventBook σ]
    [EventBook.Lawful σ] [Numbered σ] {state : Traced σ} {view : View} (shown : state.Shows view)
    {step : Step} (calm : ∀ fault, step ≠ .setFault fault) :
    (step.run state).2.Shows (view.after (Numbered.next state) step) ∧
      Numbered.next (step.run state).2 =
        Numbered.next state + (step.numbers? view.permitted).elim 0 (Numbered.taken σ) := by
  have shows : Backend.Lawful.Shows state view := shown
  have still {after : Traced σ} {other : View} (shows : after.Shows other)
      (same : Numbered.next after = Numbered.next state) :
      after.Shows other ∧ Numbered.next after = Numbered.next state + 0 :=
    ⟨shows, same.trans (add_zero _).symm⟩
  cases step with
  | replaceEntries entries =>
    exact still (Backend.Lawful.replaceEntries entries shows).2 (Numbered.replaceEntries entries _)
  | entries => exact still (Backend.Lawful.entries shows).2 (Numbered.entries _)
  | fetch day => exact still (Backend.Lawful.fetch day shows).2 (Numbered.fetch day _)
  | replace date remaps patternName =>
    exact still (Backend.Lawful.replace date remaps patternName shows).2
      (Numbered.replace date remaps patternName _)
  | rows date => exact still (Backend.Lawful.rows date shows).2 (Numbered.rows date _)
  | storedRemaps date =>
    exact still (Engine.storedRemaps_gives date shows).2 (Numbered.storedRemaps date _)
  | record date => exact still (Backend.Lawful.record date shows).2 (Numbered.record date _)
  | clear date => exact still (Backend.Lawful.clear date shows).2 (Numbered.clear date _)
  | specialDates first last =>
    obtain ⟨dates, listed⟩ := Backend.Lawful.specialDates first last shows
    exact still listed.2 (Numbered.specialDates first last _)
  | addEvent date title => exact (Numbered.addEvent date title shows).2
  | events date => exact still (EventBook.Lawful.eventsOn date shows).2 (Numbered.eventsOn date _)
  | findMarker date =>
    exact still (Backend.Lawful.findMarker date shows).2 (Numbered.findMarker date _)
  | createMarker date patternName =>
    obtain ⟨-, created, moved⟩ := Numbered.createMarker date patternName shows
    exact ⟨created, moved.trans (Numbered.add_elim _ _ _ _)⟩
  | deleteMarker handle =>
    exact still (Backend.Lawful.deleteMarker handle shows).2 (Numbered.deleteMarker handle _)
  | effective date | effectiveSorted date =>
    exact still (Engine.effectiveSchedule_gives date shows).2 (Numbered.effectiveSchedule date _)
  | remapsFor date =>
    exact still (Engine.remapsFor_gives date shows).2 (Numbered.remapsFor date _)
  | normal date =>
    exact still (Engine.normalSchedule_gives date shows).2 (Numbered.normalSchedule date _)
  | merge remaps =>
    exact still (Engine.merge_gives remaps shows).2 (Numbered.mergeKnowing [] remaps _)
  | applyOn date patternName day custom? =>
    obtain ⟨-, applied, moved⟩ := Numbered.applyOn date patternName day custom? shows
    exact ⟨applied, moved.trans (Numbered.add_elim _ _ _ _)⟩
  | apply date patternName custom? =>
    obtain ⟨-, applied, moved⟩ := Numbered.applyOn date patternName date.weekday custom? shows
    exact ⟨applied, moved.trans (Numbered.add_elim _ _ _ _)⟩
  | remove date => exact still (Engine.remove_gives date shows).2 (Numbered.remove date _)
  | http request =>
    have performed := request.task.perform_numbered shows
    rw [run, Outcome.of, Http.handle_eq_perform]
    exact performed
  | takeCalls => exact still shown rfl
  | setFault fault => exact (calm fault rfl).elim

theorem MemoryStep.run_shows {state : Traced Memory} {view : View} (shown : state.Shows view)
    (step : MemoryStep) : (step.run state).2.Shows (view.afterInMemory step) := by
  obtain ⟨calm, sound, rfl⟩ := shown
  cases step with
  | upsert entry =>
    rw [run, Outcome.of, Traced.below, Memory.upsert, View.afterInMemory]
    dsimp only [Memory.view]
    cases state.base.timetable.upsert entry with
    | error error => exact ⟨calm, sound, rfl⟩
    | ok timetable => exact ⟨calm, sound.withTimetable timetable, rfl⟩
  | removeEntry day period => exact ⟨calm, sound.withTimetable _, rfl⟩
  | permission granted => exact ⟨calm, sound.setPermission granted, rfl⟩

theorem MemoryStep.next_run (state : Traced Memory) (step : MemoryStep) :
    Numbered.next (step.run state).2 = Numbered.next state := by
  obtain ⟨_, _, _, -, ran⟩ := step.run_eq
  rw [ran state]
  rfl

namespace Session

def isMemory : Session → Bool
  | memory _ => true
  | tables _ _ => false

/-- How far an event on the date moves the numbering. -/
def taken : Session → Date → Int
  | memory _ => Numbered.taken Memory
  | tables _ _ => Numbered.taken TableStore

theorem taken_eq {left right : Session} (kind : left.isMemory = right.isMemory) :
    left.taken = right.taken := by
  cases left <;> cases right <;> first | rfl | cases kind

theorem taken_of_followed (session : Session) {date : Date} (followed : date.next?.isSome) :
    session.taken date = 1 := by
  cases session with
  | memory state => rfl
  | tables inFile state => exact if_pos followed

theorem isMemory_run (session : Session) (step : Step) :
    (session.run step).2.isMemory = session.isMemory := by
  cases session <;> rfl

theorem isMemory_runAll (steps : List Step) (session : Session) :
    (session.runAll steps).isMemory = session.isMemory := by
  induction steps generalizing session with
  | nil => rfl
  | cons step steps ih => exact (ih _).trans (session.isMemory_run step)

theorem Shows.run_numbered {session : Session} {view : View} (shown : session.Shows view)
    (step : Step) (calm : ∀ fault, step ≠ .setFault fault) :
    (session.run step).2.Shows (view.after session.next step) ∧
      (session.run step).2.next =
        session.next + (step.numbers? view.permitted).elim 0 session.taken := by
  cases session with
  | memory state => exact Step.run_numbered shown calm
  | tables inFile state => exact Step.run_numbered shown calm

namespace Act

/-- Calls are taken and faults are laid for tests only. -/
def isForTests : Act → Bool
  | common .takeCalls | common (.setFault _) => true
  | _ => false

/-- The date on which the act puts an event. -/
def numbers? (permitted : Bool) : Act → Option Date
  | common step => step.numbers? permitted
  | inMemory _ => none

theorem ne_setFault {step : Step} (used : (common step).isForTests = false) (fault : Fault) :
    step ≠ .setFault fault := by
  rintro rfl
  cases used

theorem isMemory_run (act : Act) (session : Session) :
    (act.run session).2.isMemory = session.isMemory := by
  cases act <;> cases session <;> rfl

end Act

end Session

/-- The view after an act in a session of the kind, where a new event gets this handle. -/
def View.afterAct (view : View) (isMemory : Bool) (handle : Int) : Session.Act → View
  | .common step => view.after handle step
  | .inMemory step => if isMemory then view.afterInMemory step else view

namespace Session

/-- The acts one after the other, whatever they answer. -/
def runActs (acts : List Act) (session : Session) : Session :=
  acts.foldl (fun session act => (act.run session).2) session

theorem Shows.act_numbered {session : Session} {view : View} {act : Act}
    (shown : session.Shows view) (used : act.isForTests = false) :
    (act.run session).2.Shows (view.afterAct session.isMemory session.next act) ∧
      (act.run session).2.next =
        session.next + (act.numbers? view.permitted).elim 0 session.taken := by
  cases act with
  | common step => exact shown.run_numbered step (Act.ne_setFault used)
  | inMemory step =>
    cases session with
    | memory state =>
      exact ⟨step.run_shows shown, (step.next_run state).trans (add_zero _).symm⟩
    | tables inFile state => exact ⟨shown, (add_zero _).symm⟩

theorem Shows.fresh {session : Session} {view : View} (shown : session.Shows view) :
    ∀ handle ∈ view.handles, handle < session.next := by
  cases session with
  | memory state =>
    have shows : Backend.Lawful.Shows state view := shown
    exact Numbered.fresh shows
  | tables inFile state =>
    have shows : Backend.Lawful.Shows state view := shown
    exact Numbered.fresh shows

/-- What a session shows after an application where one can succeed, and the answer. -/
theorem Shows.applies {session : Session} {view : View} (shown : session.Shows view)
    (permitted : view.permitted = true) {date : Date} (followed : date.next?.isSome)
    (patternName : String) (day : Weekday) (custom? : Option String) :
    let ran := session.run (.applyOn date patternName day custom?)
    ∃ event,
      Event.fullDay session.next date
        (Marker.title view.lead (View.markerText patternName custom?)) = .ok event ∧
      ran.1 = .flag (!(Plan.preview patternName day custom?).isEmpty) ∧
      ran.2.Shows ((view.marked date event).withRecord date (some ⟨date, patternName,
        Remap.flatten (Plan.preview patternName day custom?) patternName⟩)) ∧
      ran.2.next = session.next + 1 := by
  intro ran
  obtain ⟨event, made, applies⟩ :=
    View.applyOn_followed permitted followed session.next patternName day custom?
  obtain ⟨after, moved⟩ :=
    shown.run_numbered (.applyOn date patternName day custom?) (Act.ne_setFault rfl)
  obtain ⟨handle, -, answered, -⟩ := shown.applyOn date patternName day custom?
  obtain ⟨_, -, appliesToo⟩ :=
    View.applyOn_followed permitted followed handle patternName day custom?
  rw [View.after, applies] at after
  rw [appliesToo] at answered
  rw [Step.numbers?, if_pos permitted, Option.elim_some, taken_of_followed _ followed] at moved
  exact ⟨event, made, answered, after, moved⟩

end Session

end SchoolWeek
