import Mathlib
import SchoolWeek.Proofs.Refusals

/-! Handles name events. While every step that adds an event answers with its handle, the
handles handed out in a run grow, so none is given twice, not even one whose event is gone, and
the calendar holds nothing but events under some of them. Deleting by a handle therefore takes
one event or none. -/
namespace SchoolWeek

open Backend.Lawful (Shows)

namespace Outcome

/-- The handle that is handed out. -/
def given : Outcome → List Int
  | handle value => [value]
  | _ => []

theorem given_ofStore {α : Type} {wrap : α → Outcome} (bare : ∀ value, (wrap value).given = [])
    (result : Except StoreError α) : (ofStore wrap result).given = [] := by
  cases result with
  | error error => rfl
  | ok value => exact bare value

theorem given_ofCalendar {α : Type} {wrap : α → Outcome} (bare : ∀ value, (wrap value).given = [])
    (result : Except CalendarError α) : (ofCalendar wrap result).given = [] := by
  cases result with
  | error error => rfl
  | ok value => exact bare value

theorem given_ofCalendar_handle (result : Except CalendarError Int) :
    (ofCalendar handle result).given = result.toOption.toList := by
  cases result <;> rfl

theorem given_subset_handles (outcome : Outcome) : outcome.given ⊆ outcome.handles := by
  cases outcome with
  | handle value => exact List.Subset.refl _
  | _ => exact List.nil_subset _

theorem given_of_bare {outcome : Outcome} (bare : outcome.handles = []) : outcome.given = [] :=
  List.subset_nil.mp (bare ▸ outcome.given_subset_handles)

end Outcome

/-- Neither a fault nor an application, which adds a marker and does not say under which
handle. -/
def Step.tellsHandles : Step → Bool
  | applyOn _ _ _ _ | apply _ _ _ | http _ | setFault _ => false
  | _ => true

namespace View

/-- The handle that a step hands out where a new event gets this one. -/
def given (view : View) (handle : Int) : Step → List Int
  | .addEvent date title => (view.addEvent handle date title).1.toOption.toList
  | .createMarker date patternName =>
    (view.createMarker handle date patternName).1.toOption.toList
  | _ => []

/-- Whatever the calendar holds afterwards, it has held before or was given for it. -/
structure Brings (view after : View) (given : List Int) : Prop where
  handles : after.handles ⊆ view.handles ++ given
  permitted : after.permitted = view.permitted

theorem Brings.of_sublist {view after : View} {given : List Int}
    (fewer : after.events.Sublist view.events) (permitted : after.permitted = view.permitted) :
    view.Brings after given :=
  ⟨fun _ member => List.mem_append_left _ ((fewer.map Event.handle).subset member), permitted⟩

theorem Brings.trans {view between after : View} {first later : List Int}
    (brings : view.Brings between first) (next : between.Brings after later) :
    view.Brings after (first ++ later) where
  handles handle member := by
    rw [← List.append_assoc]
    rcases List.mem_append.mp (next.handles member) with before | new
    · exact List.mem_append_left _ (brings.handles before)
    · exact List.mem_append_right _ new
  permitted := next.permitted.trans brings.permitted

theorem brings_addEvent (view : View) (handle : Int) (date : Date) (title : String) :
    view.Brings (view.addEvent handle date title).2
      (view.addEvent handle date title).1.toOption.toList := by
  unfold addEvent
  cases made : Event.fullDay handle date title with
  | error error => exact .of_sublist (List.Sublist.refl _) rfl
  | ok event =>
    have numbered := (Event.fullDay_fields made).1
    refine ⟨fun other member => ?_, rfl⟩
    simpa [handles, numbered, Except.toOption, eq_comm] using member

theorem brings_createMarker (view : View) (handle : Int) (date : Date) (patternName : String) :
    view.Brings (view.createMarker handle date patternName).2
      (view.createMarker handle date patternName).1.toOption.toList := by
  unfold createMarker
  split
  · split
    · exact .of_sublist (List.Sublist.refl _) rfl
    · have cleared : view.Brings (view.withoutMarkers date) [] :=
        .of_sublist List.filter_sublist rfl
      exact cleared.trans (brings_addEvent _ handle date _)
  · exact .of_sublist (List.Sublist.refl _) rfl

/-- By recursion on the count: each deletion leaves out some of the events that were left. -/
theorem withoutFirstMarkers_sublist (view : View) (date : Date) (count : Nat) :
    (view.withoutFirstMarkers date count).events.Sublist view.events := by
  induction count generalizing view with
  | zero => exact List.Sublist.refl _
  | succ count ih =>
    rw [withoutFirstMarkers]
    split
    · exact List.Sublist.refl _
    · exact (ih _).trans List.filter_sublist

/-- The events of the view after a step that tells its handles, by the cases of the step. -/
theorem brings_after (view : View) (handle : Int) {step : Step} (tells : step.tellsHandles = true) :
    view.Brings (view.after handle step) (view.given handle step) := by
  cases step with
  | addEvent date title => exact view.brings_addEvent handle date title
  | createMarker date patternName => exact view.brings_createMarker handle date patternName
  | deleteMarker old =>
    dsimp only [after, deleteMarker]
    split_ifs
    · exact .of_sublist List.filter_sublist rfl
    · exact .of_sublist (List.Sublist.refl _) rfl
    · exact .of_sublist (List.Sublist.refl _) rfl
  | remove date =>
    exact .of_sublist (withoutFirstMarkers_sublist _ date _) (withoutFirstMarkers_permitted _ date _)
  | replaceEntries entries =>
    dsimp only [after, replaceEntries]
    split <;> exact .of_sublist (List.Sublist.refl _) rfl
  | effective date | effectiveSorted date | remapsFor date =>
    dsimp only [after, remapsFor]
    split <;> exact .of_sublist (List.Sublist.refl _) rfl
  | applyOn _ _ _ _ | apply _ _ _ | http _ | setFault _ => cases tells
  | _ => exact .of_sublist (List.Sublist.refl _) rfl

/-- An event is added under the handle that is next. -/
theorem given_eq_next {view : View} {handle given : Int} {step : Step}
    (hands : given ∈ view.given handle step) : given = handle := by
  have ofAdded {view : View} {date : Date} {title : String}
      (added : given ∈ (view.addEvent handle date title).1.toOption.toList) : given = handle := by
    unfold addEvent at added
    split at added
    · cases added
    · exact List.mem_singleton.mp added
  cases step with
  | addEvent date title => exact ofAdded hands
  | createMarker date patternName =>
    dsimp only [View.given, createMarker] at hands
    split at hands
    · split at hands
      · cases hands
      · exact ofAdded hands
    · cases hands
  | _ => cases hands

theorem pairwise_given (view : View) (handle : Int) (step : Step) :
    (view.given handle step).Pairwise (· < ·) := by
  have ofOption (given? : Option Int) : given?.toList.Pairwise (· < ·) := by
    cases given? with
    | none => exact List.Pairwise.nil
    | some given => exact List.pairwise_singleton _ given
  cases step with
  | addEvent date title => exact ofOption _
  | createMarker date patternName => exact ofOption _
  | _ => exact List.Pairwise.nil

theorem mem_handles_iff {view : View} {handle : Int} :
    handle ∈ view.handles ↔ ∃ date, ∃ event ∈ view.eventsOn date, event.handle = handle := by
  constructor
  · intro member
    obtain ⟨event, there, numbered⟩ := List.mem_map.mp member
    exact ⟨event.date, event, List.mem_filter.mpr ⟨there, beq_self_eq_true event.date⟩, numbered⟩
  · rintro ⟨date, event, there, numbered⟩
    exact List.mem_map.mpr ⟨event, (List.mem_filter.mp there).1, numbered⟩

/-- As handles are distinct, the event under a handle is all that goes with it. -/
theorem Valid.eventsOn_withoutHandle {view : View} (valid : view.Valid) {event : Event}
    (there : event ∈ view.events) (date : Date) :
    (view.withoutHandle event.handle).eventsOn date = (view.eventsOn date).erase event := by
  have distinct : (view.eventsOn date).Nodup :=
    (List.Nodup.of_map Event.handle valid.distinct).sublist List.filter_sublist
  rw [View.eventsOn_withoutHandle, distinct.erase_eq_filter]
  refine List.filter_congr fun other member => ?_
  rw [Bool.eq_iff_iff, bne_iff_ne, bne_iff_ne]
  have stored := (List.mem_filter.mp member).1
  exact not_congr ⟨fun same => List.inj_on_of_nodup_map valid.distinct stored there same,
    congrArg Event.handle⟩

end View

/-- What a step hands out is what its view hands out under the next handle. -/
theorem Step.given_run {σ : Type} [Backend σ] [Backend.Lawful σ] [EventBook σ]
    [EventBook.Lawful σ] [Numbered σ] {state : Traced σ} {view : View} (shown : state.Shows view)
    (step : Step) : (step.run state).1.given = view.given (Numbered.next state) step := by
  have shows : Shows state view := shown
  cases step with
  | addEvent date title =>
    obtain ⟨result, -⟩ := Numbered.addEvent date title shows
    rw [run, Outcome.of, Outcome.given_ofCalendar_handle, result]
    rfl
  | createMarker date patternName =>
    obtain ⟨result, -⟩ := Numbered.createMarker date patternName shows
    rw [run, Outcome.of, Outcome.given_ofCalendar_handle, result]
    rfl
  | findMarker _ | deleteMarker _ => exact Outcome.given_ofCalendar (fun _ => rfl) _
  | replaceEntries _ | entries | fetch _ | replace _ _ _ | rows _ | storedRemaps _ | record _
  | clear _ | specialDates _ _ | events _ => exact Outcome.given_ofStore (fun _ => rfl) _
  | applyOn _ _ _ _ | apply _ _ _ | remove _ => exact Outcome.given_of_bare (Outcome.handles_ofApply _)
  | http _ => exact Outcome.given_of_bare (Outcome.handles_ofHttp _)
  | effective _ | effectiveSorted _ | remapsFor _ | normal _ | merge _ | takeCalls | setFault _ => rfl

theorem Memory.deleteMarker_refused {memory after : Memory} {handle : Int} {error : CalendarError}
    (ran : Backend.deleteMarker handle memory = (.error error, after)) : after = memory := by
  change withCalendar (Calendar.deleteMarker handle) memory = _ at ran
  unfold withCalendar Calendar.deleteMarker at ran
  dsimp only at ran
  split_ifs at ran <;> cases ran <;> rfl

theorem TableStore.deleteMarker_refused {store after : TableStore} {handle : Int}
    {error : CalendarError} (ran : Backend.deleteMarker handle store = (.error error, after)) :
    after = store := by
  change TableStore.deleteMarker handle store = _ at ran
  unfold TableStore.deleteMarker at ran
  dsimp only at ran
  split_ifs at ran <;> cases ran <;> rfl

theorem Outcome.eq_of_ofCalendar_done {result : Except CalendarError Unit} {error : CalendarError}
    (refused : ofCalendar (fun _ => done) result = calendarError error) : result = .error error := by
  cases result with
  | ok value => cases refused
  | error fault => rw [Outcome.calendarError.inj refused]

/-- What a backend spares when it refuses to delete is spared when the call is noted. -/
theorem Traced.base_of_deleteMarker_refused {σ : Type} [Backend σ] {state : Traced σ}
    {handle : Int} {error : CalendarError}
    (spares : ∀ {state after : σ}, Backend.deleteMarker handle state = (.error error, after) →
      after = state)
    (refused : Outcome.ofCalendar (fun _ => .done) (Backend.deleteMarker handle state).1 =
      .calendarError error) :
    (Backend.deleteMarker handle state).2.base = state.base :=
  (base_of_noted (Prod.ext (Outcome.eq_of_ofCalendar_done refused) rfl)).elim id spares

namespace Session

/-- A session as it is opened, with nothing in its calendar. -/
inductive Opened : Session → Prop
  | memory {lead : String} {entries : List Entry} {session : Session} :
    openMemory lead entries = .ok session → Opened session
  | tables {inFile : Bool} {lead : String} {entries : List Entry} {session : Session} :
    openTables inFile lead entries = .ok session → Opened session

/-- The handles of the events in the calendar. -/
def handles : Session → List Int
  | memory state => state.base.calendar.events.map Event.handle
  | tables _ state => state.base.tables.events.map StoredEvent.handle

/-- The handles that the steps hand out, one after the other. -/
def handedOut : List Step → Session → List Int
  | [], _ => []
  | step :: steps, session =>
    (session.run step).1.given ++ handedOut steps (session.run step).2

/-- Deleting by a handle takes the one event that has it, on whatever date, or is refused. -/
structure DeletesBy (handle : Int) (session : Session) : Prop where
  succeeds_iff : (session.run (.deleteMarker handle)).1 = .done ↔ handle ∈ session.handles
  takes_one : handle ∈ session.handles →
    ∃ event ∈ session.eventsOn event.date, event.handle = handle ∧
      ∀ date, (session.run (.deleteMarker handle)).2.eventsOn date =
        (session.eventsOn date).erase event
  refuses : handle ∉ session.handles →
    (session.run (.deleteMarker handle)).1 = .calendarError (.notFound handle) ∧
      ∃ calls, (session.run (.deleteMarker handle)).2 = session.noting calls

theorem Opened.empty {session : Session} (opened : session.Opened) :
    session.faults = [] ∧ session.permitted = true ∧ session.handles = [] := by
  cases opened with
  | memory opens =>
    unfold openMemory at opens
    split at opens
    · rename_i base filled
      cases opens
      unfold Memory.replaceEntries at filled
      split at filled
      · cases filled
      · cases filled
        exact ⟨rfl, rfl, rfl⟩
    · cases opens
  | @tables inFile lead entries _ opens =>
    unfold openTables at opens
    split at opens
    · rename_i store filled
      cases opens
      rw [TableStore.replaceEntries] at filled
      cases checked : Entry.check entries with
      | error error =>
        rw [checked] at filled
        cases filled
      | ok accepted =>
        rw [checked] at filled
        cases filled
        exact ⟨rfl, rfl, rfl⟩
    · cases opens

theorem Opened.reachable {session : Session} (opened : session.Opened) : session.Reachable := by
  cases opened with
  | memory opens => exact .openMemory opens
  | tables opens => exact .openTables opens

theorem BaseShows.handles {session : Session} {view : View} (shown : session.BaseShows view) :
    view.handles = session.handles := by
  cases session with
  | memory state =>
    obtain ⟨_, rfl⟩ := shown
    rfl
  | tables inFile state =>
    obtain ⟨_, records⟩ := shown
    rw [Session.handles, records.holds.events, List.map_map]
    rfl

namespace Shows

variable {session : Session} {view : View}

theorem given_run (shown : session.Shows view) (step : Step) :
    (session.run step).1.given = view.given session.next step := by
  cases session with
  | memory state => exact step.given_run shown
  | tables inFile state => exact step.given_run shown

/-- By induction on the steps: each one hands out the next handle or none, and the next
handle is from then on above it. -/
theorem handedOut_runAll {steps : List Step} (shown : session.Shows view)
    (telling : ∀ step ∈ steps, step.tellsHandles = true) :
    ∃ after, (session.runAll steps).Shows after ∧ view.Brings after (handedOut steps session) ∧
      (handedOut steps session).Pairwise (· < ·) ∧
      ∀ handle ∈ handedOut steps session, session.next ≤ handle := by
  induction steps generalizing session view with
  | nil =>
    exact ⟨view, shown, .of_sublist (List.Sublist.refl _) rfl, .nil,
      fun handle member => absurd member List.not_mem_nil⟩
  | cons step steps ih =>
    obtain ⟨tells, telling⟩ := List.forall_mem_cons.mp telling
    have calm (fault : Fault) : step ≠ .setFault fault := by
      rintro rfl
      cases tells
    obtain ⟨showsNext, -⟩ := shown.run_numbered step calm
    obtain ⟨after, showsAfter, brings, growing, above⟩ := ih showsNext telling
    have given := shown.given_run step
    have below : ∀ handle ∈ (session.run step).1.given, handle < (session.run step).2.next :=
      fun handle member =>
        shown.handles_lt_next (.common step) (Outcome.given_subset_handles _ member)
    have moved : session.next ≤ (session.run step).2.next := shown.next_le_run (.common step)
    rw [handedOut]
    refine ⟨after, showsAfter, ?_, ?_, ?_⟩
    · rw [given]
      exact (view.brings_after session.next tells).trans brings
    · refine List.pairwise_append.mpr ⟨?_, growing, fun old first new later => ?_⟩
      · rw [given]
        exact view.pairwise_given session.next step
      · exact (below old first).trans_le (above new later)
    · intro handle member
      rcases List.mem_append.mp member with first | later
      · rw [given] at first
        exact (View.given_eq_next first).ge
      · exact moved.trans (above handle later)

theorem deleteMarker (shown : session.Shows view) (handle : Int) :
    Gives Session.Shows (session.run (.deleteMarker handle))
      (Outcome.ofCalendar (fun _ => .done) (view.deleteMarker handle).1,
        (view.deleteMarker handle).2) :=
  shown.run fun shown => (Backend.Lawful.deleteMarker handle shown).of _

/-- A deletion that is refused is noted and nothing else. -/
theorem deleteMarker_refused (shown : session.Shows view) {handle : Int} {error : CalendarError}
    (refused : Gives Session.Shows (session.run (.deleteMarker handle))
      (.calendarError error, view)) :
    ∃ calls, (session.run (.deleteMarker handle)).2 = session.noting calls := by
  have calm := refused.2.faults.trans shown.faults.symm
  cases session with
  | memory state =>
    have spared := Traced.base_of_deleteMarker_refused Memory.deleteMarker_refused refused.1
    exact ⟨_, congrArg memory (Traced.eq_noting spared calm)⟩
  | tables inFile state =>
    have spared := Traced.base_of_deleteMarker_refused TableStore.deleteMarker_refused refused.1
    exact ⟨_, congrArg (tables inFile) (Traced.eq_noting spared calm)⟩

end Shows

theorem Shows.deletesBy {session : Session} {view : View} (shown : session.Shows view)
    (permitted : view.permitted = true) (handle : Int) : session.DeletesBy handle := by
  have deleted := shown.deleteMarker handle
  rw [View.deleteMarker, if_pos permitted] at deleted
  by_cases present : handle ∈ view.handles
  · have held : handle ∈ session.handles := shown.base.handles ▸ present
    rw [if_pos present] at deleted
    obtain ⟨answered, after⟩ := deleted
    refine ⟨iff_of_true answered held, fun _ => ?_, fun missing => absurd held missing⟩
    obtain ⟨event, there, rfl⟩ := List.mem_map.mp present
    refine ⟨event, ?_, rfl, fun date => ?_⟩
    · rw [shown.eventsOn]
      exact List.mem_filter.mpr ⟨there, beq_self_eq_true event.date⟩
    · rw [after.eventsOn, shown.eventsOn, shown.valid.eventsOn_withoutHandle there]
  · have missing : handle ∉ session.handles := shown.base.handles ▸ present
    rw [if_neg present] at deleted
    have unchanged := shown.deleteMarker_refused deleted
    refine ⟨iff_of_false (fun done => ?_) missing, fun held => absurd held missing,
      fun _ => ⟨deleted.1, unchanged⟩⟩
    rw [deleted.1] at done
    cases done

/-- Whatever was added, marked, deleted and removed since the session was opened, the events in
the calendar have different handles, all handed out on the way and none of them twice. -/
theorem handles_identify {session : Session} (opened : session.Opened) {steps : List Step}
    (telling : ∀ step ∈ steps, step.tellsHandles = true) :
    let calendar := session.runAll steps
    let given := handedOut steps session
    given.Nodup ∧ calendar.handles.Nodup ∧ calendar.handles ⊆ given ∧
      (∀ handle, handle ∈ calendar.handles ↔
        ∃ date, ∃ event ∈ calendar.eventsOn date, event.handle = handle) ∧
      ∀ handle, calendar.DeletesBy handle := by
  obtain ⟨calm, permitted, none⟩ := opened.empty
  obtain ⟨view, shown⟩ := opened.reachable.shows calm
  obtain ⟨after, shows, brings, growing, -⟩ := shown.handedOut_runAll telling
  have granted : after.permitted = true := by
    rw [brings.permitted, shown.permitted, permitted]
  have listed := shows.base.handles
  have before : view.handles = [] := shown.base.handles.trans none
  refine ⟨growing.imp fun less => less.ne, ?_, ?_, ?_, shows.deletesBy granted⟩
  · rw [← listed]
    exact shows.valid.distinct
  · intro handle member
    rw [← listed] at member
    have held := brings.handles member
    rwa [before, List.nil_append] at held
  · intro handle
    rw [← listed, View.mem_handles_iff]
    simp only [shows.eventsOn]

/-- An event, a marker that another one replaces, both deleted, and an event after that. -/
def comingsAndGoings : List Step :=
  [.addEvent monday "会議", .createMarker monday "短縮A時程", .createMarker monday "短縮B時程",
    .deleteMarker 1, .remove monday, .deleteMarker 3, .addEvent monday "遠足"]

theorem handles_identify_comings :
    emptyTables.Opened ∧ (∀ step ∈ comingsAndGoings, step.tellsHandles = true) ∧
      handedOut comingsAndGoings emptyTables = [1, 2, 3, 4] ∧
      (emptyTables.runAll comingsAndGoings).handles ⊆ handedOut comingsAndGoings emptyTables ∧
      (emptyTables.runAll comingsAndGoings).DeletesBy 3 := by
  have opened : emptyTables.Opened :=
    .tables (show openTables false Marker.defaultLead [] = .ok emptyTables from rfl)
  have telling : ∀ step ∈ comingsAndGoings, step.tellsHandles = true := by decide
  have given : handedOut comingsAndGoings emptyTables = [1, 2, 3, 4] := by decide +kernel
  obtain ⟨-, -, held, -, deletes⟩ := handles_identify opened telling
  exact ⟨opened, telling, given, held, deletes 3⟩

end Session
end SchoolWeek
