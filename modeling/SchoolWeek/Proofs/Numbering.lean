import Mathlib
import SchoolWeek.Proofs.Reachable

/-! The numbers of events. A backend gives handles out upward: the next one is above all
those in the calendar, and only a new event moves it on. How far it moves when an event
cannot be made is up to the backend. -/
namespace SchoolWeek

open Backend.Lawful (Shows)

class Numbered (σ : Type) [Backend σ] [Backend.Lawful σ] [EventBook σ] where
  /-- The handle that the next event gets. -/
  next : σ → Int
  /-- How far an event on the date moves the numbering. -/
  taken : Date → Int
  taken_nonneg (date : Date) : 0 ≤ taken date
  fresh {state : σ} {view : View} : Shows state view → ∀ handle ∈ view.handles, handle < next state
  createMarker {state : σ} {view : View} (date : Date) (patternName : String) : Shows state view →
    Gives (fun after shown => Shows after shown ∧
        next after = if view.permitted then next state + taken date else next state)
      (Backend.createMarker date patternName state)
      (view.createMarker (next state) date patternName)
  addEvent {state : σ} {view : View} (date : Date) (title : String) : Shows state view →
    Gives (fun after shown => Shows after shown ∧ next after = next state + taken date)
      (EventBook.addEvent date title state) (view.addEvent (next state) date title)
  fetch (day : Weekday) (state : σ) : next (Backend.fetch day state).2 = next state
  entries (state : σ) : next (Backend.entries state).2 = next state
  replaceEntries (entries : List Entry) (state : σ) :
    next (Backend.replaceEntries entries state).2 = next state
  replace (date : Date) (remaps : List Remap) (patternName : String) (state : σ) :
    next (Backend.replace date remaps patternName state).2 = next state
  rows (date : Date) (state : σ) : next (Backend.rows date state).2 = next state
  clear (date : Date) (state : σ) : next (Backend.clear date state).2 = next state
  record (date : Date) (state : σ) : next (Backend.record date state).2 = next state
  specialDates (first last : Date) (state : σ) :
    next (Backend.specialDates first last state).2 = next state
  findMarker (date : Date) (state : σ) : next (Backend.findMarker date state).2 = next state
  deleteMarker (handle : Int) (state : σ) : next (Backend.deleteMarker handle state).2 = next state
  eventsOn (date : Date) (state : σ) : next (EventBook.eventsOn date state).2 = next state

theorem Calendar.nextHandle_addEvent (date : Date) (title : String) (calendar : Calendar) :
    (Calendar.addEvent date title calendar).2.nextHandle = calendar.nextHandle + 1 := by
  unfold addEvent
  dsimp only
  split <;> rfl

theorem Calendar.nextHandle_createMarker (date : Date) (patternName : String)
    (calendar : Calendar) :
    (Calendar.createMarker date patternName calendar).2.nextHandle =
      if calendar.permitted then calendar.nextHandle + 1 else calendar.nextHandle := by
  unfold createMarker
  split
  · exact nextHandle_addEvent date _ _
  · rfl

theorem Calendar.nextHandle_deleteMarker (handle : Int) (calendar : Calendar) :
    (Calendar.deleteMarker handle calendar).2.nextHandle = calendar.nextHandle := by
  unfold deleteMarker
  dsimp only
  split_ifs <;> rfl

/-- In memory a handle is used up even if the event cannot be made. -/
instance : Numbered Memory where
  next memory := memory.calendar.nextHandle
  taken _ := 1
  taken_nonneg _ := Int.one_nonneg
  fresh shown := by
    obtain ⟨sound, rfl⟩ := shown
    exact sound.fresh
  createMarker date patternName shown := by
    obtain ⟨sound, rfl⟩ := shown
    have created := Memory.createMarker_gives sound date patternName
    exact ⟨created.1, created.2, Calendar.nextHandle_createMarker date patternName _⟩
  addEvent date title shown := by
    obtain ⟨sound, rfl⟩ := shown
    have added := Memory.addEvent_gives sound date title
    exact ⟨added.1, added.2, Calendar.nextHandle_addEvent date title _⟩
  fetch _ _ := rfl
  entries _ := rfl
  replaceEntries list memory := by
    show (Memory.replaceEntries list memory).2.calendar.nextHandle = _
    unfold Memory.replaceEntries
    split <;> rfl
  replace _ _ _ _ := rfl
  rows _ _ := rfl
  clear _ _ := rfl
  record _ _ := rfl
  specialDates _ _ _ := rfl
  findMarker _ _ := rfl
  deleteMarker handle memory := Calendar.nextHandle_deleteMarker handle memory.calendar
  eventsOn _ _ := rfl

namespace TableStore

theorem lastHandle_addEvent {store : TableStore} (writable : store.isReadOnly = false) (date : Date)
    (title : String) :
    (store.addEvent date title).2.tables.lastHandle =
      store.tables.lastHandle + if date.next?.isSome then 1 else 0 := by
  rw [addEvent, Tables.addEvent, Event.fullDay]
  cases date.next? with
  | none => simp
  | some next => simp [writable]

theorem lastHandle_createMarker {store : TableStore} {view : View} (shown : Shows store view)
    (date : Date) (patternName : String) :
    (store.createMarker date patternName).2.tables.lastHandle =
      store.tables.lastHandle + if date.next?.isSome then 1 else 0 := by
  obtain ⟨records, shown⟩ := shown
  rw [createMarker, shown.eventsOn]
  dsimp only
  rw [if_neg (by simp [shown.writable]), addEvent, Tables.addEvent, Event.fullDay]
  cases date.next? with
  | none => simp
  | some next => simp [shown.writable]

theorem lastHandle_writing {α : Type} {write : Tables → α × Tables}
    (same : ∀ tables, (write tables).2.lastHandle = tables.lastHandle) (store : TableStore) :
    (writing write store).2.tables.lastHandle = store.tables.lastHandle := by
  unfold writing
  split
  · rfl
  · exact same store.tables

theorem lastHandle_replaceEntries (entries : List Entry) (store : TableStore) :
    (replaceEntries entries store).2.tables.lastHandle = store.tables.lastHandle := by
  unfold replaceEntries
  cases Entry.check entries with
  | error error => rfl
  | ok accepted => exact lastHandle_writing (fun tables => rfl) store

theorem lastHandle_deleteMarker (handle : Int) (store : TableStore) :
    (store.deleteMarker handle).2.tables.lastHandle = store.tables.lastHandle := by
  unfold deleteMarker
  dsimp only
  split_ifs <;> rfl

end TableStore

/-- In tables a handle is used up only by an event that is stored. -/
instance : Numbered TableStore where
  next store := store.tables.lastHandle + 1
  taken date := if date.next?.isSome then 1 else 0
  taken_nonneg date := by split_ifs <;> omega
  fresh shown handle member := by
    obtain ⟨records, shown⟩ := shown
    obtain ⟨event, stored, rfl⟩ := List.mem_map.mp member
    exact Int.lt_add_one_of_le (shown.holds.fresh event stored)
  createMarker date patternName shown := by
    obtain ⟨records, shown⟩ := shown
    have created := shown.createMarker date patternName
    refine ⟨created.1, created.2, ?_⟩
    rw [if_pos shown.permitted]
    have moved := TableStore.lastHandle_createMarker ⟨records, shown⟩ date patternName
    exact (congrArg (· + 1) moved).trans (Int.add_right_comm _ _ _)
  addEvent date title shown := by
    obtain ⟨records, shown⟩ := shown
    have added := shown.addEvent date title
    refine ⟨added.1, added.2, ?_⟩
    have moved := TableStore.lastHandle_addEvent shown.writable date title
    exact (congrArg (· + 1) moved).trans (Int.add_right_comm _ _ _)
  fetch _ _ := rfl
  entries _ := rfl
  replaceEntries list store := congrArg (· + 1) (TableStore.lastHandle_replaceEntries list store)
  replace _ _ _ store := congrArg (· + 1) (TableStore.lastHandle_writing (fun _ => rfl) store)
  rows _ _ := rfl
  clear _ store := congrArg (· + 1) (TableStore.lastHandle_writing (fun _ => rfl) store)
  record _ _ := rfl
  specialDates _ _ _ := rfl
  findMarker _ _ := rfl
  deleteMarker handle store := congrArg (· + 1) (TableStore.lastHandle_deleteMarker handle store)
  eventsOn _ _ := rfl

namespace Traced

variable {σ : Type} [Backend σ] [Backend.Lawful σ] [EventBook σ] [Numbered σ]

omit [EventBook σ] [Numbered σ] in
/-- What holds of a run on the backend below holds of the run noted above it. -/
theorem noted_gives {ε α : Type} {operation : Operation σ ε α} {traced : Traced σ} {view : View}
    {holds : σ → Prop} {expected : Except ε α × View} (call : Call) (failed : Fault → Except ε α)
    (shown : traced.Shows view)
    (ran : Gives (fun after shown => Backend.Lawful.Shows after shown ∧ holds after)
      (operation traced.base) expected) :
    Gives (fun after shown => after.Shows shown ∧ holds after.base)
      (noted call failed operation traced) expected := by
  rw [noted_of_calm call failed shown.1]
  exact ⟨ran.1, ⟨shown.1, ran.2.1⟩, ran.2.2⟩

omit [Backend σ] [Backend.Lawful σ] [EventBook σ] [Numbered σ] in
/-- What the operation leaves as it is below stays so, whether it runs or not. -/
theorem noted_still {ε α ν : Type} {part : σ → ν} {operation : Operation σ ε α} {traced : Traced σ}
    (call : Call) (failed : Fault → Except ε α)
    (still : part (operation traced.base).2 = part traced.base) :
    part (noted call failed operation traced).2.base = part traced.base :=
  @Backend.Keeps.noted σ (part · = part traced.base) _ _ _ _ call failed rfl still

instance : Numbered (Traced σ) where
  next traced := Numbered.next traced.base
  taken := Numbered.taken σ
  taken_nonneg := Numbered.taken_nonneg
  fresh shown := Numbered.fresh shown.2
  createMarker date patternName shown :=
    noted_gives _ _ shown (Numbered.createMarker date patternName shown.2)
  addEvent date title shown :=
    have ⟨result, shows, moved⟩ := Numbered.addEvent date title shown.2
    ⟨result, ⟨shown.1, shows⟩, moved⟩
  fetch day traced := noted_still _ _ (Numbered.fetch day traced.base)
  entries traced := noted_still _ _ (Numbered.entries traced.base)
  replaceEntries list traced := noted_still _ _ (Numbered.replaceEntries list traced.base)
  replace date remaps patternName traced :=
    noted_still _ _ (Numbered.replace date remaps patternName traced.base)
  rows date traced := noted_still _ _ (Numbered.rows date traced.base)
  clear date traced := noted_still _ _ (Numbered.clear date traced.base)
  record date traced := noted_still _ _ (Numbered.record date traced.base)
  specialDates first last traced := noted_still _ _ (Numbered.specialDates first last traced.base)
  findMarker date traced := noted_still _ _ (Numbered.findMarker date traced.base)
  deleteMarker handle traced := noted_still _ _ (Numbered.deleteMarker handle traced.base)
  eventsOn date traced := Numbered.eventsOn date traced.base

end Traced

section Steps

variable {σ : Type} [Backend σ] [Backend.Lawful σ] [EventBook σ] [EventBook.Lawful σ] [Numbered σ]

omit [EventBook.Lawful σ] in
/-- The numbering never goes back. -/
theorem Numbered.keeps (start : Int) :
    Backend.Keeps fun state : σ => (∃ view, Shows state view) ∧ start ≤ next state where
  fetch day before := ⟨Backend.Lawful.keeps.fetch day before.1, before.2.trans_eq (fetch day _).symm⟩
  entries before := ⟨Backend.Lawful.keeps.entries before.1, before.2.trans_eq (entries _).symm⟩
  replaceEntries list before :=
    ⟨Backend.Lawful.keeps.replaceEntries list before.1, before.2.trans_eq (replaceEntries list _).symm⟩
  replace date remaps patternName before :=
    ⟨Backend.Lawful.keeps.replace date remaps patternName before.1,
      before.2.trans_eq (replace date remaps patternName _).symm⟩
  rows date before := ⟨Backend.Lawful.keeps.rows date before.1, before.2.trans_eq (rows date _).symm⟩
  clear date before :=
    ⟨Backend.Lawful.keeps.clear date before.1, before.2.trans_eq (clear date _).symm⟩
  record date before :=
    ⟨Backend.Lawful.keeps.record date before.1, before.2.trans_eq (record date _).symm⟩
  specialDates first last before :=
    ⟨Backend.Lawful.keeps.specialDates first last before.1,
      before.2.trans_eq (specialDates first last _).symm⟩
  findMarker date before :=
    ⟨Backend.Lawful.keeps.findMarker date before.1, before.2.trans_eq (findMarker date _).symm⟩
  createMarker {state} date patternName before := by
    obtain ⟨⟨view, shown⟩, reached⟩ := before
    obtain ⟨-, shows, moved⟩ := createMarker date patternName shown
    have nonneg : 0 ≤ taken σ date := taken_nonneg date
    refine ⟨⟨_, shows⟩, ?_⟩
    rw [moved]
    split_ifs <;> omega
  deleteMarker handle before :=
    ⟨Backend.Lawful.keeps.deleteMarker handle before.1, before.2.trans_eq (deleteMarker handle _).symm⟩

theorem Numbered.books (start : Int) :
    EventBook.Keeps fun state : σ => (∃ view, Shows state view) ∧ start ≤ next state where
  addEvent {state} date title before := by
    obtain ⟨⟨view, shown⟩, reached⟩ := before
    obtain ⟨-, shows, moved⟩ := addEvent date title shown
    have nonneg : 0 ≤ taken σ date := taken_nonneg date
    refine ⟨⟨_, shows⟩, ?_⟩
    rw [moved]
    omega
  eventsOn date before :=
    ⟨EventBook.Lawful.keeps.eventsOn date before.1, before.2.trans_eq (eventsOn date _).symm⟩

theorem Traced.next_le_run {state : Traced σ} {view : View} (shown : state.Shows view)
    (step : Step) : Numbered.next state ≤ Numbered.next (step.run state).2 :=
  (step.run_keeps (Numbered.keeps (Numbered.next state)) (Numbered.books (Numbered.next state))
    ⟨⟨view, shown.2⟩, le_rfl⟩).2

namespace View

/-- An event that was added is there under its handle. -/
theorem addEvent_mem_handles {view : View} {handle given : Int} {date : Date} {title : String}
    (added : (view.addEvent handle date title).1 = .ok given) :
    given ∈ (view.addEvent handle date title).2.handles := by
  unfold addEvent at added ⊢
  cases made : Event.fullDay handle date title with
  | error error =>
    rw [made] at added
    cases added
  | ok event =>
    rw [made] at added
    cases added
    have same := (Event.fullDay_fields made).1
    simp [handles, same]

theorem createMarker_mem_handles {view : View} {handle given : Int} {date : Date}
    {patternName : String} (created : (view.createMarker handle date patternName).1 = .ok given) :
    given ∈ (view.createMarker handle date patternName).2.handles := by
  unfold createMarker at created ⊢
  split_ifs at created ⊢
  split at created
  · cases created
  · exact addEvent_mem_handles created

/-- A marker that is found is one of the events of the date. -/
theorem mem_of_findMarker {view : View} {date : Date} {marker : Marker}
    (found : view.findMarker date = .ok (some marker)) :
    view.permitted = true ∧ ∃ event ∈ view.eventsOn date, event.handle = marker.handle := by
  by_cases permitted : view.permitted = true
  · rw [findMarker, if_pos permitted, Marker.detect?] at found
    obtain ⟨event, first, rfl⟩ := Option.map_eq_some_iff.mp (Except.ok.inj found)
    exact ⟨permitted, event, List.mem_of_find?_eq_some first, rfl⟩
  · rw [findMarker, if_neg permitted] at found
    cases found

end View

namespace Outcome

/-- The handles in an outcome. -/
def handles : Outcome → List Int
  | handle value => [value]
  | events list => list.map Event.handle
  | marker marker? => marker?.toList.map Marker.handle
  | _ => []

@[simp]
theorem handles_ofApply (result : Except ApplyError Bool) : (ofApply result).handles = [] := by
  cases result <;> rfl

@[simp]
theorem handles_ofHttp (response? : Option Http.Response) : (ofHttp response?).handles = [] := by
  cases response? <;> rfl

theorem handles_ofStore {α : Type} {wrap : α → Outcome} (bare : ∀ value, (wrap value).handles = [])
    (result : Except StoreError α) : (ofStore wrap result).handles = [] := by
  cases result with
  | error error => rfl
  | ok value => exact bare value

@[simp]
theorem handles_ofCalendar_done (result : Except CalendarError Unit) :
    (ofCalendar (fun _ => done) result).handles = [] := by
  cases result <;> rfl

theorem mem_handles_ofCalendar {handle : Int} {result : Except CalendarError Int} :
    handle ∈ (ofCalendar Outcome.handle result).handles ↔ result = .ok handle := by
  cases result with
  | error error => simp [ofCalendar, handles]
  | ok value => simp [ofCalendar, handles, eq_comm]

end Outcome

/-- The handles that a step gives are those of events in the calendar, so all of them are
below the next one. -/
theorem Step.handles_lt_next {state : Traced σ} {view : View} (shown : state.Shows view)
    (step : Step) {handle : Int} (given : handle ∈ (step.run state).1.handles) :
    handle < Numbered.next (step.run state).2 := by
  have shows : Shows state view := shown
  cases step with
  | addEvent date title =>
    obtain ⟨result, after, -⟩ := Numbered.addEvent date title shows
    have added := Outcome.mem_handles_ofCalendar.mp given
    rw [result] at added
    exact Numbered.fresh after handle (View.addEvent_mem_handles added)
  | createMarker date patternName =>
    obtain ⟨result, after, -⟩ := Numbered.createMarker date patternName shows
    have created := Outcome.mem_handles_ofCalendar.mp given
    rw [result] at created
    exact Numbered.fresh after handle (View.createMarker_mem_handles created)
  | events date =>
    obtain ⟨result, after⟩ := EventBook.Lawful.eventsOn date shows
    rw [run, Outcome.of, result] at given
    exact Numbered.fresh after handle ((List.filter_sublist.map Event.handle).subset given)
  | findMarker date =>
    obtain ⟨result, after⟩ := Backend.Lawful.findMarker date shows
    rw [run, Outcome.of, result] at given
    refine Numbered.fresh after handle ?_
    match found : view.findMarker date with
    | .error error => simp [found, Outcome.ofCalendar, Outcome.handles] at given
    | .ok none => simp [found, Outcome.ofCalendar, Outcome.handles] at given
    | .ok (some marker) =>
      rw [found] at given
      obtain ⟨-, event, member, same⟩ := View.mem_of_findMarker found
      rw [List.mem_singleton.mp given, ← same]
      exact List.mem_map_of_mem (List.mem_filter.mp member).1
  | replaceEntries _ | entries | fetch _ | replace _ _ _ | rows _ | storedRemaps _ | record _
  | clear _ | specialDates _ _ =>
    rw [run, Outcome.of, Outcome.handles_ofStore fun _ => rfl] at given
    cases given
  | deleteMarker _ | applyOn _ _ _ _ | apply _ _ _ | remove _ | http _ =>
    simp [run, Outcome.of] at given
  | effective _ | effectiveSorted _ | remapsFor _ | normal _ | merge _ | takeCalls | setFault _ =>
    cases given

end Steps
end SchoolWeek
