import Mathlib
import SchoolWeek.Proofs.StepContract

/-! Requests that fail. A request is refused before anything is written, or by the one
operation that would have written, or because there was nothing to remove. So whatever was
asked for, an answer that reports no success leaves the session as it was. -/
namespace SchoolWeek

/-- This part of the state is spared by operations that are refused and by those that find
nothing to do. An event without a day to end on may still use a number up. -/
structure Backend.Careful {σ ν : Type} [Backend σ] (part : σ → ν) : Prop where
  replaceEntries {state after : σ} {entries : List Entry} {error : StoreError} :
    Backend.replaceEntries entries state = (.error error, after) → part after = part state
  clear {state after : σ} {date : Date} :
    Backend.clear date state = (.ok false, after) → part after = part state
  findMarker {state after : σ} {date : Date} {result : Except CalendarError (Option Marker)} :
    Backend.findMarker date state = (result, after) → part after = part state
  createMarker {state after : σ} {date : Date} {patternName : String} {error : CalendarError} :
    Backend.createMarker date patternName state = (.error error, after) →
      (∀ day, error ≠ .noNextDay day) → part after = part state

/-- Every fault in making a full-day event is that of the last day. -/
theorem Event.noNextDay_of_fullDay {handle : Int} {date : Date} {title : String}
    {error : CalendarError} (fails : fullDay handle date title = .error error) :
    error = .noNextDay date := by
  unfold fullDay at fails
  split at fails
  · cases fails
    rfl
  · cases fails

namespace Memory

theorem careful : Backend.Careful (id : Memory → Memory) where
  replaceEntries {memory after entries error} ran := by
    change memory.replaceEntries entries = _ at ran
    unfold Memory.replaceEntries at ran
    split at ran
    · cases ran
      rfl
    · cases ran
  clear {memory after date} ran := by
    change (Except.ok (memory.clear date).1, (memory.clear date).2) = _ at ran
    obtain ⟨found, rfl⟩ := Prod.mk.inj ran
    have missing : memory.recordOn? date = none := by
      simpa [Memory.clear] using Except.ok.inj found
    have kept : memory.records.filter (·.date != date) = memory.records :=
      List.filter_eq_self.mpr fun record member => by
        simpa using List.find?_eq_none.mp missing record member
    rw [id, id, Memory.clear, kept]
  findMarker ran := congrArg id (Prod.mk.inj ran).2.symm
  createMarker {memory after date patternName error} ran followed := by
    change withCalendar (Calendar.createMarker date patternName) memory = _ at ran
    unfold withCalendar Calendar.createMarker at ran
    split_ifs at ran
    · unfold Calendar.addEvent at ran
      dsimp only at ran
      split at ran
      · rename_i fault fails
        cases ran
        exact (followed date (Event.noNextDay_of_fullDay fails)).elim
      · cases ran
    · cases ran
      rfl

end Memory

namespace TableStore

theorem writing_refused {α : Type} {write : Tables → α × Tables} {store after : TableStore}
    {error : StoreError} (ran : writing write store = (.error error, after)) : after = store := by
  unfold writing at ran
  split_ifs at ran
  · cases ran
    rfl
  · cases ran

/-- Tables from which nothing is taken are the same tables. -/
theorem clear_eq_self {tables : Tables} {date : Date} (nothing : (tables.clear date).1 = false) :
    (tables.clear date).2 = tables := by
  have lengths : (tables.rows.filter (·.date != date.text)).length = tables.rows.length ∧
      (tables.schedules.filter (·.1 != date.text)).length = tables.schedules.length := by
    simpa [Tables.clear] using nothing
  rw [Tables.clear, List.filter_sublist.eq_of_length lengths.1,
    List.filter_sublist.eq_of_length lengths.2]

theorem addEvent_refused {store after : TableStore} {date : Date} {title : String}
    {error : CalendarError} (ran : store.addEvent date title = (.error error, after)) :
    after = store := by
  unfold TableStore.addEvent at ran
  split at ran
  · cases ran
    rfl
  · split_ifs at ran
    · cases ran
      rfl
    · cases ran

theorem createMarker_refused {store after : TableStore} {date : Date} {patternName : String}
    {error : CalendarError} (ran : store.createMarker date patternName = (.error error, after)) :
    after = store := by
  unfold TableStore.createMarker at ran
  split at ran
  · cases ran
    rfl
  · dsimp only at ran
    split_ifs at ran
    · cases ran
      rfl
    · split at ran
      · cases ran
        rfl
      · cases ran

theorem careful : Backend.Careful (id : TableStore → TableStore) where
  replaceEntries {store after entries error} ran := by
    change TableStore.replaceEntries entries store = _ at ran
    unfold TableStore.replaceEntries at ran
    cases checked : Entry.check entries with
    | error fault =>
      rw [checked] at ran
      cases ran
      rfl
    | ok accepted =>
      rw [checked] at ran
      exact writing_refused ran
  clear {store after date} ran := by
    change writing (·.clear date) store = _ at ran
    unfold writing at ran
    split_ifs at ran
    · cases ran
    · obtain ⟨found, rfl⟩ := Prod.mk.inj ran
      exact congrArg (fun tables => { store with tables }) (clear_eq_self (Except.ok.inj found))
  findMarker ran := congrArg id (Prod.mk.inj ran).2.symm
  createMarker ran _ := createMarker_refused ran

end TableStore

namespace Traced

variable {σ ν : Type} [Backend σ]

omit [Backend σ] in
/-- A noted operation is kept from the backend below, or it did there what it seems to do. -/
theorem base_of_noted {ε α : Type} {call : Call} {failed : Fault → Except ε α}
    {operation : Operation σ ε α} {traced after : Traced σ} {result : Except ε α}
    (ran : noted call failed operation traced = (result, after)) :
    after.base = traced.base ∨ operation traced.base = (result, after.base) := by
  unfold noted at ran
  split at ran
  · rename_i fault struck entered
    unfold enter at entered
    split at entered <;> cases entered
    cases ran
    exact .inl rfl
  · rename_i struck entered
    unfold enter at entered
    split at entered <;> cases entered
    obtain ⟨rfl, rfl⟩ := Prod.mk.inj ran
    exact .inr rfl

/-- What a careful backend spares is spared behind the list of calls and the faults, too. -/
theorem careful {part : σ → ν} (below : Backend.Careful part) :
    Backend.Careful fun traced : Traced σ => part traced.base where
  replaceEntries ran := (base_of_noted ran).elim (congrArg part) below.replaceEntries
  clear ran := (base_of_noted ran).elim (congrArg part) below.clear
  findMarker ran := (base_of_noted ran).elim (congrArg part) below.findMarker
  createMarker ran followed :=
    (base_of_noted ran).elim (congrArg part) fun made => below.createMarker made followed

end Traced

section Refused

variable {σ ν : Type} [Backend σ] {part : σ → ν} {state after : σ}

namespace Engine

/-- By recursion on the attempts: one that deletes a marker makes the answer yes for good. -/
theorem removeMarkers_found_none (careful : Backend.Careful part) {date : Date} {attempts : Nat}
    {removed : Bool} (ran : removeMarkers date attempts removed state = (.ok false, after)) :
    removed = false ∧ part after = part state := by
  induction attempts generalizing removed state with
  | zero =>
    cases ran
    exact ⟨rfl, rfl⟩
  | succ attempts ih =>
    unfold removeMarkers at ran
    split at ran
    · rename_i found
      cases ran
      exact ⟨rfl, careful.findMarker found⟩
    · rename_i found
      cases ran
      exact ⟨rfl, careful.findMarker found⟩
    · cases ran
    · split at ran
      · cases ran
      · -- A marker is gone by now, so that the further attempts answer yes.
        obtain ⟨impossible, -⟩ := ih ran
        cases impossible

theorem remove_found_nothing (careful : Backend.Careful part) {date : Date}
    (ran : remove date state = (.ok false, after)) : part after = part state := by
  unfold remove at ran
  split at ran
  · cases ran
  · rename_i cleared between clears
    split at ran
    · cases ran
    · rename_i removed last removes
      obtain ⟨found, rfl⟩ := Prod.mk.inj ran
      obtain ⟨rfl, rfl⟩ : removed = false ∧ cleared = false := by
        simpa using Except.ok.inj found
      obtain ⟨-, same⟩ := removeMarkers_found_none careful removes
      exact same.trans (careful.clear clears)

open Backend.Lawful (Shows)

/-- Where records can be written, an application fails at its marker or not at all. -/
theorem applyOn_refused [Backend.Lawful σ] (careful : Backend.Careful part) {view : View}
    (shown : Shows state view) {date : Date} {patternName : String} {day : Weekday}
    {custom? : Option String} {error : ApplyError}
    (ran : applyOn date patternName day custom? state = (.error error, after)) :
    (∃ last, error = .calendar (.noNextDay last)) ∨ part after = part state := by
  obtain ⟨handle, -, created⟩ :=
    Backend.Lawful.createMarker date (View.markerText patternName custom?) shown
  rw [applyOn, ← View.markerText] at ran
  cases makes : Backend.createMarker date (View.markerText patternName custom?) state with
  | mk result between =>
    rw [makes] at ran created
    cases result with
    | error fault =>
      cases ran
      by_cases last : ∃ day, fault = .noNextDay day
      · obtain ⟨day, rfl⟩ := last
        exact .inl ⟨day, rfl⟩
      · exact .inr (careful.createMarker makes fun day same => last ⟨day, same⟩)
    | ok made =>
      -- Once the marker stands the record is written, too: its writing is not refused.
      obtain ⟨last, replaced, -⟩ := (Backend.Lawful.replace date
        (Plan.preview patternName day custom?) patternName created.2).ran
      dsimp only at ran
      rw [replaced] at ran
      cases ran

end Engine

namespace Http

/-- The answer reports a success. -/
def Response.Succeeds (response : Response) : Prop := 200 ≤ response.status ∧ response.status < 300

theorem Response.ok_succeeds (body : Json) : (ok body).Succeeds :=
  ⟨le_rfl, show 200 < 300 by decide⟩

theorem Response.fails_of_le {response : Response} (refused : 300 ≤ response.status) :
    ¬ response.Succeeds := fun succeeds => absurd succeeds.2 (not_lt.mpr refused)

/-- What the operation gives is sent as a success. -/
theorem answer_of_gives [Backend.Lawful σ] {α : Type} (encode : α → Json)
    {operation : Operation σ StoreError α} {value : α} {view : View}
    (gives : Gives Backend.Lawful.Shows (operation state) (.ok value, view)) :
    Gives Backend.Lawful.Shows (answer encode operation state) (.ok (encode value), view) := by
  obtain ⟨last, ran, shown⟩ := gives.ran
  rw [answer, ran]
  exact ⟨rfl, shown⟩

variable [Backend.Lawful σ] {view : View} {response : Response}

open Backend.Lawful (Shows)

theorem putTimetable_refused (careful : Backend.Careful part) (shown : Shows state view)
    (entries : List Entry) (failed : ¬ (putTimetable entries state).1.Succeeds) :
    part (putTimetable entries state).2 = part state := by
  have replaced := Backend.Lawful.replaceEntries entries shown
  unfold putTimetable at failed ⊢
  cases ran : Backend.replaceEntries entries state with
  | mk result between =>
    rw [ran] at failed replaced
    cases result with
    | error error => exact careful.replaceEntries ran
    | ok done =>
      -- What was written is read again for the answer, and that is a success.
      have answered := (answer_of_gives Encode.entries (Backend.Lawful.entries replaced.2)).1
      dsimp only at failed
      rw [getTimetable, answered] at failed
      exact (failed (Response.ok_succeeds _)).elim

omit [Backend.Lawful σ] in
/-- The ends of an order: its name is blank, it cannot be applied, or it is applied and what
is stored is read for the answer. -/
theorem putSpecial_cases (date : Date) (order : ApplyOrder) (state : σ) :
    let name := String.ofList (Text.trim order.patternName.toList)
    (∃ message, putSpecial date order state = (some (.invalid message), state)) ∨
      (∃ error between,
        Engine.applyOn date name date.weekday order.custom? state = (.error error, between) ∧
        putSpecial date order state = (Response.ofApplyError? error, between)) ∨
      ∃ applied between,
        Engine.applyOn date name date.weekday order.custom? state = (.ok applied, between) ∧
        putSpecial date order state =
          always (answer (appliedBody applied) (Backend.storedRemaps date) between) := by
  intro name
  unfold putSpecial
  dsimp only
  split_ifs with blank
  · exact .inl ⟨_, rfl⟩
  · right
    rw [Engine.apply]
    cases Engine.applyOn date name date.weekday order.custom? state with
    | mk result between =>
      cases result with
      | error error => exact .inl ⟨error, between, rfl, rfl⟩
      | ok applied => exact .inr ⟨applied, between, rfl, rfl⟩

theorem putSpecial_refused (careful : Backend.Careful part) (shown : Shows state view)
    {date : Date} {order : ApplyOrder}
    (answered : (putSpecial date order state).1 = some response) (failed : ¬ response.Succeeds) :
    part (putSpecial date order state).2 = part state := by
  rcases putSpecial_cases date order state with ⟨message, blank⟩ | ⟨error, between, ran, whole⟩ |
    ⟨applied, between, ran, whole⟩
  · rw [blank]
  · rw [whole] at answered ⊢
    rcases Engine.applyOn_refused careful shown ran with ⟨last, rfl⟩ | same
    · cases answered
    · exact same
  · obtain ⟨handle, -, leaves⟩ := Engine.applyOn_gives date
      (String.ofList (Text.trim order.patternName.toList)) date.weekday order.custom? shown
    rw [ran] at leaves
    rw [whole, always, (answer_of_gives _ (Engine.storedRemaps_gives date leaves.2)).1] at answered
    cases answered
    exact (failed (Response.ok_succeeds _)).elim

theorem deleteSpecial_refused (careful : Backend.Careful part) (shown : Shows state view)
    {date : Date} (answered : (deleteSpecial date state).1 = some response)
    (failed : ¬ response.Succeeds) : part (deleteSpecial date state).2 = part state := by
  have removed := Engine.remove_gives date shown
  unfold deleteSpecial at answered ⊢
  cases ran : Engine.remove date state with
  | mk result between =>
    rw [ran] at answered removed
    cases result with
    | error error => cases removed.1
    | ok found =>
      cases found with
      | true =>
        cases answered
        exact (failed ⟨by decide, by decide⟩).elim
      | false => exact Engine.remove_found_nothing careful ran

/-- One case for each task: reading does not fail, and what fails has not begun to write. -/
theorem Task.perform_refused (careful : Backend.Careful part) (shown : Shows state view)
    {task : Task} (answered : (task.perform state).1 = some response)
    (failed : ¬ response.Succeeds) : part (task.perform state).2 = part state := by
  cases task with
  | respond refusal => rfl
  | readTimetable =>
    have read := (answer_of_gives Encode.entries (Backend.Lawful.entries shown)).1
    rw [perform, always, getTimetable, read] at answered
    cases answered
    exact (failed (Response.ok_succeeds _)).elim
  | writeTimetable entries =>
    refine putTimetable_refused careful shown entries fun success => failed ?_
    exact Option.some.inj answered ▸ success
  | readSchedule date =>
    cases answered
    exact (failed (Response.ok_succeeds _)).elim
  | writeSpecial date order =>
    rw [perform] at answered ⊢
    exact putSpecial_refused careful shown answered failed
  | removeSpecial date =>
    rw [perform] at answered ⊢
    exact deleteSpecial_refused careful shown answered failed
  | listSpecials first last =>
    obtain ⟨dates, listed⟩ := Backend.Lawful.specialDates first last shown
    have read := (answer_of_gives (fun dates => .array (dates.map Encode.date)) listed).1
    rw [perform, always, getSpecials, read] at answered
    cases answered
    exact (failed (Response.ok_succeeds _)).elim

end Http

end Refused

/-- What is sent has the status of what was answered. -/
theorem Http.Request.status_of_shown {request : Request} {response? : Option Response}
    {response : Response} (sent : request.shown response? = some response) :
    ∃ answered, response? = some answered ∧ answered.status = response.status := by
  unfold shown at sent
  split_ifs at sent
  · obtain ⟨answered, given, rfl⟩ := Option.map_eq_some_iff.mp sent
    exact ⟨answered, given, rfl⟩
  · exact ⟨response, sent, rfl⟩

theorem Outcome.eq_of_ofHttp {response? : Option Http.Response} {response : Http.Response}
    (sent : Outcome.ofHttp response? = .response response) : response? = some response := by
  cases response? with
  | none => cases sent
  | some given => rw [Outcome.response.inj sent]

theorem Traced.eq_noting {σ : Type} {left right : Traced σ} (bases : left.base = right.base)
    (faults : left.faults = right.faults) : left = { right with calls := left.calls } := by
  cases left
  cases right
  simp_all

theorem Traced.base_of_refused {σ : Type} [Backend σ] [Backend.Lawful σ]
    (careful : Backend.Careful (id : σ → σ)) {state : Traced σ} {view : View}
    (shown : state.Shows view) {request : Http.Request} {response : Http.Response}
    (answered : (Http.handle request state).1 = some response) (failed : ¬ response.Succeeds) :
    (Http.handle request state).2.base = state.base := by
  rw [Http.handle_eq_perform] at answered ⊢
  obtain ⟨given, performed, status⟩ := Http.Request.status_of_shown answered
  have shows : Backend.Lawful.Shows state view := shown
  refine Http.Task.perform_refused (Traced.careful careful) shows performed ?_
  rwa [Http.Response.Succeeds, status]

namespace Session

/-- The session with other calls noted. -/
def noting (calls : List Call) : Session → Session
  | memory state => memory { state with calls }
  | tables inFile state => tables inFile { state with calls }

/-- An answer that reports no success leaves the very session there was, with the timetable,
the records, the events and the numbering as they stood. Only the calls are noted. -/
theorem refused_changes_nothing {session : Session} {request : Http.Request}
    {response : Http.Response} (reachable : session.Reachable) (calm : session.faults = [])
    (answered : (session.run (.http request)).1 = .response response)
    (failed : ¬ response.Succeeds) :
    ∃ calls, (session.run (.http request)).2 = session.noting calls := by
  obtain ⟨view, shown⟩ := reachable.shows calm
  have stillCalm := (shown.run_numbered (.http request) (Act.ne_setFault rfl)).1.faults
  have unchanged := stillCalm.trans calm.symm
  cases session with
  | memory state =>
    have same := Traced.base_of_refused Memory.careful shown (Outcome.eq_of_ofHttp answered) failed
    exact ⟨(Http.handle request state).2.calls, congrArg memory (Traced.eq_noting same unchanged)⟩
  | tables inFile state =>
    have same :=
      Traced.base_of_refused TableStore.careful shown (Outcome.eq_of_ofHttp answered) failed
    exact ⟨(Http.handle request state).2.calls,
      congrArg (tables inFile) (Traced.eq_noting same unchanged)⟩

/-- A special day is stored and marked, and then the calendar is closed. -/
def closedCalendar : Session :=
  ((emptyMemory.runAll [.apply monday "短縮A時程" none]).runMemory (.permission false)).2

/-- A request with JSON in its body. -/
def sending (method path body : String) : Http.Request :=
  ⟨method, ⟨path.toList, []⟩, some "application/json", body.toList.map some⟩

def examOrder : Http.Request :=
  sending "PUT" "/schedule/2025-01-06/special" "\x7b\"pattern_name\": \"試験\"\x7d"

theorem monday_inPath : Http.readPathDate "2025-01-06".toList = .ok monday := by
  have decoded : Http.decodeSegment? "2025-01-06".toList = some "2025-01-06".toList := by
    decide +kernel
  rw [Http.readPathDate, decoded]
  rfl

theorem examOrder_orders : examOrder.Orders monday ⟨"試験", none⟩ :=
  ⟨rfl, ⟨"2025-01-06".toList, rfl, monday_inPath⟩, by rfl⟩

theorem refused_changes_nothing_denied :
    closedCalendar.Reachable ∧ closedCalendar.faults = [] ∧
      (closedCalendar.run (.http examOrder)).1 =
        .response (.forbidden CalendarError.permissionDenied.message) ∧
      ¬ (Http.Response.forbidden CalendarError.permissionDenied.message).Succeeds ∧
      ∃ calls, (closedCalendar.run (.http examOrder)).2 = closedCalendar.noting calls := by
  have reachable : closedCalendar.Reachable := (reachable_emptyMemory.runAll _).runMemory _
  have answered : (closedCalendar.run (.http examOrder)).1 =
      .response (.forbidden CalendarError.permissionDenied.message) := by
    show Outcome.ofHttp (Http.handle examOrder _).1 = _
    rw [examOrder_orders.handle_eq]
    rfl
  have failed : ¬ (Http.Response.forbidden CalendarError.permissionDenied.message).Succeeds :=
    Http.Response.fails_of_le (by decide)
  exact ⟨reachable, rfl, answered, failed, refused_changes_nothing reachable rfl answered failed⟩

end Session
end SchoolWeek
