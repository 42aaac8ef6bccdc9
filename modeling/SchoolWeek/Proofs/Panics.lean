import Mathlib
import SchoolWeek.Proofs.Refusals
import SchoolWeek.Proofs.SameAnswers

/-! Where a step panics. No day follows the last day of the calendar on which a full-day event
could end, so that a step panics that gets as far as making one there. Nothing else makes a
step panic: markers are looked for and deleted without one, and a fault laid on an operation
shows in other ways. -/
namespace SchoolWeek

def CalendarError.isPanic : CalendarError → Bool
  | .noNextDay _ => true
  | _ => false

def ApplyError.isPanic : ApplyError → Bool
  | .calendar error => error.isPanic
  | .store _ => false

/-- The step did not come to an end. -/
def Outcome.isPanic : Outcome → Bool
  | .calendarError error => error.isPanic
  | .applyError error => error.isPanic
  | .noResponse => true
  | _ => false

/-- The result is an error of this kind. -/
def failsBy {ε α : Type} (kind : ε → Bool) : Except ε α → Bool
  | .ok _ => false
  | .error error => kind error

theorem exists_error_of_failsBy {ε α : Type} {kind : ε → Bool} {result : Except ε α}
    (fails : failsBy kind result = true) : ∃ error, result = .error error := by
  cases result with
  | error error => exact ⟨error, rfl⟩
  | ok value => cases fails

namespace Event

/-- An event cannot be made on the last day, and on no other. -/
theorem failsBy_fullDay (handle : Int) (date : Date) (title : String) :
    failsBy CalendarError.isPanic (fullDay handle date title) = true ↔ date = Date.last := by
  constructor
  · intro panics
    by_contra notLast
    obtain ⟨event, made⟩ := exists_fullDay (Date.next?_isSome_of_ne notLast) handle title
    rw [made] at panics
    cases panics
  · rintro rfl
    rfl

end Event

namespace View

variable {view : View} {date : Date}

theorem failsBy_addEvent (handle : Int) (title : String) :
    failsBy CalendarError.isPanic (view.addEvent handle date title).1 = true ↔
      date = Date.last := by
  rw [← Event.failsBy_fullDay handle date title, addEvent]
  cases Event.fullDay handle date title <;> rfl

theorem failsBy_createMarker (handle : Int) (patternName : String) :
    failsBy CalendarError.isPanic (view.createMarker handle date patternName).1 = true ↔
      view.permitted = true ∧ date = Date.last := by
  have made := Event.failsBy_fullDay handle date (Marker.title view.lead patternName)
  unfold createMarker
  split_ifs with permitted
  · rw [and_iff_right permitted]
    cases ran : Event.fullDay handle date (Marker.title view.lead patternName) with
    | error error =>
      rw [ran] at made
      exact made
    | ok event => exact failsBy_addEvent handle _
  · simp [permitted, failsBy, CalendarError.isPanic]

/-- No event is held on the last day. -/
theorem Valid.eventsOn_last (valid : view.Valid) : view.eventsOn Date.last = [] := by
  refine List.filter_eq_nil_iff.mpr fun event member here => ?_
  obtain ⟨made, succeeds⟩ := valid.exists_fullDay member 0 ""
  have followed := Event.followed_of_fullDay succeeds
  rw [beq_iff_eq.mp here] at followed
  cases followed

end View

/-- Markers are looked for and deleted without a panic. -/
structure Backend.Steady (σ : Type) [Backend σ] : Prop where
  findMarker (date : Date) (state : σ) :
    failsBy CalendarError.isPanic (Backend.findMarker date state).1 = false
  deleteMarker (handle : Int) (state : σ) :
    failsBy CalendarError.isPanic (Backend.deleteMarker handle state).1 = false

theorem Memory.steady : Backend.Steady Memory where
  findMarker date memory := by
    show failsBy _ (memory.calendar.findMarker date) = false
    unfold Calendar.findMarker
    split_ifs <;> rfl
  deleteMarker handle memory := by
    show failsBy _ (memory.calendar.deleteMarker handle).1 = false
    unfold Calendar.deleteMarker
    dsimp only
    split_ifs <;> rfl

theorem TableStore.steady : Backend.Steady TableStore where
  findMarker date store := by
    show failsBy _ (store.findMarker date) = false
    unfold TableStore.findMarker
    split <;> rfl
  deleteMarker handle store := by
    show failsBy _ (store.deleteMarker handle).1 = false
    unfold TableStore.deleteMarker
    dsimp only
    split_ifs <;> rfl

namespace Traced

variable {σ : Type}

/-- A fault is waiting for the operation. -/
def awaits (traced : Traced σ) (call : Call) : Bool := traced.faults.any (·.call == call)

theorem find?_eq_none_iff {traced : Traced σ} {call : Call} :
    traced.faults.find? (·.call == call) = none ↔ traced.awaits call = false := by
  simp [awaits, List.find?_eq_none]

theorem noted_of_not_awaits {ε α : Type} {operation : Operation σ ε α} {traced : Traced σ}
    {call : Call} (failed : Fault → Except ε α) (free : traced.awaits call = false) :
    noted call failed operation traced =
      ((operation traced.base).1,
        ⟨(operation traced.base).2, traced.calls ++ [call], traced.faults⟩) := by
  rw [noted_of_none failed (find?_eq_none_iff.mpr free)]
  rfl

theorem noted_of_awaits {ε α : Type} {operation : Operation σ ε α} {traced : Traced σ}
    {call : Call} (failed : Fault → Except ε α) (waiting : traced.awaits call = true) :
    ∃ fault, (noted call failed operation traced).1 = failed fault := by
  cases found : traced.faults.find? (·.call == call) with
  | none =>
    rw [find?_eq_none_iff.mp found] at waiting
    cases waiting
  | some fault =>
    refine ⟨fault, ?_⟩
    rw [noted, enter, found]

/-- What a fault shows is never a panic. -/
theorem failsBy_calendarResult {α : Type} (pretended : α) (fault : Fault) :
    failsBy CalendarError.isPanic (fault.calendarResult pretended) = false := by
  unfold Fault.calendarResult
  split <;> rfl

theorem failsBy_noted {α : Type} {operation : Operation σ CalendarError α} {traced : Traced σ}
    {call : Call} (pretended : α) :
    failsBy CalendarError.isPanic
        (noted call (Fault.calendarResult pretended) operation traced).1 =
      (!traced.awaits call && failsBy CalendarError.isPanic (operation traced.base).1) := by
  cases waiting : traced.awaits call with
  | true =>
    obtain ⟨fault, shows⟩ : ∃ fault : Fault,
        (noted call (Fault.calendarResult pretended) operation traced).1 =
          fault.calendarResult pretended := noted_of_awaits _ waiting
    rw [shows, failsBy_calendarResult]
    rfl
  | false =>
    rw [noted_of_not_awaits _ waiting]
    rfl

theorem steady [Backend σ] (below : Backend.Steady σ) : Backend.Steady (Traced σ) where
  findMarker date traced :=
    (failsBy_noted none).trans (by rw [below.findMarker, Bool.and_false])
  deleteMarker handle traced :=
    (failsBy_noted ()).trans (by rw [below.deleteMarker, Bool.and_false])

end Traced

section Panics

variable {σ : Type} [Backend σ] {state : σ}

namespace Engine

/-- An application panics where its marker does. -/
theorem failsBy_applyOn (date : Date) (patternName : String) (day : Weekday)
    (custom? : Option String) :
    failsBy ApplyError.isPanic (applyOn date patternName day custom? state).1 =
      failsBy CalendarError.isPanic
        (Backend.createMarker date (View.markerText patternName custom?) state).1 := by
  rw [applyOn, ← View.markerText]
  cases Backend.createMarker date (View.markerText patternName custom?) state with
  | mk result between =>
    cases result with
    | error error => rfl
    | ok handle =>
      dsimp only
      cases Backend.replace date (Plan.preview patternName day custom?) patternName between with
      | mk written after => cases written <;> rfl

/-- An application that panics has done no more than its marker. -/
theorem applyOn_stops {date : Date} {patternName : String} {day : Weekday}
    {custom? : Option String}
    (panics : failsBy ApplyError.isPanic (applyOn date patternName day custom? state).1 = true) :
    (applyOn date patternName day custom? state).2 =
      (Backend.createMarker date (View.markerText patternName custom?) state).2 := by
  rw [failsBy_applyOn] at panics
  rw [applyOn, ← View.markerText]
  cases ran : Backend.createMarker date (View.markerText patternName custom?) state with
  | mk result between =>
    rw [ran] at panics
    cases result with
    | error error => rfl
    | ok handle => cases panics

/-- By recursion on the attempts. -/
theorem failsBy_removeMarkers (steady : Backend.Steady σ) (date : Date) (attempts : Nat)
    (removed : Bool) (state : σ) :
    failsBy CalendarError.isPanic (removeMarkers date attempts removed state).1 = false := by
  induction attempts generalizing removed state with
  | zero => rfl
  | succ attempts ih =>
    have finds := steady.findMarker date state
    unfold removeMarkers
    split
    · rfl
    · rfl
    · rename_i found
      rwa [found] at finds
    · rename_i marker between found
      have deletes := steady.deleteMarker marker.handle between
      split
      · rename_i deleted
        rwa [deleted] at deletes
      · exact ih _ _

theorem failsBy_remove (steady : Backend.Steady σ) (date : Date) (state : σ) :
    failsBy ApplyError.isPanic (remove date state).1 = false := by
  unfold remove
  split
  · rfl
  · rename_i cleared between _
    have removes := failsBy_removeMarkers steady date markerDeletions false between
    split
    · rename_i removed
      rwa [removed] at removes
    · rfl

end Engine

namespace Http

theorem ofApplyError?_eq_none_iff {error : ApplyError} :
    Response.ofApplyError? error = none ↔ error.isPanic = true := by
  unfold Response.ofApplyError?
  split <;> simp_all [ApplyError.isPanic, CalendarError.isPanic]

/-- An order goes unanswered where its name is not blank and its marker panics. -/
theorem putSpecial_eq_none_iff {date : Date} {order : ApplyOrder} :
    (putSpecial date order state).1 = none ↔ Text.trim order.patternName.toList ≠ [] ∧
      failsBy CalendarError.isPanic (Backend.createMarker date (View.markerText
        (String.ofList (Text.trim order.patternName.toList)) order.custom?) state).1 = true := by
  unfold putSpecial
  dsimp only
  split_ifs with blank
  · have nothing : Text.trim order.patternName.toList = [] := by simpa using blank
    simp [nothing]
  · have written : Text.trim order.patternName.toList ≠ [] := by simpa using blank
    rw [and_iff_right written, ← Engine.failsBy_applyOn date _ date.weekday, Engine.apply]
    cases Engine.applyOn date (String.ofList (Text.trim order.patternName.toList)) date.weekday
      order.custom? state with
    | mk result between =>
      cases result with
      | error error => exact ofApplyError?_eq_none_iff
      | ok applied => exact iff_of_false (Option.some_ne_none _) Bool.false_ne_true

/-- An order that goes unanswered has done no more than its marker. -/
theorem putSpecial_stops {date : Date} {order : ApplyOrder}
    (unanswered : (putSpecial date order state).1 = none) :
    (putSpecial date order state).2 = (Backend.createMarker date (View.markerText
      (String.ofList (Text.trim order.patternName.toList)) order.custom?) state).2 := by
  rcases putSpecial_cases date order state with ⟨_, blank⟩ | ⟨error, between, ran, whole⟩ |
    ⟨_, _, _, whole⟩
  · rw [blank] at unanswered
    cases unanswered
  · rw [whole] at unanswered ⊢
    have failed : failsBy ApplyError.isPanic (Engine.applyOn date
        (String.ofList (Text.trim order.patternName.toList)) date.weekday order.custom?
        state).1 = true := by
      rw [ran]
      exact ofApplyError?_eq_none_iff.mp unanswered
    have stopped := Engine.applyOn_stops failed
    rwa [ran] at stopped
  · rw [whole] at unanswered
    cases unanswered

theorem deleteSpecial_ne_none (steady : Backend.Steady σ) (date : Date) :
    (deleteSpecial date state).1 ≠ none := by
  have removes := Engine.failsBy_remove steady date state
  unfold deleteSpecial
  split
  · rename_i error between failed
    rw [failed] at removes
    exact fun missing => absurd (ofApplyError?_eq_none_iff.mp missing) (ne_true_of_eq_false removes)
  · exact Option.some_ne_none _
  · exact Option.some_ne_none _

/-- A request goes unanswered only if it is such an order. -/
theorem handle_eq_none_iff (steady : Backend.Steady σ) {request : Request} :
    (handle request state).1 = none ↔ ∃ date order, request.task = .writeSpecial date order ∧
      (putSpecial date order state).1 = none := by
  have shown (response? : Option Response) : request.shown response? = none ↔ response? = none := by
    unfold Request.shown
    split_ifs
    · exact Option.map_eq_none_iff
    · rfl
  rw [handle_eq_perform, shown]
  cases request.task with
  | writeSpecial date order => simp [Task.perform]
  | removeSpecial date =>
    refine iff_of_false (deleteSpecial_ne_none steady date) ?_
    rintro ⟨_, _, same, -⟩
    cases same
  | _ =>
    refine iff_of_false (Option.some_ne_none _) ?_
    rintro ⟨_, _, same, -⟩
    cases same

end Http

end Panics

namespace Http

/-- A task that writes a special schedule is not a refusal, so what it needs was read. -/
theorem Task.writeSpecial_of_orRefuse {α : Type} {read : Except Response α} {next : α → Task}
    {date : Date} {order : ApplyOrder}
    (known : orRefuse (next <$> read) = .writeSpecial date order) :
    ∃ value, read = .ok value ∧ next value = .writeSpecial date order := by
  cases read with
  | error response => cases known
  | ok value => exact ⟨value, rfl, known⟩

namespace Request

/-- Of all routes and methods only a PUT to a special schedule makes such a task. -/
theorem orders_of_task {request : Request} {date : Date} {order : ApplyOrder}
    (known : request.task = .writeSpecial date order) : request.Orders date order := by
  unfold task at known
  split at known
  · cases known
  rename_i route named
  generalize asked : (if request.method = "HEAD" then "GET" else request.method) = method at known
  have never {α : Type} {read : Except Response α} {next : α → Task}
      (known : Task.orRefuse (next <$> read) = .writeSpecial date order)
      (other : ∀ value, next value ≠ .writeSpecial date order) : False :=
    have ⟨value, _, same⟩ := Task.writeSpecial_of_orRefuse known
    other value same
  unfold Route.task at known
  split at known
  · cases known
  · cases known
  · exact (never known fun _ => Task.noConfusion).elim
  · exact (never known fun _ => Task.noConfusion).elim
  · cases known
  · exact (never known fun _ => Task.noConfusion).elim
  · exact (never known fun _ => Task.noConfusion).elim
  · rename_i raw
    have method : request.method = "PUT" := by
      split_ifs at asked
      · exact absurd asked (by decide)
      · exact asked
    unfold Task.ofOrder at known
    split at known
    · cases known
    · rename_i text decoded
      obtain ⟨given, body, known⟩ := Task.writeSpecial_of_orRefuse known
      obtain ⟨day, read, known⟩ := Task.writeSpecial_of_orRefuse known
      cases known
      refine ⟨method, ⟨raw, named, ?_⟩, body⟩
      rw [readPathDate, decoded]
      exact read
  · exact (never known fun _ => Task.noConfusion).elim
  · exact (never known fun _ => Task.noConfusion).elim
  · cases known

theorem task_eq_writeSpecial_iff {request : Request} {date : Date} {order : ApplyOrder} :
    request.task = .writeSpecial date order ↔ request.Orders date order :=
  ⟨orders_of_task, Orders.task_eq⟩

end Request

end Http

namespace Outcome

theorem isPanic_ofStore {α : Type} {wrap : α → Outcome}
    (plain : ∀ value, (wrap value).isPanic = false) (result : Except StoreError α) :
    (ofStore wrap result).isPanic = false := by
  cases result with
  | error error => rfl
  | ok value => exact plain value

theorem isPanic_ofCalendar {α : Type} {wrap : α → Outcome}
    (plain : ∀ value, (wrap value).isPanic = false) (result : Except CalendarError α) :
    (ofCalendar wrap result).isPanic = failsBy CalendarError.isPanic result := by
  cases result with
  | error error => rfl
  | ok value => exact plain value

theorem isPanic_ofApply (result : Except ApplyError Bool) :
    (ofApply result).isPanic = failsBy ApplyError.isPanic result := by
  cases result <;> rfl

theorem isPanic_ofHttp_iff {response? : Option Http.Response} :
    (ofHttp response?).isPanic = true ↔ response? = none := by
  cases response? <;> simp [ofHttp, isPanic]

end Outcome

/-- The step gets as far as making a full-day event on the date. Every step but the adding of
an event needs a calendar that may be marked. -/
def Step.BuildsOn (date : Date) (mayMark : Bool) : Step → Prop
  | addEvent other _ => other = date
  | createMarker other _ | applyOn other _ _ _ | apply other _ _ => mayMark = true ∧ other = date
  | http request => mayMark = true ∧
    ∃ order, request.Orders date order ∧ Text.trim order.patternName.toList ≠ []
  | _ => False

section Steps

variable {σ : Type} [Backend σ] [Backend.Lawful σ] [EventBook σ] [EventBook.Lawful σ]
  {state : Traced σ} {view : View}

omit [EventBook σ] [EventBook.Lawful σ] in
/-- A marker panics on the last day, if nothing keeps it from being made. -/
theorem Traced.failsBy_createMarker (shown : Backend.Lawful.Shows state.base view) {date : Date}
    (patternName : String) :
    failsBy CalendarError.isPanic (Backend.createMarker date patternName state).1 = true ↔
      (view.permitted && !state.awaits .createMarker) = true ∧ date = Date.last := by
  obtain ⟨handle, -, created⟩ := Backend.Lawful.createMarker date patternName shown
  have noted : failsBy CalendarError.isPanic (Backend.createMarker date patternName state).1 = _ :=
    failsBy_noted (-1)
  rw [noted, Bool.and_eq_true, Bool.and_eq_true, created.1, View.failsBy_createMarker]
  tauto

theorem Traced.failsBy_addEvent (shown : Backend.Lawful.Shows state.base view) {date : Date}
    (title : String) :
    failsBy CalendarError.isPanic (EventBook.addEvent date title state).1 = true ↔
      date = Date.last := by
  obtain ⟨handle, -, added⟩ := EventBook.Lawful.addEvent date title shown
  rw [← View.failsBy_addEvent handle title, ← added.1]
  rfl

/-- A step panics exactly where it gets as far as making an event on the last day. -/
theorem Step.run_isPanic_iff (steady : Backend.Steady σ)
    (shown : Backend.Lawful.Shows state.base view) (step : Step) :
    (step.run state).1.isPanic = true ↔
      step.BuildsOn Date.last (view.permitted && !state.awaits .createMarker) := by
  have noted := Traced.steady steady
  have applies (date : Date) (patternName : String) (day : Weekday) (custom? : Option String) :
      (Outcome.ofApply (Engine.applyOn date patternName day custom? state).1).isPanic = true ↔
        (view.permitted && !state.awaits .createMarker) = true ∧ date = Date.last := by
    rw [Outcome.isPanic_ofApply, Engine.failsBy_applyOn, Traced.failsBy_createMarker shown]
  cases step with
  | addEvent date title =>
    exact (Bool.eq_iff_iff.mp (Outcome.isPanic_ofCalendar (fun _ => rfl) _)).trans
      (Traced.failsBy_addEvent shown title)
  | createMarker date patternName =>
    exact (Bool.eq_iff_iff.mp (Outcome.isPanic_ofCalendar (fun _ => rfl) _)).trans
      (Traced.failsBy_createMarker shown patternName)
  | applyOn date patternName day custom? => exact applies date patternName day custom?
  | apply date patternName custom? => exact applies date patternName date.weekday custom?
  | remove date =>
    refine iff_of_false (ne_true_of_eq_false ?_) id
    exact (Outcome.isPanic_ofApply _).trans (Engine.failsBy_remove noted date state)
  | findMarker date =>
    refine iff_of_false (ne_true_of_eq_false ?_) id
    exact (Outcome.isPanic_ofCalendar (fun _ => rfl) _).trans (noted.findMarker date state)
  | deleteMarker handle =>
    refine iff_of_false (ne_true_of_eq_false ?_) id
    exact (Outcome.isPanic_ofCalendar (fun _ => rfl) _).trans (noted.deleteMarker handle state)
  | http request =>
    refine (Outcome.isPanic_ofHttp_iff.trans (Http.handle_eq_none_iff noted)).trans ?_
    simp only [Http.putSpecial_eq_none_iff, Traced.failsBy_createMarker shown,
      Http.Request.task_eq_writeSpecial_iff]
    constructor
    · rintro ⟨date, order, orders, written, mayMark, rfl⟩
      exact ⟨mayMark, order, orders, written⟩
    · rintro ⟨mayMark, order, orders, written⟩
      exact ⟨_, order, orders, written, mayMark, rfl⟩
  | replaceEntries _ | entries | fetch _ | replace _ _ _ | rows _ | storedRemaps _ | record _
  | clear _ | specialDates _ _ | events _ =>
    exact iff_of_false (ne_true_of_eq_false (Outcome.isPanic_ofStore (fun _ => rfl) _)) id
  | effective _ | effectiveSorted _ | remapsFor _ | normal _ | merge _ | takeCalls | setFault _ =>
    exact iff_of_false Bool.false_ne_true id

end Steps

end SchoolWeek
