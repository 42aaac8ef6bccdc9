import Mathlib
import SchoolWeek.Proofs.Requests
import SchoolWeek.Session

/-! Two backends in lockstep. Where every operation answers alike on both and leaves them
alike, so does everything that the engine and the service make of the operations, and
every step. Handles may have other numbers on the other side: a renumbering takes those of
the right-hand backend to those of the left-hand one. -/
namespace SchoolWeek

def Event.renumbered (renumber : Int → Int) (event : Event) : Event :=
  { event with handle := renumber event.handle }

def Marker.renumbered (renumber : Int → Int) (marker : Marker) : Marker :=
  { marker with handle := renumber marker.handle }

/-- What the operations may be asked for: another timetable, single dates, ranges of dates,
and handles that were not found on a date just before. -/
structure Scope where
  timetable : Prop
  date : Date → Prop
  range : Date → Date → Prop
  handle : Int → Prop

/-- No operation is left out. -/
def Scope.everything : Scope where
  timetable := True
  date _ := True
  range _ _ := True
  handle _ := True

/-- The runs gave results that match, and left states that are alike. -/
def Agree {σ τ α : Type} (alike : σ → τ → Prop) (rename : α → α) (left : α × σ) (right : α × τ) :
    Prop :=
  left.1 = rename right.1 ∧ alike left.2 right.2

namespace Agree

variable {σ τ α : Type} {alike : σ → τ → Prop}

theorem ran {rename : α → α} {left : α × σ} {right : α × τ} (agree : Agree alike rename left right) :
    ∃ value first second,
      left = (rename value, first) ∧ right = (value, second) ∧ alike first second :=
  ⟨right.1, left.2, right.2, Prod.ext agree.1 rfl, rfl, agree.2⟩

theorem same {left : α × σ} {right : α × τ} (agree : Agree alike id left right) :
    ∃ value first second, left = (value, first) ∧ right = (value, second) ∧ alike first second :=
  agree.ran

end Agree

/-- The operations of two backends answer alike within the scope. A marker that has just
been found on a date may be deleted, on each side under its own handle. -/
structure Backend.Alike {σ τ : Type} [Backend σ] [Backend τ] (scope : Scope)
    (renumber : Int → Int) (alike : σ → τ → Prop) : Prop where
  fetch {left : σ} {right : τ} (day : Weekday) : alike left right →
    Agree alike id (Backend.fetch day left) (Backend.fetch day right)
  entries {left : σ} {right : τ} : alike left right →
    Agree alike id (Backend.entries left) (Backend.entries right)
  replaceEntries {left : σ} {right : τ} (entries : List Entry) : scope.timetable →
    alike left right →
    Agree alike id (Backend.replaceEntries entries left) (Backend.replaceEntries entries right)
  replace {left : σ} {right : τ} {date : Date} (remaps : List Remap) (patternName : String) :
    scope.date date → alike left right →
    Agree alike id (Backend.replace date remaps patternName left)
      (Backend.replace date remaps patternName right)
  rows {left : σ} {right : τ} {date : Date} : scope.date date → alike left right →
    Agree alike id (Backend.rows date left) (Backend.rows date right)
  clear {left : σ} {right : τ} {date : Date} : scope.date date → alike left right →
    Agree alike id (Backend.clear date left) (Backend.clear date right)
  record {left : σ} {right : τ} {date : Date} : scope.date date → alike left right →
    Agree alike id (Backend.record date left) (Backend.record date right)
  specialDates {left : σ} {right : τ} {first last : Date} : scope.range first last →
    alike left right →
    Agree alike id (Backend.specialDates first last left) (Backend.specialDates first last right)
  findMarker {left : σ} {right : τ} {date : Date} : scope.date date → alike left right →
    Agree alike (Except.map (Option.map (Marker.renumbered renumber)))
      (Backend.findMarker date left) (Backend.findMarker date right)
  createMarker {left : σ} {right : τ} {date : Date} (patternName : String) :
    scope.date date → alike left right →
    Agree alike (Except.map renumber) (Backend.createMarker date patternName left)
      (Backend.createMarker date patternName right)
  deleteMarker {left : σ} {right : τ} {handle : Int} : scope.handle handle → alike left right →
    Agree alike id (Backend.deleteMarker handle left) (Backend.deleteMarker handle right)
  deleteFound {left : σ} {right after : τ} {date : Date} {marker : Marker} : scope.date date →
    alike left right → Backend.findMarker date right = (.ok (some marker), after) →
    Agree alike id
      (Backend.deleteMarker (renumber marker.handle) (Backend.findMarker date left).2)
      (Backend.deleteMarker marker.handle after)

structure EventBook.Alike {σ τ : Type} [EventBook σ] [EventBook τ] (scope : Scope)
    (renumber : Int → Int) (alike : σ → τ → Prop) : Prop where
  addEvent {left : σ} {right : τ} {date : Date} (title : String) : scope.date date →
    alike left right →
    Agree alike (Except.map renumber) (EventBook.addEvent date title left)
      (EventBook.addEvent date title right)
  eventsOn {left : σ} {right : τ} {date : Date} : scope.date date → alike left right →
    Agree alike (Except.map (List.map (Event.renumbered renumber))) (EventBook.eventsOn date left)
      (EventBook.eventsOn date right)

/-- What the task asks for is in scope. -/
def Http.Task.Within (scope : Scope) : Http.Task → Prop
  | writeTimetable _ => scope.timetable
  | readSchedule date => scope.date date
  | writeSpecial date _ => scope.date date
  | removeSpecial date => scope.date date
  | listSpecials first last => scope.range first last
  | _ => True

namespace Backend.Alike

variable {σ τ : Type} [Backend σ] [Backend τ] {scope : Scope} {renumber : Int → Int}
  {related : σ → τ → Prop} {left : σ} {right : τ} {date : Date}

theorem storedRemaps (alike : Alike scope renumber related) (named : scope.date date)
    (before : related left right) :
    Agree related id (Backend.storedRemaps date left) (Backend.storedRemaps date right) := by
  obtain ⟨result, first, second, ranLeft, ranRight, after⟩ := (alike.rows named before).same
  rw [Backend.storedRemaps, Backend.storedRemaps, ranLeft, ranRight]
  exact ⟨rfl, after⟩

theorem classesOn (alike : Alike scope renumber related) (day : Weekday)
    (before : related left right) :
    Agree related id (Engine.classesOn day left) (Engine.classesOn day right) := by
  obtain ⟨result, first, second, ranLeft, ranRight, after⟩ := (alike.fetch day before).same
  rw [Engine.classesOn, Engine.classesOn, ranLeft, ranRight]
  cases result <;> exact ⟨rfl, after⟩

theorem normalSchedule (alike : Alike scope renumber related) (date : Date)
    (before : related left right) :
    Agree related id (Engine.normalSchedule date left) (Engine.normalSchedule date right) := by
  obtain ⟨entries, first, second, ranLeft, ranRight, after⟩ :=
    (alike.classesOn date.weekday before).same
  rw [Engine.normalSchedule, Engine.normalSchedule, ranLeft, ranRight]
  exact ⟨rfl, after⟩

theorem materialize (alike : Alike scope renumber related) (named : scope.date date)
    (marker : Marker) (before : related left right) :
    Agree related id (Engine.materialize date (marker.renumbered renumber) left)
      (Engine.materialize date marker right) :=
  ⟨rfl, (alike.replace _ marker.patternName named before).2⟩

theorem remapsFromMarker (alike : Alike scope renumber related) (named : scope.date date)
    (before : related left right) :
    Agree related id (Engine.remapsFromMarker date left) (Engine.remapsFromMarker date right) := by
  obtain ⟨found, first, second, ranLeft, ranRight, after⟩ := (alike.findMarker named before).ran
  rw [Engine.remapsFromMarker, Engine.remapsFromMarker, ranLeft, ranRight]
  match found with
  | .error error => exact ⟨rfl, after⟩
  | .ok none => exact ⟨rfl, after⟩
  | .ok (some marker) => exact alike.materialize named marker after

theorem remapsFor (alike : Alike scope renumber related) (named : scope.date date)
    (before : related left right) :
    Agree related id (Engine.remapsFor date left) (Engine.remapsFor date right) := by
  obtain ⟨stored, first, second, ranLeft, ranRight, between⟩ :=
    (alike.storedRemaps named before).same
  rw [Engine.remapsFor, Engine.remapsFor, ranLeft, ranRight]
  match stored with
  | .error error => exact ⟨rfl, between⟩
  | .ok (remap :: remaps) => exact ⟨rfl, between⟩
  | .ok [] =>
    obtain ⟨recorded, _, _, askedLeft, askedRight, after⟩ := (alike.record named between).same
    dsimp only
    rw [askedLeft, askedRight]
    match recorded with
    | .error error => exact ⟨rfl, after⟩
    | .ok (some record) => exact ⟨rfl, after⟩
    | .ok none => exact alike.remapsFromMarker named after

/-- By recursion on the remaps: both sides read the same days, in the same order. -/
theorem mergeKnowing (alike : Alike scope renumber related) (known : List (Weekday × List Entry))
    (remaps : List Remap) (before : related left right) :
    Agree related id (Engine.mergeKnowing known remaps left)
      (Engine.mergeKnowing known remaps right) := by
  induction remaps generalizing known left right with
  | nil => exact ⟨rfl, before⟩
  | cons remap remaps ih =>
    rw [Engine.mergeKnowing, Engine.mergeKnowing]
    cases known.lookup remap.source with
    | some entries =>
      obtain ⟨slots, _, _, ranLeft, ranRight, after⟩ := (ih known before).same
      dsimp only
      rw [ranLeft, ranRight]
      exact ⟨rfl, after⟩
    | none =>
      obtain ⟨entries, _, _, readLeft, readRight, between⟩ :=
        (alike.classesOn remap.source before).same
      obtain ⟨slots, _, _, ranLeft, ranRight, after⟩ :=
        (ih ((remap.source, entries) :: known) between).same
      dsimp only
      rw [readLeft, readRight]
      dsimp only
      rw [ranLeft, ranRight]
      exact ⟨rfl, after⟩

theorem merge (alike : Alike scope renumber related) (remaps : List Remap)
    (before : related left right) :
    Agree related id (Engine.merge remaps left) (Engine.merge remaps right) :=
  alike.mergeKnowing [] remaps before

theorem effectiveSchedule (alike : Alike scope renumber related) (named : scope.date date)
    (before : related left right) :
    Agree related id (Engine.effectiveSchedule date left)
      (Engine.effectiveSchedule date right) := by
  obtain ⟨remaps, _, _, ranLeft, ranRight, after⟩ := (alike.remapsFor named before).same
  rw [Engine.effectiveSchedule, Engine.effectiveSchedule, ranLeft, ranRight]
  cases remaps with
  | nil => exact alike.normalSchedule date after
  | cons remap remaps => exact alike.merge (remap :: remaps) after

/-- The handle of the new marker is not part of the answer. -/
theorem applyOn (alike : Alike scope renumber related) (named : scope.date date)
    (patternName : String) (day : Weekday) (custom? : Option String)
    (before : related left right) :
    Agree related id (Engine.applyOn date patternName day custom? left)
      (Engine.applyOn date patternName day custom? right) := by
  obtain ⟨created, _, _, ranLeft, ranRight, between⟩ := (alike.createMarker
    (((Plan.effectiveCustom? custom?).map String.ofList).getD patternName) named before).ran
  rw [Engine.applyOn, Engine.applyOn, ranLeft, ranRight]
  cases created with
  | error error => exact ⟨rfl, between⟩
  | ok handle =>
    obtain ⟨stored, _, _, storedLeft, storedRight, after⟩ :=
      (alike.replace (Plan.preview patternName day custom?) patternName named between).same
    dsimp only [Except.map]
    rw [storedLeft, storedRight]
    cases stored <;> exact ⟨rfl, after⟩

/-- By recursion on the attempts: both sides find a marker, or neither does. -/
theorem removeMarkers (alike : Alike scope renumber related) (named : scope.date date)
    (attempts : Nat) (removed : Bool) (before : related left right) :
    Agree related id (Engine.removeMarkers date attempts removed left)
      (Engine.removeMarkers date attempts removed right) := by
  induction attempts generalizing removed left right with
  | zero => exact ⟨rfl, before⟩
  | succ attempts ih =>
    obtain ⟨found, first, second, ranLeft, ranRight, between⟩ :=
      (alike.findMarker named before).ran
    rw [Engine.removeMarkers, Engine.removeMarkers, ranLeft, ranRight]
    match found with
    | .ok none => exact ⟨rfl, between⟩
    | .error error => cases error <;> exact ⟨rfl, between⟩
    | .ok (some marker) =>
      have deletes := alike.deleteFound named before ranRight
      rw [ranLeft] at deletes
      obtain ⟨deleted, _, _, goneLeft, goneRight, after⟩ := deletes.same
      dsimp only [Except.map, Option.map, Marker.renumbered]
      rw [goneLeft, goneRight]
      cases deleted with
      | error error => exact ⟨rfl, after⟩
      | ok gone => exact ih true after

theorem remove (alike : Alike scope renumber related) (named : scope.date date)
    (before : related left right) :
    Agree related id (Engine.remove date left) (Engine.remove date right) := by
  obtain ⟨cleared, _, _, ranLeft, ranRight, between⟩ := (alike.clear named before).same
  rw [Engine.remove, Engine.remove, ranLeft, ranRight]
  cases cleared with
  | error error => exact ⟨rfl, between⟩
  | ok flag =>
    obtain ⟨removed, _, _, goneLeft, goneRight, after⟩ :=
      (alike.removeMarkers named Engine.markerDeletions false between).same
    dsimp only
    rw [goneLeft, goneRight]
    cases removed <;> exact ⟨rfl, after⟩

omit [Backend σ] [Backend τ] in
theorem answer {α : Type} {operation : Operation σ StoreError α}
    {other : Operation τ StoreError α} (encode : α → Json)
    (agree : Agree related id (operation left) (other right)) :
    Agree related id (Http.answer encode operation left) (Http.answer encode other right) := by
  obtain ⟨result, _, _, ranLeft, ranRight, after⟩ := agree.same
  rw [Http.answer, Http.answer, ranLeft, ranRight]
  cases result <;> exact ⟨rfl, after⟩

omit [Backend σ] [Backend τ] in
theorem always {ranLeft : Http.Response × σ} {ranRight : Http.Response × τ}
    (agree : Agree related id ranLeft ranRight) :
    Agree related id (Http.always ranLeft) (Http.always ranRight) :=
  ⟨congrArg some agree.1, agree.2⟩

theorem getTimetable (alike : Alike scope renumber related) (before : related left right) :
    Agree related id (Http.getTimetable left) (Http.getTimetable right) :=
  answer Encode.entries (alike.entries before)

theorem putTimetable (alike : Alike scope renumber related) (exchanged : scope.timetable)
    (entries : List Entry) (before : related left right) :
    Agree related id (Http.putTimetable entries left) (Http.putTimetable entries right) := by
  obtain ⟨replaced, _, _, ranLeft, ranRight, after⟩ := 
    (alike.replaceEntries entries exchanged before).same
  rw [Http.putTimetable, Http.putTimetable, ranLeft, ranRight]
  cases replaced with
  | error error => exact ⟨rfl, after⟩
  | ok done => exact alike.getTimetable after

theorem getSchedule (alike : Alike scope renumber related) (named : scope.date date)
    (before : related left right) :
    Agree related id (Http.getSchedule date left) (Http.getSchedule date right) := by
  obtain ⟨slots, _, _, ranLeft, ranRight, between⟩ := (alike.effectiveSchedule named before).same
  obtain ⟨recorded, _, _, askedLeft, askedRight, after⟩ := (alike.record named between).same
  rw [Http.getSchedule, Http.getSchedule, ranLeft, ranRight]
  dsimp only
  rw [askedLeft, askedRight]
  exact ⟨rfl, after⟩

theorem putSpecial (alike : Alike scope renumber related) (named : scope.date date)
    (order : Http.ApplyOrder) (before : related left right) :
    Agree related id (Http.putSpecial date order left) (Http.putSpecial date order right) := by
  obtain ⟨applied, _, _, ranLeft, ranRight, between⟩ := (alike.applyOn named
    (String.ofList (Text.trim order.patternName.toList)) date.weekday order.custom? before).same
  unfold Http.putSpecial Engine.apply
  dsimp only
  rw [ranLeft, ranRight]
  split
  · exact ⟨rfl, before⟩
  · cases applied with
    | error error => exact ⟨rfl, between⟩
    | ok flag => exact always (answer _ (alike.storedRemaps named between))

theorem deleteSpecial (alike : Alike scope renumber related) (named : scope.date date)
    (before : related left right) :
    Agree related id (Http.deleteSpecial date left) (Http.deleteSpecial date right) := by
  obtain ⟨removed, _, _, ranLeft, ranRight, after⟩ := (alike.remove named before).same
  rw [Http.deleteSpecial, Http.deleteSpecial, ranLeft, ranRight]
  match removed with
  | .error error => exact ⟨rfl, after⟩
  | .ok true => exact ⟨rfl, after⟩
  | .ok false => exact ⟨rfl, after⟩

theorem getSpecials (alike : Alike scope renumber related) {first last : Date}
    (listed : scope.range first last) (before : related left right) :
    Agree related id (Http.getSpecials first last left) (Http.getSpecials first last right) :=
  answer _ (alike.specialDates listed before)

theorem perform (alike : Alike scope renumber related) {task : Http.Task}
    (within : task.Within scope) (before : related left right) :
    Agree related id (task.perform left) (task.perform right) := by
  unfold Http.Task.perform
  cases task with
  | respond response => exact ⟨rfl, before⟩
  | readTimetable => exact always (alike.getTimetable before)
  | writeTimetable entries => exact always (alike.putTimetable within entries before)
  | readSchedule date => exact always (alike.getSchedule within before)
  | writeSpecial date order => exact alike.putSpecial within order before
  | removeSpecial date => exact alike.deleteSpecial within before
  | listSpecials first last => exact always (alike.getSpecials within before)

theorem handle (alike : Alike scope renumber related) {request : Http.Request}
    (within : request.task.Within scope) (before : related left right) :
    Agree related id (Http.handle request left) (Http.handle request right) := by
  have performed := alike.perform within before
  rw [Http.handle_eq_perform, Http.handle_eq_perform]
  exact ⟨congrArg request.shown performed.1, performed.2⟩

end Backend.Alike

/-- The step keeps to the scope and looks at nothing that only tests look at. -/
def Step.Within (scope : Scope) : Step → Prop
  | replaceEntries _ => scope.timetable
  | replace date _ _ | rows date | storedRemaps date | record date | clear date => scope.date date
  | specialDates first last => scope.range first last
  | addEvent date _ | events date | findMarker date | createMarker date _ => scope.date date
  | deleteMarker handle => scope.handle handle
  | effective date | effectiveSorted date | remapsFor date => scope.date date
  | applyOn date _ _ _ | apply date _ _ | remove date => scope.date date
  | http request => request.task.Within scope
  | takeCalls | setFault _ => False
  | entries | fetch _ | normal _ | merge _ => True

/-- The dates that a step names. -/
def Step.dates : Step → List Date
  | replace date _ _ | rows date | storedRemaps date | record date | clear date => [date]
  | specialDates first last => [first, last]
  | addEvent date _ | events date | findMarker date | createMarker date _ => [date]
  | effective date | effectiveSorted date | remapsFor date | normal date => [date]
  | applyOn date _ _ _ | apply date _ _ | remove date => [date]
  | http request => request.dates
  | replaceEntries _ | entries | fetch _ | deleteMarker _ | merge _ | takeCalls | setFault _ => []

/-- A request that names only dates in scope is within the scope, as far as it exchanges the
timetable and lists dates. -/
theorem Http.Request.task_within {scope : Scope} {request : Http.Request}
    (dates : ∀ date ∈ request.dates, scope.date date)
    (exchanges : ∀ entries, request.task = .writeTimetable entries → scope.timetable)
    (lists : ∀ first last, request.task = .listSpecials first last → scope.range first last) :
    request.task.Within scope := by
  rcases request.task_dates with ⟨response, refused⟩ | same
  · rw [refused]
    trivial
  · rw [← same] at dates
    cases task : request.task with
    | listSpecials first last => exact lists first last task
    | writeTimetable entries => exact exchanges entries task
    | readSchedule date | writeSpecial date _ | removeSpecial date =>
      exact dates date (by rw [task]; exact List.mem_singleton_self date)
    | respond _ | readTimetable => trivial

/-- A step is within a scope that has the dates it names, a range if it names two of them and
the timetable if it names none, as well as the handle it names. What only tests look at is in
no scope. -/
theorem Step.within_of_dates {scope : Scope} {step : Step}
    (dates : ∀ date ∈ step.dates, scope.date date) (dateless : step.dates = [] → scope.timetable)
    (ranges : ∀ first last, step.dates = [first, last] → scope.range first last)
    (handles : ∀ handle, step = .deleteMarker handle → scope.handle handle)
    (noCalls : step ≠ .takeCalls) (noFault : ∀ fault, step ≠ .setFault fault) :
    step.Within scope := by
  cases step with
  | http request =>
    refine Http.Request.task_within dates (fun entries exchanging => ?_)
      fun first last listing => ?_
    · exact dateless (Http.Request.dates_eq exchanging fun response => nofun)
    · exact ranges first last (Http.Request.dates_eq listing fun response => nofun)
  | replaceEntries list => exact dateless rfl
  | specialDates first last => exact ranges first last rfl
  | deleteMarker handle => exact handles handle rfl
  | takeCalls => exact (noCalls rfl).elim
  | setFault fault => exact (noFault fault rfl).elim
  | entries | fetch _ | normal _ | merge _ => trivial
  | replace date _ _ | rows date | storedRemaps date | record date | clear date
  | addEvent date _ | events date | findMarker date | createMarker date _
  | effective date | effectiveSorted date | remapsFor date
  | applyOn date _ _ _ | apply date _ _ | remove date =>
    exact dates date (List.mem_singleton_self date)

namespace Outcome

/-- The outcome with other handles. -/
def renumbered (renumber : Int → Int) : Outcome → Outcome
  | handle value => handle (renumber value)
  | events list => events (list.map (Event.renumbered renumber))
  | marker marker? => marker (marker?.map (Marker.renumbered renumber))
  | outcome => outcome

theorem renumbered_id (outcome : Outcome) : outcome.renumbered id = outcome := by
  cases outcome with
  | events list => exact congrArg events (List.map_id list)
  | marker marker? => exact congrArg marker (Option.map_id_apply)
  | _ => rfl

/-- Wrapping up results that match gives outcomes that match. -/
theorem of_agree {σ τ α : Type} {alike : σ → τ → Prop} {rename : α → α} {renumber : Int → Int}
    {left : α × σ} {right : α × τ} {wrap : α → Outcome} (agree : Agree alike rename left right)
    (fits : ∀ value, wrap (rename value) = (wrap value).renumbered renumber) :
    Agree alike (renumbered renumber) (of wrap left) (of wrap right) :=
  ⟨(congrArg wrap agree.1).trans (fits right.1), agree.2⟩

end Outcome

/-- A step within the scope answers alike on both sides. -/
theorem Step.run_alike {σ τ : Type} [Backend σ] [EventBook σ] [Backend τ] [EventBook τ]
    {scope : Scope} {renumber : Int → Int} {related : Traced σ → Traced τ → Prop}
    {left : Traced σ} {right : Traced τ} (alike : Backend.Alike scope renumber related)
    (books : EventBook.Alike scope renumber related) {step : Step} (within : step.Within scope)
    (before : related left right) :
    Agree related (Outcome.renumbered renumber) (step.run left) (step.run right) := by
  have plain {α : Type} {ranLeft : α × Traced σ} {ranRight : α × Traced τ} {wrap : α → Outcome}
      (agree : Agree related id ranLeft ranRight)
      (bare : ∀ value, wrap value = (wrap value).renumbered renumber) :
      Agree related (Outcome.renumbered renumber) (Outcome.of wrap ranLeft)
        (Outcome.of wrap ranRight) := Outcome.of_agree agree bare
  have stored {α : Type} {ranLeft : Except StoreError α × Traced σ}
      {ranRight : Except StoreError α × Traced τ} {wrap : α → Outcome}
      (agree : Agree related id ranLeft ranRight)
      (bare : ∀ value, wrap value = (wrap value).renumbered renumber) :
      Agree related (Outcome.renumbered renumber) (Outcome.of (Outcome.ofStore wrap) ranLeft)
        (Outcome.of (Outcome.ofStore wrap) ranRight) :=
    plain agree fun result => by
      cases result with
      | error error => rfl
      | ok value => exact bare value
  cases step with
  | replaceEntries list => exact stored (alike.replaceEntries list within before) fun _ => rfl
  | entries => exact stored (alike.entries before) fun _ => rfl
  | fetch day => exact stored (alike.fetch day before) fun _ => rfl
  | replace date remaps patternName =>
    exact stored (alike.replace remaps patternName within before) fun _ => rfl
  | rows date => exact stored (alike.rows within before) fun _ => rfl
  | storedRemaps date => exact stored (alike.storedRemaps within before) fun _ => rfl
  | record date => exact stored (alike.record within before) fun _ => rfl
  | clear date => exact stored (alike.clear within before) fun _ => rfl
  | specialDates first last => exact stored (alike.specialDates within before) fun _ => rfl
  | addEvent date title =>
    exact Outcome.of_agree (books.addEvent title within before) fun result => by
      cases result <;> rfl
  | events date =>
    exact Outcome.of_agree (books.eventsOn within before) fun result => by cases result <;> rfl
  | findMarker date =>
    exact Outcome.of_agree (alike.findMarker within before) fun result => by cases result <;> rfl
  | createMarker date patternName =>
    exact Outcome.of_agree (alike.createMarker patternName within before) fun result => by
      cases result <;> rfl
  | deleteMarker handle =>
    exact plain (alike.deleteMarker within before) fun result => by cases result <;> rfl
  | effective date => exact plain (alike.effectiveSchedule within before) fun _ => rfl
  | effectiveSorted date => exact plain (alike.effectiveSchedule within before) fun _ => rfl
  | remapsFor date => exact plain (alike.remapsFor within before) fun _ => rfl
  | normal date => exact plain (alike.normalSchedule date before) fun _ => rfl
  | merge remaps => exact plain (alike.merge remaps before) fun _ => rfl
  | applyOn date patternName day custom? =>
    exact plain (alike.applyOn within patternName day custom? before) fun result => by
      cases result <;> rfl
  | apply date patternName custom? =>
    exact plain (alike.applyOn within patternName date.weekday custom? before) fun result => by
      cases result <;> rfl
  | remove date =>
    exact plain (alike.remove within before) fun result => by cases result <;> rfl
  | http request =>
    exact plain (alike.handle within before) fun response? => by cases response? <;> rfl
  | takeCalls => exact within.elim
  | setFault fault => exact within.elim

namespace Traced

variable {σ τ : Type} {related : σ → τ → Prop} {left : Traced σ} {right : Traced τ}

/-- The backends below are alike, the same calls were noted and the same faults wait. -/
structure InStep (related : σ → τ → Prop) (left : Traced σ) (right : Traced τ) : Prop where
  base : related left.base right.base
  calls : left.calls = right.calls
  faults : left.faults = right.faults

/-- The same fault strikes on both sides, or none does. -/
theorem InStep.noted {ε α : Type} {operation : Operation σ ε α} {other : Operation τ ε α}
    {rename : Except ε α → Except ε α} {failed : Fault → Except ε α}
    (inStep : InStep related left right) (call : Call)
    (struck : ∀ fault, failed fault = rename (failed fault))
    (agree : Agree related rename (operation left.base) (other right.base)) :
    Agree (InStep related) rename (noted call failed operation left)
      (noted call failed other right) := by
  unfold Traced.noted enter
  rw [inStep.faults, inStep.calls]
  cases right.faults.find? (·.call == call) with
  | none => exact ⟨agree.1, agree.2, rfl, rfl⟩
  | some fault => exact ⟨struck fault, inStep.base, rfl, rfl⟩

theorem InStep.below {ε α : Type} {operation : Operation σ ε α} {other : Operation τ ε α}
    {rename : Except ε α → Except ε α} (inStep : InStep related left right)
    (agree : Agree related rename (operation left.base) (other right.base)) :
    Agree (InStep related) rename (Traced.below operation left) (Traced.below other right) :=
  ⟨agree.1, agree.2, inStep.calls, inStep.faults⟩

theorem InStep.setFault (inStep : InStep related left right) (fault : Fault) :
    InStep related (left.setFault fault) (right.setFault fault) where
  base := inStep.base
  calls := inStep.calls
  faults := by rw [Traced.setFault, Traced.setFault, inStep.faults]

theorem InStep.takeCalls (inStep : InStep related left right) :
    Agree (InStep related) id left.takeCalls right.takeCalls :=
  ⟨inStep.calls, inStep.base, rfl, inStep.faults⟩

end Traced

/-- Where every handle may be named, a marker that was found may be deleted like any event. -/
theorem Backend.deleteFound_of_deleteMarker {σ τ : Type} [Backend σ] [Backend τ]
    {related : σ → τ → Prop} {left : σ} {right after : τ} {date : Date} {marker : Marker}
    (finds : Agree related (Except.map (Option.map (Marker.renumbered id)))
      (Backend.findMarker date left) (Backend.findMarker date right))
    (deletes : ∀ {first second}, related first second →
      Agree related id (Backend.deleteMarker marker.handle first)
        (Backend.deleteMarker marker.handle second))
    (found : Backend.findMarker date right = (.ok (some marker), after)) :
    Agree related id (Backend.deleteMarker (id marker.handle) (Backend.findMarker date left).2)
      (Backend.deleteMarker marker.handle after) := by
  have between := finds.2
  rw [found] at between
  exact deletes between

/-- Backends in lockstep stay so when calls are noted and faults strike on both. -/
theorem Backend.Alike.traced {σ τ : Type} [Backend σ] [Backend τ] {scope : Scope}
    {related : σ → τ → Prop} (alike : Alike scope id related)
    (everyHandle : ∀ handle, scope.handle handle) :
    Alike scope id (Traced.InStep related) := by
  have finds {left : Traced σ} {right : Traced τ} {date : Date} (named : scope.date date)
      (inStep : Traced.InStep related left right) :
      Agree (Traced.InStep related) (Except.map (Option.map (Marker.renumbered id)))
        (Backend.findMarker date left) (Backend.findMarker date right) := by
    refine inStep.noted _ (fun fault => ?_) (alike.findMarker named inStep.base)
    unfold Fault.calendarResult
    cases fault.mishap <;> rfl
  have deletes {left : Traced σ} {right : Traced τ} (handle : Int)
      (inStep : Traced.InStep related left right) :
      Agree (Traced.InStep related) id (Backend.deleteMarker handle left)
        (Backend.deleteMarker handle right) :=
    inStep.noted _ (fun _ => rfl) (alike.deleteMarker (everyHandle handle) inStep.base)
  exact {
    fetch day inStep := inStep.noted _ (fun _ => rfl) (alike.fetch day inStep.base)
    entries inStep := inStep.noted _ (fun _ => rfl) (alike.entries inStep.base)
    replaceEntries list exchanged inStep :=
      inStep.noted _ (fun _ => rfl) (alike.replaceEntries list exchanged inStep.base)
    replace remaps patternName named inStep :=
      inStep.noted _ (fun _ => rfl) (alike.replace remaps patternName named inStep.base)
    rows named inStep := inStep.noted _ (fun _ => rfl) (alike.rows named inStep.base)
    clear named inStep := inStep.noted _ (fun _ => rfl) (alike.clear named inStep.base)
    record named inStep := inStep.noted _ (fun _ => rfl) (alike.record named inStep.base)
    specialDates listed inStep :=
      inStep.noted _ (fun _ => rfl) (alike.specialDates listed inStep.base)
    findMarker := finds
    createMarker patternName named inStep := by
      refine inStep.noted _ (fun fault => ?_) (alike.createMarker patternName named inStep.base)
      unfold Fault.calendarResult
      cases fault.mishap <;> rfl
    deleteMarker _ inStep := deletes _ inStep
    deleteFound named inStep found :=
      deleteFound_of_deleteMarker (finds named inStep) (deletes _) found }

theorem EventBook.Alike.traced {σ τ : Type} [EventBook σ] [EventBook τ] {scope : Scope}
    {renumber : Int → Int} {related : σ → τ → Prop} (alike : Alike scope renumber related) :
    Alike scope renumber (Traced.InStep related) where
  addEvent title named inStep := inStep.below (alike.addEvent title named inStep.base)
  eventsOn named inStep := inStep.below (alike.eventsOn named inStep.base)

end SchoolWeek
