import Mathlib
import SchoolWeek.Proofs.StepContract

/-! A date is decided once. Looking at a date writes nothing but its record, and that only
where there is none yet and a marker asks for one. From then on neither the calendar nor any
look changes what is recorded, and so what is in force, until the record is rewritten. -/
namespace SchoolWeek

/-- The date whose record the task is there to change. -/
def Http.Task.rewrites : Task → Option Date
  | writeSpecial date _ | removeSpecial date => some date
  | _ => none

/-- The date whose record the step is there to change. -/
def Step.rewrites : Step → Option Date
  | replace date _ _ | clear date | applyOn date _ _ _ | apply date _ _ | remove date => some date
  | http request => request.task.rewrites
  | _ => none

def Session.Act.rewrites : Act → Option Date
  | common step => step.rewrites
  | inMemory _ => none

namespace View

theorem remapsFor_marked {view : View} {date : Date} {marker : Marker}
    (missing : view.recordOn date = none) (found : view.marker? date = some marker) :
    (view.remapsFor date).2 = view.withRecord date (some ⟨date, marker.patternName, Remap.flatten
      (Plan.ofPatternName marker.patternName.toList date.weekday) marker.patternName⟩) := by
  rw [remapsFor, missing, found]
  rfl

/-- A look leaves the view as it is or records what a marker asks for. -/
theorem remapsFor_snd (view : View) (date : Date) :
    (view.remapsFor date).2 = view ∨
      ∃ record, view.recordOn date = none ∧
        (view.remapsFor date).2 = view.withRecord date (some record) := by
  cases recorded : view.recordOn date with
  | some record => exact .inl (congrArg Prod.snd (remapsFor_recorded recorded))
  | none =>
    cases found : view.marker? date with
    | none => exact .inl (congrArg Prod.snd (remapsFor_unmarked recorded found))
    | some marker => exact .inr ⟨_, rfl, remapsFor_marked recorded found⟩

theorem remapsFor_recordOn_self {view : View} {date : Date}
    (unasked : view.recordOn date = none → view.marker? date = none) :
    (view.remapsFor date).2.recordOn date = view.recordOn date := by
  cases recorded : view.recordOn date with
  | some record => rw [remapsFor_recorded recorded, recorded]
  | none => rw [remapsFor_unmarked recorded (unasked recorded), recorded]

section Recorded

variable {view : View} {date : Date} {record : Record}

theorem remapsFor_recordOn (recorded : view.recordOn date = some record) (other : Date) :
    (view.remapsFor other).2.recordOn date = some record := by
  rcases view.remapsFor_snd other with same | ⟨made, missing, written⟩
  · rw [same, recorded]
  · have apart : date ≠ other := by
      rintro rfl
      rw [recorded] at missing
      cases missing
    rw [written, withRecord_recordOn_of_ne _ _ apart, recorded]

theorem applyOn_recordOn_of_ne (recorded : view.recordOn date = some record) {other : Date}
    (apart : date ≠ other) (handle : Int) (patternName : String) (day : Weekday)
    (custom? : Option String) :
    (view.applyOn handle other patternName day custom?).2.recordOn date = some record := by
  have untouched := view.createMarker_recordOn other handle (markerText patternName custom?)
  unfold applyOn
  dsimp only
  split <;> rename_i created <;> rw [created] at untouched
  · rw [← recorded, ← untouched]
  · rw [withRecord_recordOn_of_ne _ _ apart, ← recorded, ← untouched]

theorem remove_recordOn_of_ne (recorded : view.recordOn date = some record) {other : Date}
    (apart : date ≠ other) : (view.remove other).2.recordOn date = some record := by
  rw [remove, withoutFirstMarkers_recordOn, withRecord_recordOn_of_ne _ _ apart, recorded]

theorem afterTask_recordOn (recorded : view.recordOn date = some record) (handle : Int)
    {task : Http.Task} (elsewhere : task.rewrites ≠ some date) :
    (view.afterTask handle task).recordOn date = some record := by
  cases task with
  | respond _ | readTimetable | listSpecials _ _ => exact recorded
  | writeTimetable entries => rw [afterTask, replaceEntries_recordOn, recorded]
  | readSchedule other => exact remapsFor_recordOn recorded other
  | writeSpecial other order =>
    have apart : date ≠ other := fun same => elsewhere (congrArg some same.symm)
    unfold afterTask
    dsimp only
    split_ifs
    · exact recorded
    · exact applyOn_recordOn_of_ne recorded apart _ _ _ _
  | removeSpecial other =>
    exact remove_recordOn_of_ne recorded fun same => elsewhere (congrArg some same.symm)

/-- One case for each kind of step: a record is there to stay unless it is rewritten. -/
theorem after_recordOn (recorded : view.recordOn date = some record) (handle : Int) {step : Step}
    (elsewhere : step.rewrites ≠ some date) :
    (view.after handle step).recordOn date = some record := by
  have apart {other : Date} (named : step.rewrites = some other) : date ≠ other := fun same =>
    elsewhere (named.trans (congrArg some same.symm))
  cases step with
  | replaceEntries entries => rw [after, replaceEntries_recordOn, recorded]
  | replace other _ _ | clear other =>
    rw [after, withRecord_recordOn_of_ne _ _ (apart rfl), recorded]
  | addEvent other title => rw [after, addEvent_recordOn, recorded]
  | createMarker other patternName => rw [after, createMarker_recordOn, recorded]
  | deleteMarker old => rw [after, deleteMarker_recordOn, recorded]
  | effective other | effectiveSorted other | remapsFor other =>
    exact remapsFor_recordOn recorded other
  | applyOn other _ _ _ | apply other _ _ =>
    exact applyOn_recordOn_of_ne recorded (apart rfl) _ _ _ _
  | remove other => exact remove_recordOn_of_ne recorded (apart rfl)
  | http request => exact afterTask_recordOn recorded handle elsewhere
  | entries | fetch _ | rows _ | storedRemaps _ | record _ | specialDates _ _ | events _
  | findMarker _ | normal _ | merge _ | takeCalls | setFault _ => exact recorded

theorem afterAct_recordOn (recorded : view.recordOn date = some record) (isMemory : Bool)
    (handle : Int) {act : Session.Act} (elsewhere : act.rewrites ≠ some date) :
    (view.afterAct isMemory handle act).recordOn date = some record := by
  cases act with
  | common step => exact after_recordOn recorded handle elsewhere
  | inMemory step =>
    unfold afterAct
    dsimp only
    split_ifs
    · cases step <;> exact recorded
    · exact recorded

end Recorded

end View

namespace Session

/-- What a look at a date leaves as it was, and when and what it records. -/
structure Looked (before after : Session) (date : Date) : Prop where
  entries : (after.run .entries).1 = (before.run .entries).1
  fetch (weekday : Weekday) : (after.run (.fetch weekday)).1 = (before.run (.fetch weekday)).1
  events (other : Date) : after.eventsOn other = before.eventsOn other
  next : after.next = before.next
  permitted : after.permitted = before.permitted
  otherRecords (other : Date) : other ≠ date →
    (after.run (.record other)).1 = (before.run (.record other)).1
  materialized (marker : Marker) : (before.run (.record date)).1 = .record none →
    (before.run (.findMarker date)).1 = .marker (some marker) →
      (after.run (.record date)).1 = .record (some ⟨date, marker.patternName, Remap.flatten
        (Plan.ofPatternName marker.patternName.toList date.weekday) marker.patternName⟩)
  untouched : ((before.run (.record date)).1 = .record none →
      ∀ marker, (before.run (.findMarker date)).1 ≠ .marker (some marker)) →
    (after.run (.record date)).1 = (before.run (.record date)).1

/-- The marker that is found is the one that the view has. -/
theorem Shows.findMarker_eq_some_iff {session : Session} {view : View}
    (shown : session.Shows view) {date : Date} {marker : Marker} :
    (session.run (.findMarker date)).1 = .marker (some marker) ↔
      view.marker? date = some marker := by
  rw [(shown.findMarker date).1]
  by_cases permitted : view.permitted = true
  · rw [View.findMarker_permitted permitted]
    exact ⟨Outcome.marker.inj, congrArg Outcome.marker⟩
  · obtain ⟨denied, unseen⟩ := View.findMarker_denied permitted date
    rw [denied, unseen]
    exact ⟨nofun, nofun⟩

theorem Looked.of_shows {before after : Session} {view : View} {date : Date}
    (shown : before.Shows view) (left : after.Shows (view.remapsFor date).2)
    (next : after.next = before.next) : Looked before after date := by
  have frame : ∃ records, (view.remapsFor date).2 = { view with recordOn := records } := by
    rcases view.remapsFor_snd date with same | ⟨record, -, written⟩
    · exact ⟨view.recordOn, same⟩
    · exact ⟨_, written⟩
  have records : ∀ {session : Session} {view : View} {other : Date}, session.Shows view →
      (session.run (.record other)).1 = .record (view.recordOn other) :=
    fun shown => (shown.record _).1
  obtain ⟨others, same⟩ := frame
  refine ⟨?_, fun weekday => ?_, fun other => ?_, next, ?_, fun other apart => ?_,
    fun marker missing found => ?_, fun unasked => ?_⟩
  · rw [left.entries.1, shown.entries.1, same]
  · rw [(left.fetch weekday).1, (shown.fetch weekday).1, same]
    rfl
  · rw [left.eventsOn, shown.eventsOn, same]
    rfl
  · rw [← left.permitted, ← shown.permitted, same]
  · rw [records left, records shown]
    rcases view.remapsFor_snd date with same | ⟨record, -, written⟩
    · rw [same]
    · rw [written, View.withRecord_recordOn_of_ne _ _ apart]
  · have unrecorded : view.recordOn date = none :=
      Outcome.record.inj ((records shown).symm.trans missing)
    rw [records left, View.remapsFor_marked unrecorded (shown.findMarker_eq_some_iff.mp found),
      View.withRecord_recordOn_self]
  · rw [records left, records shown, View.remapsFor_recordOn_self fun recorded => ?_]
    refine Option.eq_none_iff_forall_ne_some.mpr fun marker found => ?_
    have missing := (records shown).trans (congrArg Outcome.record recorded)
    exact unasked missing marker (shown.findMarker_eq_some_iff.mpr found)

/-- By induction on the acts: none of them rewrites the record. -/
theorem Shows.runActs_recordOn {session : Session} {view : View} {date : Date} {record : Record}
    {acts : List Act} (shown : session.Shows view) (recorded : view.recordOn date = some record)
    (sparing : ∀ act ∈ acts, act.isForTests = false ∧ act.rewrites ≠ some date) :
    ∃ after, (session.runActs acts).Shows after ∧ after.recordOn date = some record := by
  induction acts generalizing session view with
  | nil => exact ⟨view, shown, recorded⟩
  | cons act acts ih =>
    obtain ⟨⟨used, elsewhere⟩, rest⟩ := List.forall_mem_cons.mp sparing
    obtain ⟨after, -⟩ := shown.act_numbered used
    exact ih after (View.afterAct_recordOn recorded _ _ elsewhere) rest

/-- A look at a date records at most what a marker asks for, where nothing is recorded yet.
Once a date has a record, it and the remaps in force stay until the record is rewritten. -/
theorem looking_settles {session : Session} (reachable : session.Reachable)
    (calm : session.faults = []) (date : Date) :
    Looked session (session.run (.remapsFor date)).2 date ∧
      Looked session (session.run (.effective date)).2 date ∧
      ∀ record, (session.run (.record date)).1 = .record (some record) →
        ∀ acts : List Act, (∀ act ∈ acts, act.isForTests = false ∧ act.rewrites ≠ some date) →
          ((session.runActs acts).run (.record date)).1 = .record (some record) ∧
          ((session.runActs acts).run (.remapsFor date)).1 =
            (session.run (.remapsFor date)).1 := by
  obtain ⟨view, shown⟩ := reachable.shows calm
  obtain ⟨remapped, remappedNext⟩ := shown.run_numbered (.remapsFor date) (Act.ne_setFault rfl)
  obtain ⟨scheduled, scheduledNext⟩ := shown.run_numbered (.effective date) (Act.ne_setFault rfl)
  refine ⟨.of_shows shown remapped (remappedNext.trans (add_zero _)),
    .of_shows shown scheduled (scheduledNext.trans (add_zero _)),
    fun record recorded acts sparing => ?_⟩
  have kept : view.recordOn date = some record :=
    Outcome.record.inj ((shown.record date).1.symm.trans recorded)
  obtain ⟨after, shows, still⟩ := shown.runActs_recordOn kept sparing
  rw [(shows.record date).1, (shows.remapsFor date).1, (shown.remapsFor date).1, still,
    View.remapsFor_recorded still, View.remapsFor_recorded kept]
  exact ⟨rfl, rfl⟩

/-- A session with a marker that nobody has looked at yet. -/
def announced : Session := emptyMemory.runAll [.addEvent monday "特殊時程: 短縮A時程"]

/-- The marker is replaced and deleted, access is withdrawn, and the date is looked at. -/
def upheaval : List Act :=
  [.common (.createMarker monday "月1→火1"), .common (.deleteMarker 2), .inMemory (.permission false),
    .common (.effective monday), .common (.addEvent monday "通常"), .inMemory (.permission true)]

theorem looking_settles_announced :
    announced.Reachable ∧ announced.faults = [] ∧
      Looked announced (announced.run (.effective monday)).2 monday ∧
      ∃ record, ((announced.run (.effective monday)).2.run (.record monday)).1 =
          .record (some record) ∧
        (∀ act ∈ upheaval, act.isForTests = false ∧ act.rewrites ≠ some monday) ∧
        ((((announced.run (.effective monday)).2.runActs upheaval).run (.record monday)).1 =
          .record (some record)) := by
  have reachable : announced.Reachable := reachable_emptyMemory.runAll _
  have sparing : ∀ act ∈ upheaval, act.isForTests = false ∧ act.rewrites ≠ some monday := by
    decide
  have written : ((announced.run (.effective monday)).2.run (.record monday)).1 = .record
      (some ⟨monday, "短縮A時程", Remap.flatten (Plan.Template.shortA.remaps .monday) "短縮A時程"⟩) := by
    rfl
  obtain ⟨-, looked, -⟩ := looking_settles reachable rfl monday
  obtain ⟨-, -, stays⟩ := looking_settles (reachable.run (.effective monday)) rfl monday
  exact ⟨reachable, rfl, looked, _, written, sparing, (stays _ written upheaval sparing).1⟩

end Session

end SchoolWeek
