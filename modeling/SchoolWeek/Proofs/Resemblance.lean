import Mathlib
import SchoolWeek.Proofs.StepContract

/-! Views that differ in nothing but the numbers of their events and how their records put
the remaps: the name of the pattern and the labels of the rows. Neither plays a part in what
is in force, so whatever is done in both views leaves them so, and the schedules of all dates
stay the same. -/
namespace SchoolWeek

/-- The step that names an event by its number on the other side. -/
def Step.renumbered (renumber : Int → Int) : Step → Step
  | deleteMarker handle => deleteMarker (renumber handle)
  | step => step

namespace View

/-- The view with these records instead of its own. -/
def recording (view : View) (records : Date → Option Record) : View :=
  { view with recordOn := records }

/-- What a record stands for. -/
def decides (record? : Option Record) : Option (List Remap) :=
  record?.map fun record => Remap.regroup record.rows

/-- The records stand for the same remaps, and all else is the same but for the numbers of
the events. -/
def Resembles (renumber : Int → Int) (left right : View) : Prop :=
  ∃ records, (∀ date, decides (records date) = decides (right.recordOn date)) ∧
    left.AgreeOn (fun _ => True) renumber (right.recording records)

theorem storedRemaps_eq (view : View) (date : Date) :
    view.storedRemaps date = (decides (view.recordOn date)).getD [] := by
  unfold storedRemaps rowsOn decides
  cases view.recordOn date <;> rfl

section Recording

variable (view : View) (records : Date → Option Record) (date : Date) (handle : Int)

/-- Neither the timetable nor the calendar goes by what is recorded. -/
theorem replaceEntries_recording (entries : List Entry) :
    ((view.recording records).replaceEntries entries).2 =
      (view.replaceEntries entries).2.recording records := by
  unfold View.replaceEntries
  split <;> rfl

theorem addEvent_recording (title : String) :
    ((view.recording records).addEvent handle date title).2 =
      (view.addEvent handle date title).2.recording records := by
  unfold View.addEvent
  split <;> rfl

theorem createMarker_recording (patternName : String) :
    (view.recording records).createMarker handle date patternName =
      ((view.createMarker handle date patternName).1,
        (view.createMarker handle date patternName).2.recording records) := by
  have permitted : (view.recording records).permitted = view.permitted := rfl
  have lead : (view.recording records).lead = view.lead := rfl
  rw [createMarker_eq, createMarker_eq, permitted, lead]
  split_ifs
  · cases Event.fullDay handle date (Marker.title view.lead patternName) <;> rfl
  · rfl

theorem deleteMarker_recording :
    ((view.recording records).deleteMarker handle).2 =
      (view.deleteMarker handle).2.recording records := by
  show (if view.permitted then if handle ∈ view.handles then _ else _ else _ : _ × View).2 = _
  unfold View.deleteMarker
  split_ifs <;> rfl

theorem withoutFirstMarkers_recording (count : Nat) :
    (view.recording records).withoutFirstMarkers date count =
      (view.withoutFirstMarkers date count).recording records := by
  induction count generalizing view with
  | zero => rfl
  | succ count ih =>
    have same : (view.recording records).markersOn date = view.markersOn date := rfl
    rw [withoutFirstMarkers, withoutFirstMarkers, same]
    cases (view.markersOn date).head? with
    | none => rfl
    | some event => exact ih (view.withoutHandle event.handle)

end Recording

namespace Resembles

variable {renumber : Int → Int} {left right : View} {date : Date}

theorem of_agreeOn (agree : left.AgreeOn (fun _ => True) renumber right) :
    left.Resembles renumber right :=
  ⟨right.recordOn, fun _ => rfl, agree⟩

theorem replaceEntries (resembles : left.Resembles renumber right) (entries : List Entry) :
    (left.replaceEntries entries).2.Resembles renumber (right.replaceEntries entries).2 := by
  obtain ⟨records, decided, agree⟩ := resembles
  refine ⟨records, by rwa [replaceEntries_recordOn], ?_⟩
  rw [← replaceEntries_recording]
  exact (agree.replaceEntries entries).2

theorem addEvent (resembles : left.Resembles renumber right) (handle : Int) (date : Date)
    (title : String) :
    (left.addEvent (renumber handle) date title).2.Resembles renumber
      (right.addEvent handle date title).2 := by
  obtain ⟨records, decided, agree⟩ := resembles
  refine ⟨records, by rwa [addEvent_recordOn], ?_⟩
  rw [← addEvent_recording]
  exact (agree.addEvent handle date title).2

theorem createMarker (resembles : left.Resembles renumber right) (handle : Int) (date : Date)
    (patternName : String) :
    (left.createMarker (renumber handle) date patternName).1 =
        (right.createMarker handle date patternName).1.map renumber ∧
      (left.createMarker (renumber handle) date patternName).2.Resembles renumber
        (right.createMarker handle date patternName).2 := by
  obtain ⟨records, decided, agree⟩ := resembles
  have creates := agree.createMarker handle date patternName
  rw [createMarker_recording] at creates
  exact ⟨creates.1, records, by rwa [createMarker_recordOn], creates.2⟩

theorem deleteMarker (resembles : left.Resembles renumber right)
    (injective : Function.Injective renumber) (handle : Int) :
    (left.deleteMarker (renumber handle)).2.Resembles renumber (right.deleteMarker handle).2 := by
  obtain ⟨records, decided, agree⟩ := resembles
  refine ⟨records, by rwa [deleteMarker_recordOn], ?_⟩
  rw [← deleteMarker_recording]
  exact agree.deleteMarker injective handle

/-- The record of any date may be exchanged, each side having its own label. -/
theorem withRecord (resembles : left.Resembles renumber right) (date : Date)
    {record? other? : Option Record} (same : decides record? = decides other?) :
    (left.withRecord date record?).Resembles renumber (right.withRecord date other?) := by
  obtain ⟨records, decided, agree⟩ := resembles
  refine ⟨fun other => if other = date then record? else records other, fun other => ?_,
    agree.withRecord date record?⟩
  dsimp only [View.withRecord]
  split_ifs
  · exact same
  · exact decided other

theorem applyOn (resembles : left.Resembles renumber right) (handle : Int) (date : Date)
    (patternName : String) (day : Weekday) (custom? : Option String) :
    (left.applyOn (renumber handle) date patternName day custom?).2.Resembles renumber
      (right.applyOn handle date patternName day custom?).2 := by
  obtain ⟨same, created⟩ := resembles.createMarker handle date (markerText patternName custom?)
  unfold View.applyOn
  generalize left.createMarker (renumber handle) date (markerText patternName custom?) = ran
    at same created ⊢
  generalize right.createMarker handle date (markerText patternName custom?) = ranToo
    at same created ⊢
  obtain ⟨result, first⟩ := ran
  obtain ⟨resultToo, second⟩ := ranToo
  obtain rfl : result = resultToo.map renumber := same
  cases resultToo with
  | error error => exact created
  | ok value => exact created.withRecord date rfl

theorem storedRemaps (resembles : left.Resembles renumber right) (date : Date) :
    left.storedRemaps date = right.storedRemaps date := by
  obtain ⟨records, decided, agree⟩ := resembles
  rw [storedRemaps_eq, storedRemaps_eq, agree.recordOn trivial]
  exact congrArg (Option.getD · []) (decided date)

/-- The same remaps are in force, and a marker is materialized on both sides or on neither. -/
theorem remapsFor (resembles : left.Resembles renumber right) (date : Date) :
    (left.remapsFor date).1 = (right.remapsFor date).1 ∧
      (left.remapsFor date).2.Resembles renumber (right.remapsFor date).2 := by
  have stored := resembles.storedRemaps date
  obtain ⟨records, decided, agree⟩ := id resembles
  have marker : left.marker? date = (right.marker? date).map (Marker.renumbered renumber) :=
    agree.marker? trivial
  have either : (left.recordOn date).isSome = (right.recordOn date).isSome := by
    have same := congrArg Option.isSome (decided date)
    rwa [decides, decides, Option.isSome_map, Option.isSome_map,
      show records date = left.recordOn date from (agree.recordOn trivial).symm] at same
  unfold View.remapsFor
  rw [marker]
  cases recorded : right.recordOn date with
  | none =>
    rw [recorded, Option.isSome_none, Option.isSome_eq_false_iff, Option.isNone_iff_eq_none]
      at either
    rw [either]
    cases right.marker? date with
    | none => exact ⟨stored, resembles⟩
    | some found => exact ⟨rfl, resembles.withRecord date rfl⟩
  | some record =>
    rw [recorded, Option.isSome_some] at either
    obtain ⟨given, recordedToo⟩ := Option.isSome_iff_exists.mp either
    rw [recordedToo]
    exact ⟨stored, resembles⟩

theorem entries (resembles : left.Resembles renumber right) : left.entries = right.entries := by
  obtain ⟨records, -, agree⟩ := resembles
  exact agree.entries

theorem effectiveSchedule (resembles : left.Resembles renumber right) (date : Date) :
    (left.effectiveSchedule date).1 = (right.effectiveSchedule date).1 := by
  obtain ⟨same, after⟩ := resembles.remapsFor date
  unfold View.effectiveSchedule
  dsimp only
  rw [same]
  unfold scheduleUnder View.normalSchedule View.merge View.classesOn
  rw [after.entries]

theorem permitted (resembles : left.Resembles renumber right) :
    left.permitted = right.permitted := by
  obtain ⟨records, -, agree⟩ := resembles
  exact agree.permitted

theorem remove (resembles : left.Resembles renumber right)
    (injective : Function.Injective renumber) (date : Date) :
    (left.remove date).2.Resembles renumber (right.remove date).2 := by
  obtain ⟨records, decided, agree⟩ := resembles.withRecord date (Eq.refl (decides none))
  unfold View.remove deletions
  rw [resembles.permitted]
  refine ⟨records, by rwa [withoutFirstMarkers_recordOn], ?_⟩
  rw [← withoutFirstMarkers_recording]
  exact agree.withoutFirstMarkers injective trivial _

theorem afterTask (resembles : left.Resembles renumber right)
    (injective : Function.Injective renumber) (handle : Int) (task : Http.Task) :
    (left.afterTask (renumber handle) task).Resembles renumber (right.afterTask handle task) := by
  cases task with
  | respond _ | readTimetable | listSpecials _ _ => exact resembles
  | writeTimetable entries => exact resembles.replaceEntries entries
  | readSchedule date => exact (resembles.remapsFor date).2
  | writeSpecial date order =>
    unfold View.afterTask
    dsimp only
    split_ifs
    · exact resembles
    · exact resembles.applyOn handle date _ _ _
  | removeSpecial date => exact resembles.remove injective date

/-- One case for each kind of step. -/
theorem after (resembles : left.Resembles renumber right)
    (injective : Function.Injective renumber) (handle : Int) (step : Step) :
    (left.after (renumber handle) (step.renumbered renumber)).Resembles renumber
      (right.after handle step) := by
  cases step with
  | replaceEntries entries => exact resembles.replaceEntries entries
  | replace date _ _ | clear date => exact resembles.withRecord date rfl
  | addEvent date title => exact resembles.addEvent handle date title
  | createMarker date patternName => exact (resembles.createMarker handle date patternName).2
  | deleteMarker old => exact resembles.deleteMarker injective old
  | effective date | effectiveSorted date | remapsFor date => exact (resembles.remapsFor date).2
  | applyOn date _ _ _ | apply date _ _ => exact resembles.applyOn handle date _ _ _
  | remove date => exact resembles.remove injective date
  | http request => exact resembles.afterTask injective handle request.task
  | entries | fetch _ | rows _ | storedRemaps _ | record _ | specialDates _ _ | events _
  | findMarker _ | normal _ | merge _ | takeCalls | setFault _ => exact resembles

theorem afterInMemory (resembles : left.Resembles renumber right) (step : MemoryStep) :
    (left.afterInMemory step).Resembles renumber (right.afterInMemory step) := by
  have same := resembles.entries
  obtain ⟨records, decided, agree⟩ := resembles
  cases step with
  | upsert _ | removeEntry _ _ =>
    unfold View.afterInMemory
    rw [same]
    exact ⟨records, decided, rfl, agree.lead, agree.permitted, agree.recordOn, agree.eventsOn⟩
  | permission granted =>
    exact ⟨records, decided, agree.entries, agree.lead, rfl, agree.recordOn, agree.eventsOn⟩

end Resembles

end View

theorem Step.numbers?_renumbered (step : Step) (renumber : Int → Int) (permitted : Bool) :
    (step.renumbered renumber).numbers? permitted = step.numbers? permitted := by
  cases step <;> rfl

namespace Session

namespace Act

def renumbered (renumber : Int → Int) : Act → Act
  | common step => common (step.renumbered renumber)
  | inMemory step => inMemory step

theorem renumbered_id (act : Act) : act.renumbered id = act := by
  cases act with
  | common step => cases step <;> rfl
  | inMemory step => rfl

theorem numbers?_renumbered (act : Act) (renumber : Int → Int) (permitted : Bool) :
    (act.renumbered renumber).numbers? permitted = act.numbers? permitted := by
  cases act with
  | common step => exact step.numbers?_renumbered renumber permitted
  | inMemory step => rfl

theorem isForTests_renumbered (act : Act) (renumber : Int → Int) :
    (act.renumbered renumber).isForTests = act.isForTests := by
  cases act with
  | common step => cases step <;> rfl
  | inMemory step => rfl

end Act

/-- Sessions of one kind that show views which resemble each other, with events still to come
numbered at a fixed distance. -/
structure LooksLike (renumber : Int → Int) (left right : Session) : Prop where
  kind : left.isMemory = right.isMemory
  mono : StrictMono renumber
  apart {handle : Int} : right.next ≤ handle → renumber handle = handle + (left.next - right.next)
  views : ∃ view other, left.Shows view ∧ right.Shows other ∧ view.Resembles renumber other

theorem Shows.storedRemaps {session : Session} {view : View} (shown : session.Shows view)
    (date : Date) :
    Gives Session.Shows (session.run (.storedRemaps date))
      (.remaps (view.storedRemaps date), view) :=
  shown.run fun shown => (Engine.storedRemaps_gives date shown).of _

theorem taken_nonneg (session : Session) (date : Date) : 0 ≤ session.taken date := by
  have inTables : 0 ≤ Numbered.taken TableStore date := Numbered.taken_nonneg date
  cases session with
  | memory state => exact Int.one_nonneg
  | tables inFile state => exact inTables

namespace LooksLike

variable {renumber : Int → Int} {left right : Session}

theorem run {act : Act} (looksLike : LooksLike renumber left right)
    (used : act.isForTests = false) :
    LooksLike renumber ((act.renumbered renumber).run left).2 (act.run right).2 := by
  obtain ⟨kind, mono, apart, view, other, shown, shownToo, resembles⟩ := looksLike
  obtain ⟨after, moved⟩ := shown.act_numbered ((act.isForTests_renumbered renumber).trans used)
  obtain ⟨afterToo, movedToo⟩ := shownToo.act_numbered used
  rw [Act.numbers?_renumbered, resembles.permitted, taken_eq kind] at moved
  have next : renumber right.next = left.next := by
    rw [apart le_rfl]
    ring
  have nonneg : 0 ≤ (act.numbers? other.permitted).elim 0 right.taken := by
    cases act.numbers? other.permitted with
    | none => exact le_rfl
    | some date => exact right.taken_nonneg date
  refine ⟨by rw [Act.isMemory_run, Act.isMemory_run, kind], mono, fun {handle} above => ?_,
    _, _, after, afterToo, ?_⟩
  · rw [movedToo] at above
    rw [apart (by omega), moved, movedToo]
    ring
  · rw [kind, ← next]
    cases act with
    | common step => exact resembles.after mono.injective right.next step
    | inMemory step =>
      unfold Act.renumbered View.afterAct
      dsimp only
      split_ifs
      · exact resembles.afterInMemory step
      · exact resembles

/-- By induction on the acts. -/
theorem runActs {acts : List Act} (looksLike : LooksLike renumber left right)
    (used : ∀ act ∈ acts, act.isForTests = false) :
    LooksLike renumber (left.runActs (acts.map (Act.renumbered renumber)))
      (right.runActs acts) := by
  induction acts generalizing left right with
  | nil => exact looksLike
  | cons act acts ih =>
    obtain ⟨first, rest⟩ := List.forall_mem_cons.mp used
    exact ih (looksLike.run first) rest

theorem effective (looksLike : LooksLike renumber left right) (date : Date) :
    (left.run (.effective date)).1 = (right.run (.effective date)).1 := by
  obtain ⟨-, -, -, view, other, shown, shownToo, resembles⟩ := looksLike
  rw [(shown.effective date).1, (shownToo.effective date).1, resembles.effectiveSchedule]

theorem storedRemaps (looksLike : LooksLike renumber left right) (date : Date) :
    (left.run (.storedRemaps date)).1 = (right.run (.storedRemaps date)).1 := by
  obtain ⟨-, -, -, view, other, shown, shownToo, resembles⟩ := looksLike
  rw [(shown.storedRemaps date).1, (shownToo.storedRemaps date).1, resembles.storedRemaps]

end LooksLike

end Session

end SchoolWeek
