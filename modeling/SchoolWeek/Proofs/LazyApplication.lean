import Mathlib
import SchoolWeek.Proofs.Cleared
import SchoolWeek.Proofs.Recovery
import SchoolWeek.Proofs.Resemblance
import SchoolWeek.Proofs.SameAnswers

/-! A special schedule by way of the calendar. Whoever puts an event with the marker lead
on a date, and then looks at the schedule of the date, gets what applying the name in the
title would have given. The record alone tells the two apart: the name comes out of the
title without the white space around it, and is stored as given by an application. -/
namespace SchoolWeek

namespace Remap

theorem addRow_labelled (row : Row) (patternName : String) (remaps : List Remap) :
    addRow { row with patternName } remaps = addRow row remaps := by
  induction remaps with
  | nil => rfl
  | cons remap remaps ih =>
    rw [addRow, addRow, ih]

/-- What rows stand for does not depend on the name they were stored under. -/
theorem regroup_flatten (remaps : List Remap) (left right : String) :
    regroup (flatten remaps left) = regroup (flatten remaps right) := by
  have labelled : flatten remaps left =
      (flatten remaps right).map fun row => { row with patternName := left } := by
    rw [flatten, flatten, List.map_flatMap]
    refine List.flatMap_congr fun remap _ => ?_
    rw [rows, rows, List.map_map]
    rfl
  rw [labelled, regroup, List.foldl_map]
  simp only [addRow_labelled]
  rfl

end Remap

namespace View

variable {view : View} {date : Date}

/-- Where there is no marker to replace, a marker is an event like any other. -/
theorem addEvent_unmarked {handle : Int} {name : String} {event : Event}
    (unmarked : view.markersOn date = [])
    (made : Event.fullDay handle date (Marker.title view.lead name) = .ok event) :
    (view.addEvent handle date (view.lead ++ name)).2 = view.marked date event := by
  rw [addEvent, show Event.fullDay handle date (view.lead ++ name) = _ from made, marked,
    withoutMarkers_eq_self unmarked]

end View

namespace Session

/-- What a session without anything special on the date shows after a marker event was read
there, and after the application of the name: the same, but for the record. -/
theorem Shows.read_and_applied {session : Session} {view : View} (shown : session.Shows view)
    (permitted : view.permitted = true) {date : Date} (followed : date.next?.isSome)
    (unrecorded : view.recordOn date = none) (unmarked : view.markersOn date = []) (name : String) :
    let trimmed := String.ofList (Text.trim name.toList)
    let planned := Plan.ofPatternName name.toList date.weekday
    let read := session.runAll [.addEvent date (view.lead ++ name), .effective date]
    let applied := session.run (.apply date name none)
    ∃ marked : View,
      read.Shows (marked.withRecord date (some ⟨date, trimmed, Remap.flatten planned trimmed⟩)) ∧
      applied.2.Shows (marked.withRecord date (some ⟨date, name, Remap.flatten planned name⟩)) ∧
      applied.1 = .flag (!planned.isEmpty) ∧ read.next = applied.2.next := by
  intro trimmed planned read applied
  obtain ⟨event, made, answered, shownToo, movedToo⟩ :=
    shown.applies permitted followed name date.weekday none
  rw [View.markerText_plain rfl] at made
  have found : (view.marked date event).marker? date = some ⟨trimmed, event.handle⟩ := by
    have finds := View.findMarker_marked permitted made
    rw [View.findMarker_permitted (show (view.marked date event).permitted = true from permitted)]
      at finds
    exact Except.ok.inj finds
  have materialized : ((view.marked date event).remapsFor date).2 =
      (view.marked date event).withRecord date
        (some ⟨date, trimmed, Remap.flatten planned trimmed⟩) := by
    have plan : Plan.ofPatternName trimmed.toList date.weekday = planned := by
      rw [String.toList_ofList, Plan.ofPatternName_trim]
    have missing : (view.marked date event).recordOn date = none := unrecorded
    rw [View.remapsFor, missing, found]
    show ((view.marked date event).materialize date ⟨trimmed, _⟩).2 = _
    rw [View.materialize, plan]
  obtain ⟨added, moved⟩ :=
    shown.run_numbered (.addEvent date (view.lead ++ name)) (Act.ne_setFault rfl)
  obtain ⟨looked, still⟩ := added.run_numbered (.effective date) (Act.ne_setFault rfl)
  dsimp only [View.after] at added looked
  rw [View.addEvent_unmarked unmarked made, materialized] at looked
  refine ⟨view.marked date event, looked, shownToo, answered, ?_⟩
  refine still.trans (Eq.trans ?_ movedToo.symm)
  rw [moved, Step.numbers?, Option.elim_some, taken_of_followed _ followed]
  exact add_zero _

/-- Adding a marker event for a name and reading the schedule of its date leaves the same
stored remaps as applying the name, and the same schedule whatever is done afterwards. -/
theorem reading_applies {session : Session} (reachable : session.Reachable)
    (calm : session.faults = []) (permitted : session.permitted = true) {date : Date}
    (notLast : date ≠ Date.last) (unrecorded : (session.run (.record date)).1 = .record none)
    (unmarked : session.markersOn date = []) (name : String) :
    let trimmed := String.ofList (Text.trim name.toList)
    let planned := Plan.ofPatternName name.toList date.weekday
    let read := session.runAll [.addEvent date (session.lead ++ name), .effective date]
    let applied := (session.run (.apply date name none)).2
    (session.run (.apply date name none)).1 = .flag (!planned.isEmpty) ∧
      (read.run (.record date)).1 = .record (some ⟨date, trimmed, Remap.flatten planned trimmed⟩) ∧
      (applied.run (.record date)).1 = .record (some ⟨date, name, Remap.flatten planned name⟩) ∧
      (read.run (.storedRemaps date)).1 = (applied.run (.storedRemaps date)).1 ∧
      ∀ acts : List Act, (∀ act ∈ acts, act.isForTests = false) →
        ((read.runActs acts).run (.effective date)).1 =
          ((applied.runActs acts).run (.effective date)).1 := by
  intro trimmed planned read applied
  obtain ⟨view, shown⟩ := reachable.shows calm
  have missing : view.recordOn date = none :=
    Outcome.record.inj ((shown.record date).1.symm.trans unrecorded)
  have empty : view.markersOn date = [] := (shown.markersOn date).symm.trans unmarked
  obtain ⟨marked, looked, appliedShows, answered, next⟩ := shown.read_and_applied
    (shown.permitted.trans permitted) (Date.next?_isSome_of_ne notLast) missing empty name
  rw [shown.lead] at looked next
  have same : View.decides (some ⟨date, trimmed, Remap.flatten planned trimmed⟩) =
      View.decides (some ⟨date, name, Remap.flatten planned name⟩) :=
    congrArg some (Remap.regroup_flatten planned trimmed name)
  have kind : read.isMemory = applied.isMemory :=
    (isMemory_runAll _ session).trans (session.isMemory_run _).symm
  have alike : LooksLike id read applied :=
    ⟨kind, strictMono_id, fun {handle} _ => by rw [next, sub_self, add_zero]; rfl, _, _, looked,
      appliedShows, (View.Resembles.of_agreeOn (.refl marked)).withRecord date same⟩
  refine ⟨answered, ?_, ?_, alike.storedRemaps date, fun acts used => ?_⟩
  · rw [(looked.record date).1, View.withRecord_recordOn_self]
  · rw [(appliedShows.record date).1, View.withRecord_recordOn_self]
  · have later := (alike.runActs used).effective date
    rwa [List.map_id'' Act.renumbered_id] at later

/-- A session with an ordinary event on the date. -/
def gathering : Session := emptyTables.runAll [.addEvent monday "会議"]

/-- The ordinary event goes, and the record, which leaves the marker to be read again. -/
def tidying : List Act :=
  [.common (.deleteMarker 1), .common (.clear monday), .common (.specialDates monday monday)]

theorem reading_applies_gathering :
    gathering.Reachable ∧ gathering.faults = [] ∧ gathering.permitted = true ∧
      monday ≠ Date.last ∧ (gathering.run (.record monday)).1 = .record none ∧
      gathering.markersOn monday = [] ∧
      (gathering.run (.apply monday " 月1→火1 " none)).1 = .flag true ∧
      (∀ act ∈ tidying, act.isForTests = false) ∧
      (((gathering.runAll [.addEvent monday (gathering.lead ++ " 月1→火1 "),
        .effective monday]).runActs tidying).run (.effective monday)).1 =
          (((gathering.run (.apply monday " 月1→火1 " none)).2.runActs tidying).run
            (.effective monday)).1 := by
  have reachable : gathering.Reachable := reachable_emptyTables.runAll _
  have notLast : monday ≠ Date.last := by decide
  have unrecorded : (gathering.run (.record monday)).1 = .record none := by rfl
  have unmarked : gathering.markersOn monday = [] := by rfl
  have used : ∀ act ∈ tidying, act.isForTests = false := by decide
  obtain ⟨answered, -, -, -, later⟩ :=
    reading_applies reachable rfl rfl notLast unrecorded unmarked " 月1→火1 "
  exact ⟨reachable, rfl, rfl, notLast, unrecorded, unmarked, answered, used, later tidying used⟩

end Session

end SchoolWeek
