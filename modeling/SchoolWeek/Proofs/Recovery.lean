import Mathlib
import SchoolWeek.Proofs.Application
import SchoolWeek.Proofs.BlankEdges
import SchoolWeek.Proofs.Rebuilding

/-! An application whose record cannot be stored leaves its marker behind. On a date
without a record the next look makes up for the record, from the marker. On a date that
has a record the older one stays in force, and the marker is never looked at. -/
namespace SchoolWeek

namespace View

theorem markerText_plain {custom? : Option String}
    (uncustomized : Plan.effectiveCustom? custom? = none) (patternName : String) :
    markerText patternName custom? = patternName := by
  rw [markerText, uncustomized]
  rfl

end View

namespace Traced.Shows

variable {σ : Type} [Backend σ] [Backend.Lawful σ] {traced : Traced σ} {view : View} {fault : Fault}

/-- A fault laid on another operation does not keep a marker from the backend. -/
theorem createMarker_past (shown : traced.Shows view) (elsewhere : fault.call ≠ .createMarker)
    (date : Date) (patternName : String) :
    ∃ handle, (Backend.createMarker date patternName (traced.setFault fault)).1 =
      (view.createMarker handle date patternName).1 := by
  obtain ⟨handle, _, made⟩ := Backend.Lawful.createMarker date patternName shown.2
  have free : (traced.setFault fault).faults.find? (·.call == .createMarker) = none := by
    rw [setFault, shown.1]
    split_ifs <;> simp [elsewhere]
  refine ⟨handle, (congrArg Prod.fst (noted_of_none _ free)).trans made.1⟩

/-- When it is the record that could not be stored, the marker had been created. -/
theorem marked_of_storeError (shown : traced.Shows view) (elsewhere : fault.call ≠ .createMarker)
    {date : Date} {patternName : String} {day : Weekday} {custom? : Option String}
    {error : StoreError}
    (failed : (Engine.applyOn date patternName day custom? (traced.setFault fault)).1 =
      .error (.store error)) :
    view.permitted = true ∧ date.next?.isSome := by
  obtain ⟨handle, same⟩ :=
    shown.createMarker_past elsewhere date (View.markerText patternName custom?)
  rw [Engine.applyOn, ← View.markerText] at failed
  cases creates : view.createMarker handle date (View.markerText patternName custom?) with
  | mk result created =>
    rw [creates] at same
    cases result with
    | error refusal =>
      split at failed
      · cases failed
      · rename_i ran
        rw [ran] at same
        cases same
    | ok value =>
      exact ⟨(View.createMarker_ok creates).1, View.followed_of_createMarker_ok creates⟩

end Traced.Shows

namespace Session

/-- What a session shows after an application whose record could not be stored, once the
fault is lifted: the new marker, and the records as they were. -/
theorem Shows.applyOn_interrupted {session : Session} {view : View} {fault : Fault} {date : Date}
    {patternName : String} {day : Weekday} {custom? : Option String} {error : StoreError}
    (shown : session.Shows view) (onReplace : fault.call = .replace) (strikes : fault.times ≠ 0)
    (failed : ((session.run (.setFault fault)).2.run (.applyOn date patternName day custom?)).1 =
      .applyError (.store error)) :
    ∃ left handle,
      left.marker? date =
        some ⟨String.ofList (Text.trim (View.markerText patternName custom?).toList), handle⟩ ∧
      left.recordOn = view.recordOn ∧
      (session.runAll [.setFault fault, .applyOn date patternName day custom?,
        .setFault { fault with times := 0 }]).Shows left := by
  have elsewhere : fault.call ≠ .createMarker := by
    rw [onReplace]
    decide
  have storing {result : Except ApplyError Bool}
      (failed : Outcome.ofApply result = .applyError (.store error)) :
      result = .error (.store error) := by
    cases result with
    | ok value => cases failed
    | error refusal => rw [Outcome.applyError.inj failed]
  cases session with
  | memory state =>
    obtain ⟨permitted, followed⟩ :=
      Traced.Shows.marked_of_storeError shown elsewhere (storing failed)
    exact Traced.Shows.applyOn_interrupted shown onReplace strikes permitted followed patternName
      day custom?
  | tables inFile state =>
    obtain ⟨permitted, followed⟩ :=
      Traced.Shows.marked_of_storeError shown elsewhere (storing failed)
    exact Traced.Shows.applyOn_interrupted shown onReplace strikes permitted followed patternName
      day custom?

/-- After an application without a custom text whose record could not be stored, the marker
bears the pattern name and the record of the date is the one from before. If there was
none, the next look at the date gives the plan of the pattern name and stores it under the
name in the marker. If there was one, it goes on deciding the date and stays. -/
theorem remapsFor_recovers {session : Session} {fault : Fault} {date : Date} {patternName : String}
    {day : Weekday} {custom? : Option String} {error : StoreError}
    (reachable : session.Reachable) (calm : session.faults = [])
    (uncustomized : Plan.effectiveCustom? custom? = none) (onReplace : fault.call = .replace)
    (strikes : fault.times ≠ 0)
    (failed : ((session.run (.setFault fault)).2.run (.applyOn date patternName day custom?)).1 =
      .applyError (.store error)) :
    let name := String.ofList (Text.trim patternName.toList)
    let planned := Plan.ofPatternName patternName.toList date.weekday
    let after := session.runAll [.setFault fault, .applyOn date patternName day custom?,
      .setFault { fault with times := 0 }]
    (∃ handle, (after.run (.findMarker date)).1 = .marker (some ⟨name, handle⟩)) ∧
      (after.run (.record date)).1 = (session.run (.record date)).1 ∧
      ((session.run (.record date)).1 = .record none →
        (after.run (.remapsFor date)).1 = .remaps planned ∧
        ((after.run (.remapsFor date)).2.run (.record date)).1 =
          .record (some ⟨date, name, Remap.flatten planned name⟩)) ∧
      ∀ older, (session.run (.record date)).1 = .record (some older) →
        (after.run (.remapsFor date)).1 = .remaps (Remap.regroup older.rows) ∧
        ((after.run (.remapsFor date)).2.run (.record date)).1 = .record (some older) := by
  intro name planned after
  obtain ⟨view, shown⟩ := reachable.shows calm
  obtain ⟨left, handle, marked, records, shows⟩ :=
    shown.applyOn_interrupted onReplace strikes failed
  rw [View.markerText_plain uncustomized] at marked
  have found : left.findMarker date = .ok (left.marker? date) :=
    View.findMarker_permitted (View.permitted_of_marker? marked) date
  have plan : Plan.ofPatternName name.toList date.weekday = planned := by
    rw [String.toList_ofList, Plan.ofPatternName_trim]
  refine ⟨⟨handle, ?_⟩, ?_, fun missing => ?_, fun older recorded => ?_⟩
  · rw [(shows.findMarker date).1, found, marked]
    rfl
  · rw [(shows.record date).1, (shown.record date).1, records]
  · have unrecorded : left.recordOn date = none := by
      rw [records]
      exact Outcome.record.inj ((shown.record date).1.symm.trans missing)
    have built : left.remapsFor date = left.materialize date ⟨name, handle⟩ := by
      rw [View.remapsFor, unrecorded, marked]
    rw [((shows.remapsFor date).2.record date).1, (shows.remapsFor date).1, built,
      View.materialize, plan, View.withRecord_recordOn_self]
    exact ⟨rfl, rfl⟩
  · have stored : left.recordOn date = some older := by
      rw [records]
      exact Outcome.record.inj ((shown.record date).1.symm.trans recorded)
    rw [((shows.remapsFor date).2.record date).1, (shows.remapsFor date).1,
      View.remapsFor_recorded stored, stored]
    exact ⟨rfl, rfl⟩

/-- A fault that keeps one record from being stored. -/
def fullDisk : Fault := ⟨.replace, 1, .io, "disk full"⟩

theorem remapsFor_recovers_shortened :
    Plan.effectiveCustom? none = none ∧ fullDisk.call = .replace ∧ fullDisk.times ≠ 0 ∧
      ((emptyMemory.run (.setFault fullDisk)).2.run (.applyOn monday "短縮B時程" .monday none)).1 =
        .applyError (.store (.io "disk full")) ∧
      ((emptyMemory.runAll [.setFault fullDisk, .applyOn monday "短縮B時程" .monday none,
        .setFault { fullDisk with times := 0 }]).run (.remapsFor monday)).1 =
          .remaps (Plan.ofPatternName "短縮B時程".toList monday.weekday) := by
  have strikes : fullDisk.times ≠ 0 := by decide
  have failed : ((emptyMemory.run (.setFault fullDisk)).2.run
      (.applyOn monday "短縮B時程" .monday none)).1 =
        .applyError (.store (.io "disk full")) := by rfl
  obtain ⟨_, _, recovers, _⟩ :=
    remapsFor_recovers reachable_emptyMemory rfl rfl rfl strikes failed
  exact ⟨rfl, rfl, strikes, failed, (recovers rfl).1⟩

/-- A session with an applied special schedule. -/
def shortened : Session := emptyMemory.runAll [.apply monday "短縮A時程" none]

/-- The plan of the older record stays in force, not that of the newer marker. -/
theorem shortened_not_replaced :
    shortened.Reachable ∧ shortened.faults = [] ∧
      ((shortened.run (.setFault fullDisk)).2.run (.apply monday "短縮B時程" none)).1 =
        .applyError (.store (.io "disk full")) ∧
      ((shortened.runAll [.setFault fullDisk, .apply monday "短縮B時程" none,
        .setFault { fullDisk with times := 0 }]).run (.remapsFor monday)).1 =
          .remaps (Plan.Template.shortA.remaps .monday) ∧
      Plan.Template.shortA.remaps .monday ≠ Plan.ofPatternName "短縮B時程".toList monday.weekday :=
  ⟨reachable_emptyMemory.runAll _, rfl, by rfl, by rfl, by decide⟩

end Session
end SchoolWeek
