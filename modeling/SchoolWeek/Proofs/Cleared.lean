import Mathlib
import SchoolWeek.Proofs.StepContract

/-! What is left of a view without the record and the markers of a date. Making, unmaking
and reading the special schedule of the date changes nothing but these two, so no history of
such steps leaves a trace in what is left. -/
namespace SchoolWeek

/-- The step makes, unmakes or reads the special schedule of the date, or only reads. -/
def Step.Schedules (date : Date) : Step → Prop
  | replace other _ _ | clear other | createMarker other _ | applyOn other _ _ _ | apply other _ _
  | remove other | effective other | effectiveSorted other | remapsFor other => other = date
  | entries | fetch _ | rows _ | storedRemaps _ | record _ | specialDates _ _ | events _
  | findMarker _ | normal _ | merge _ => True
  | replaceEntries _ | addEvent _ _ | deleteMarker _ | http _ | takeCalls | setFault _ => False

instance (date : Date) : DecidablePred (Step.Schedules date)
  | .replace other _ _ | .clear other | .createMarker other _ | .applyOn other _ _ _
  | .apply other _ _ | .remove other | .effective other | .effectiveSorted other
  | .remapsFor other => inferInstanceAs (Decidable (other = date))
  | .entries | .fetch _ | .rows _ | .storedRemaps _ | .record _ | .specialDates _ _ | .events _
  | .findMarker _ | .normal _ | .merge _ => inferInstanceAs (Decidable True)
  | .replaceEntries _ | .addEvent _ _ | .deleteMarker _ | .http _ | .takeCalls
  | .setFault _ => inferInstanceAs (Decidable False)

theorem Step.Schedules.ne_setFault {date : Date} {step : Step} (schedules : step.Schedules date)
    (fault : Fault) : step ≠ .setFault fault := by
  rintro rfl
  exact schedules

namespace View

variable {view : View} {date : Date}

/-- The view without the record and the markers of the date. -/
def cleared (view : View) (date : Date) : View := (view.withRecord date none).withoutMarkers date

@[simp]
theorem withRecord_withRecord (view : View) (date : Date) (first? second? : Option Record) :
    (view.withRecord date first?).withRecord date second? = view.withRecord date second? := by
  unfold withRecord
  congr 1
  funext other
  dsimp only
  split_ifs <;> rfl

@[simp]
theorem cleared_withRecord (view : View) (date : Date) (record? : Option Record) :
    (view.withRecord date record?).cleared date = view.cleared date := by
  rw [cleared, withRecord_withRecord, cleared]

theorem withRecord_eq_self {record? : Option Record} (same : view.recordOn date = record?) :
    view.withRecord date record? = view := by
  subst same
  have records : (fun other => if other = date then view.recordOn date else view.recordOn other) =
      view.recordOn := by
    funext other
    split_ifs with here
    · rw [here]
    · rfl
  rw [withRecord, records]

theorem withoutMarkers_eq_self (unmarked : view.markersOn date = []) :
    view.withoutMarkers date = view := by
  have kept : view.events.filter (!view.isMarkerOn date ·) = view.events :=
    List.filter_eq_self.mpr fun event member => by
      simpa using List.filter_eq_nil_iff.mp unmarked event member
  rw [withoutMarkers, kept]

theorem cleared_eq_self (missing : view.recordOn date = none)
    (unmarked : view.markersOn date = []) : view.cleared date = view := by
  rw [cleared, withRecord_eq_self missing, withoutMarkers_eq_self unmarked]

/-- Events that are markers of the date leave no trace. -/
theorem cleared_of_events {events : List Event}
    (same : events.filter (!view.isMarkerOn date ·) =
      view.events.filter (!view.isMarkerOn date ·)) :
    cleared { view with events } date = view.cleared date :=
  congrArg (fun others => { view.withRecord date none with events := others }) same

theorem cleared_marked {event : Event} (isMarker : view.isMarkerOn date event = true) :
    (view.marked date event).cleared date = view.cleared date := by
  have ordinary : (view.events.filter (!view.isMarkerOn date ·) ++ [event]).filter
      (!view.isMarkerOn date ·) = view.events.filter (!view.isMarkerOn date ·) := by
    simp [isMarker]
  exact cleared_of_events ordinary

theorem cleared_createMarker (view : View) (handle : Int) (date : Date) (patternName : String) :
    (view.createMarker handle date patternName).2.cleared date = view.cleared date := by
  rw [createMarker_eq]
  split_ifs
  · cases made : Event.fullDay handle date (Marker.title view.lead patternName) with
    | error error => rfl
    | ok event => exact cleared_marked (isMarkerOn_of_fullDay made)
  · rfl

theorem cleared_applyOn (view : View) (handle : Int) (date : Date) (patternName : String)
    (day : Weekday) (custom? : Option String) :
    (view.applyOn handle date patternName day custom?).2.cleared date = view.cleared date := by
  have created := view.cleared_createMarker handle date (markerText patternName custom?)
  unfold applyOn
  dsimp only
  split <;> rename_i ran <;> rw [ran] at created
  · exact created
  · exact (cleared_withRecord _ _ _).trans created

/-- A look may write the record, and nothing else. -/
theorem cleared_remapsFor (view : View) (date : Date) :
    (view.remapsFor date).2.cleared date = view.cleared date := by
  unfold remapsFor
  split
  · exact cleared_withRecord _ _ _
  · rfl

/-- As handles are distinct, nothing but the marker goes with its handle. -/
theorem cleared_withoutHandle (valid : view.Valid) {event : Event}
    (isMarker : event ∈ view.markersOn date) :
    (view.withoutHandle event.handle).cleared date = view.cleared date := by
  obtain ⟨stored, marks⟩ := List.mem_filter.mp isMarker
  refine cleared_of_events ?_
  rw [List.filter_filter]
  refine List.filter_congr fun other member => ?_
  by_cases same : other.handle = event.handle
  · obtain rfl := List.inj_on_of_nodup_map valid.distinct member stored same
    simp [marks]
  · simp [same]

theorem cleared_withoutFirstMarkers (valid : view.Valid) (date : Date) (count : Nat) :
    (view.withoutFirstMarkers date count).cleared date = view.cleared date := by
  induction count generalizing view with
  | zero => rfl
  | succ count ih =>
    rw [withoutFirstMarkers]
    cases first : (view.markersOn date).head? with
    | none => rfl
    | some event =>
      exact (ih (valid.of_sublist List.filter_sublist)).trans
        (cleared_withoutHandle valid (List.mem_of_mem_head? first))

theorem cleared_remove (valid : view.Valid) (date : Date) :
    (view.remove date).2.cleared date = view.cleared date := by
  have unrecorded : (view.withRecord date none).Valid := valid.of_sublist (List.Sublist.refl _)
  exact (cleared_withoutFirstMarkers unrecorded date _).trans (cleared_withRecord _ _ _)

/-- A removal that finds few enough markers leaves nothing special. -/
theorem remove_eq_cleared (valid : view.Valid)
    (few : (view.markersOn date).length ≤ view.deletions) :
    (view.remove date).2 = view.cleared date := by
  have unrecorded : (view.withRecord date none).Valid := valid.of_sublist (List.Sublist.refl _)
  have missing : (view.remove date).2.recordOn date = none := by
    rw [remove, withoutFirstMarkers_recordOn, withRecord_recordOn_self]
  have unmarked : (view.remove date).2.markersOn date = [] := by
    rw [remove, markersOn_withoutFirstMarkers unrecorded, withRecord_markersOn,
      List.drop_eq_nil_of_le few]
  rw [← cleared_eq_self missing unmarked, cleared_remove valid]

/-- One case for each kind of step. -/
theorem cleared_after (valid : view.Valid) {step : Step} (schedules : step.Schedules date)
    (handle : Int) : (view.after handle step).cleared date = view.cleared date := by
  cases step with
  | replace other _ _ | clear other =>
    obtain rfl : other = date := schedules
    exact cleared_withRecord _ _ _
  | createMarker other patternName =>
    obtain rfl : other = date := schedules
    exact cleared_createMarker _ _ _ _
  | applyOn other _ _ _ | apply other _ _ =>
    obtain rfl : other = date := schedules
    exact cleared_applyOn _ _ _ _ _ _
  | remove other =>
    obtain rfl : other = date := schedules
    exact cleared_remove valid other
  | effective other | effectiveSorted other | remapsFor other =>
    obtain rfl : other = date := schedules
    exact cleared_remapsFor _ _
  | entries | fetch _ | rows _ | storedRemaps _ | record _ | specialDates _ _ | events _
  | findMarker _ | normal _ | merge _ => rfl
  | replaceEntries _ | addEvent _ _ | deleteMarker _ | http _ | takeCalls | setFault _ =>
    exact schedules.elim

end View

/-- By induction on the steps: none of them leaves a trace but in the record, the markers and
the numbering. -/
theorem Session.Shows.runAll_cleared {session : Session} {view : View} {date : Date}
    {steps : List Step} (shown : session.Shows view)
    (schedule : ∀ step ∈ steps, step.Schedules date) :
    ∃ after, (session.runAll steps).Shows after ∧ after.cleared date = view.cleared date ∧
      session.next ≤ (session.runAll steps).next := by
  induction steps generalizing session view with
  | nil => exact ⟨view, shown, rfl, le_rfl⟩
  | cons step steps ih =>
    obtain ⟨schedules, rest⟩ := List.forall_mem_cons.mp schedule
    obtain ⟨between, -⟩ := shown.run_numbered step schedules.ne_setFault
    obtain ⟨after, shows, same, later⟩ := ih between rest
    exact ⟨after, shows, same.trans (View.cleared_after shown.valid schedules _),
      (shown.next_le_run (.common step)).trans later⟩

end SchoolWeek
