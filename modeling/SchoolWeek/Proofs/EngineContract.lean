import Mathlib
import SchoolWeek.Proofs.Contract

/-! What the engine does over a backend that keeps its contract, said of views alone:
which remaps and which classes it finds on a date, and what applying and removing a
special schedule make of the view. -/
namespace SchoolWeek

namespace View

def normalSchedule (view : View) (date : Date) : List Slot :=
  (view.classesOn date.weekday).map Slot.ofEntry

def storedRemaps (view : View) (date : Date) : List Remap := Remap.regroup (view.rowsOn date)

/-- The classes copied by each remap in turn. -/
def merge (view : View) (remaps : List Remap) : List Slot :=
  remaps.flatMap fun remap => Engine.copies remap (view.classesOn remap.source)

/-- The first marker of a date; none where markers may not be seen. -/
def marker? (view : View) (date : Date) : Option Marker :=
  if view.permitted then Marker.detect? view.lead (view.eventsOn date) else none

/-- What a marker asks for on a date, and the view in which that is recorded. -/
def materialize (view : View) (date : Date) (marker : Marker) : List Remap × View :=
  let remaps := Plan.ofPatternName marker.patternName.toList date.weekday
  (remaps, view.withRecord date
    (some ⟨date, marker.patternName, Remap.flatten remaps marker.patternName⟩))

/-- The remaps in force: those of the record if there is one, else those of a marker. -/
def remapsFor (view : View) (date : Date) : List Remap × View :=
  match view.recordOn date, view.marker? date with
  | none, some marker => view.materialize date marker
  | _, _ => (view.storedRemaps date, view)

/-- The classes held on a date, given the remaps in force. -/
def scheduleUnder (view : View) (date : Date) (remaps : List Remap) : List Slot :=
  if remaps.isEmpty then view.normalSchedule date else view.merge remaps

def effectiveSchedule (view : View) (date : Date) : List Slot × View :=
  let (remaps, after) := view.remapsFor date
  (after.scheduleUnder date remaps, after)

/-- The view without the first markers of a date. -/
def withoutFirstMarkers (date : Date) : Nat → View → View
  | 0, view => view
  | count + 1, view =>
    match (view.markersOn date).head? with
    | none => view
    | some event => withoutFirstMarkers date count (view.withoutHandle event.handle)

/-- How many markers a removal deletes at most. -/
def deletions (view : View) : Nat := if view.permitted then Engine.markerDeletions else 0

def remove (view : View) (date : Date) : Except ApplyError Bool × View :=
  (.ok ((view.marker? date).isSome || (view.recordOn date).isSome),
    (view.withRecord date none).withoutFirstMarkers date view.deletions)

/-- The text that becomes the name in the marker. -/
def markerText (patternName : String) (custom? : Option String) : String :=
  ((Plan.effectiveCustom? custom?).map String.ofList).getD patternName

def applyOn (view : View) (handle : Int) (date : Date) (patternName : String) (day : Weekday)
    (custom? : Option String) : Except ApplyError Bool × View :=
  let remaps := Plan.preview patternName day custom?
  match view.createMarker handle date (markerText patternName custom?) with
  | (.error error, view) => (.error (.calendar error), view)
  | (.ok _, view) => (.ok (!remaps.isEmpty),
    view.withRecord date (some ⟨date, patternName, Remap.flatten remaps patternName⟩))

theorem findMarker_permitted {view : View} (permitted : view.permitted = true) (date : Date) :
    view.findMarker date = .ok (view.marker? date) := by
  rw [findMarker, marker?, if_pos permitted, if_pos permitted]

theorem findMarker_denied {view : View} (denied : ¬ view.permitted = true) (date : Date) :
    view.findMarker date = .error .permissionDenied ∧ view.marker? date = none := by
  rw [findMarker, marker?, if_neg denied, if_neg denied]
  exact ⟨rfl, rfl⟩

theorem permitted_of_marker? {view : View} {date : Date} {marker : Marker}
    (found : view.marker? date = some marker) : view.permitted = true := by
  by_contra denied
  rw [(findMarker_denied denied date).2] at found
  cases found

theorem marker?_eq {view : View} (permitted : view.permitted = true) (date : Date) :
    view.marker? date = (view.markersOn date).head?.map fun event =>
      ⟨Marker.patternNameOf view.lead event.title, event.handle⟩ := by
  rw [marker?, if_pos permitted, detect?_eventsOn]

theorem marker?_eq_none_iff {view : View} (permitted : view.permitted = true) (date : Date) :
    view.marker? date = none ↔ view.markersOn date = [] := by
  rw [marker?_eq permitted, Option.map_eq_none_iff, List.head?_eq_none_iff]

theorem storedRemaps_eq_nil {view : View} {date : Date} (missing : view.recordOn date = none) :
    view.storedRemaps date = [] := by
  rw [storedRemaps, rowsOn, missing]
  rfl

theorem remapsFor_recorded {view : View} {date : Date} {record : Record}
    (recorded : view.recordOn date = some record) :
    view.remapsFor date = (Remap.regroup record.rows, view) := by
  rw [remapsFor, recorded, storedRemaps, rowsOn, recorded]
  rfl

theorem remapsFor_unmarked {view : View} {date : Date} (missing : view.recordOn date = none)
    (unmarked : view.marker? date = none) : view.remapsFor date = ([], view) := by
  rw [remapsFor, missing, unmarked, storedRemaps_eq_nil missing]

end View

namespace Engine

variable {σ : Type} [Backend σ] [Backend.Lawful σ] {state : σ} {view : View}

open Backend.Lawful (Shows)

theorem classesOn_gives (day : Weekday) (shown : Shows state view) :
    Gives Shows (classesOn day state) (view.classesOn day, view) := by
  obtain ⟨after, ran, shown⟩ := (Backend.Lawful.fetch day shown).ran
  rw [classesOn, ran]
  exact ⟨rfl, shown⟩

theorem normalSchedule_gives (date : Date) (shown : Shows state view) :
    Gives Shows (normalSchedule date state) (view.normalSchedule date, view) := by
  obtain ⟨after, ran, shown⟩ := (classesOn_gives date.weekday shown).ran
  rw [normalSchedule, ran]
  exact ⟨rfl, shown⟩

theorem storedRemaps_gives (date : Date) (shown : Shows state view) :
    Gives Shows (Backend.storedRemaps date state) (.ok (view.storedRemaps date), view) := by
  obtain ⟨after, ran, shown⟩ := (Backend.Lawful.rows date shown).ran
  rw [Backend.storedRemaps, ran]
  exact ⟨rfl, shown⟩

theorem remapsFromMarker_gives (date : Date) (shown : Shows state view)
    (missing : view.recordOn date = none) :
    Gives Shows (remapsFromMarker date state) (view.remapsFor date) := by
  obtain ⟨after, ran, shown⟩ := (Backend.Lawful.findMarker date shown).ran
  rw [remapsFromMarker, ran, View.remapsFor, missing]
  by_cases permitted : view.permitted = true
  · rw [View.findMarker_permitted permitted]
    cases view.marker? date with
    | none => exact ⟨(View.storedRemaps_eq_nil missing).symm, shown⟩
    | some marker => exact ⟨rfl, (Backend.Lawful.replace date _ _ shown).2⟩
  · obtain ⟨denied, unseen⟩ := View.findMarker_denied permitted date
    rw [denied, unseen]
    exact ⟨(View.storedRemaps_eq_nil missing).symm, shown⟩

theorem remapsFor_gives (date : Date) (shown : Shows state view) :
    Gives Shows (remapsFor date state) (view.remapsFor date) := by
  obtain ⟨after, ran, shown⟩ := (storedRemaps_gives date shown).ran
  obtain ⟨last, asked, shownLast⟩ := (Backend.Lawful.record date shown).ran
  rw [remapsFor, ran]
  cases recorded : view.recordOn date with
  | none =>
    rw [View.storedRemaps_eq_nil recorded]
    dsimp only
    rw [asked, recorded]
    exact remapsFromMarker_gives date shownLast recorded
  | some record =>
    have decided : view.remapsFor date = (view.storedRemaps date, view) := by
      rw [View.remapsFor, recorded]
    rw [decided]
    cases view.storedRemaps date with
    | cons remap remaps => exact ⟨rfl, shown⟩
    | nil =>
      dsimp only
      rw [asked, recorded]
      exact ⟨rfl, shownLast⟩

omit [Backend.Lawful σ] in
/-- Where the classes of every day can be read, and read again, merging copies them for each
remap in turn. By recursion on the remaps: what is known of a day is what is read of it. -/
theorem mergeKnowing_eq {holds : σ → Prop} {classes : Weekday → List Entry}
    (reads : ∀ {state : σ} (day : Weekday), holds state →
      (classesOn day state).1 = classes day ∧ holds (classesOn day state).2)
    (known : List (Weekday × List Entry)) (remaps : List Remap) (before : holds state)
    (right : ∀ day entries, known.lookup day = some entries → entries = classes day) :
    (mergeKnowing known remaps state).1 =
        remaps.flatMap (fun remap => copies remap (classes remap.source)) ∧
      holds (mergeKnowing known remaps state).2 := by
  induction remaps generalizing known state with
  | nil => exact ⟨rfl, before⟩
  | cons remap remaps ih =>
    rw [List.flatMap_cons, mergeKnowing]
    cases looked : known.lookup remap.source with
    | some entries =>
      obtain ⟨merged, after⟩ := ih known before right
      refine ⟨?_, after⟩
      show copies remap entries ++ (mergeKnowing known remaps state).1 = _
      rw [merged, right _ _ looked]
    | none =>
      obtain ⟨read, between⟩ := reads remap.source before
      have stillRight : ∀ day entries,
          ((remap.source, (classesOn remap.source state).1) :: known).lookup day = some entries →
            entries = classes day := by
        intro day entries found
        rw [List.lookup_cons, read] at found
        by_cases same : day = remap.source
        · subst same
          simpa using found.symm
        · have different : (day == remap.source) = false := by simpa using same
          rw [different] at found
          exact right day entries found
      obtain ⟨merged, after⟩ := ih _ between stillRight
      refine ⟨?_, after⟩
      show copies remap (classesOn remap.source state).1 ++ (mergeKnowing _ remaps _).1 = _
      rw [merged, read]

theorem mergeKnowing_gives (known : List (Weekday × List Entry)) (remaps : List Remap)
    (shown : Shows state view)
    (right : ∀ day entries, known.lookup day = some entries → entries = view.classesOn day) :
    Gives Shows (mergeKnowing known remaps state) (view.merge remaps, view) :=
  mergeKnowing_eq (fun day shown => classesOn_gives day shown) known remaps shown right

theorem merge_gives (remaps : List Remap) (shown : Shows state view) :
    Gives Shows (merge remaps state) (view.merge remaps, view) :=
  mergeKnowing_gives [] remaps shown fun _ _ found => nomatch found

theorem effectiveSchedule_gives (date : Date) (shown : Shows state view) :
    Gives Shows (effectiveSchedule date state) (view.effectiveSchedule date) := by
  have found := remapsFor_gives date shown
  rw [View.effectiveSchedule]
  generalize view.remapsFor date = decided at found ⊢
  obtain ⟨remaps, decided⟩ := decided
  obtain ⟨after, ran, shown⟩ := found.ran
  rw [effectiveSchedule, ran]
  cases remaps with
  | nil => exact normalSchedule_gives date shown
  | cons remap remaps => exact merge_gives (remap :: remaps) shown

/-- By recursion on the attempts: each one deletes the marker that is then the first. -/
theorem removeMarkers_gives (date : Date) (attempts : Nat) (removed : Bool)
    (shown : Shows state view) (permitted : view.permitted = true) :
    Gives Shows (removeMarkers date attempts removed state)
      (.ok (removed || (0 < attempts && (view.marker? date).isSome)),
        view.withoutFirstMarkers date attempts) := by
  induction attempts generalizing removed state view with
  | zero => exact ⟨by simp [removeMarkers], shown⟩
  | succ attempts ih =>
    obtain ⟨after, ran, shown⟩ := (Backend.Lawful.findMarker date shown).ran
    rw [removeMarkers, ran, View.findMarker_permitted permitted, View.marker?_eq permitted,
      View.withoutFirstMarkers]
    cases first : (view.markersOn date).head? with
    | none => exact ⟨by simp, shown⟩
    | some event =>
      have present : event.handle ∈ view.handles :=
        List.mem_map_of_mem (View.mem_markersOn.mp (List.mem_of_mem_head? first)).1
      have deleted := Backend.Lawful.deleteMarker event.handle shown
      rw [View.deleteMarker, if_pos permitted, if_pos present] at deleted
      obtain ⟨last, gone, shown⟩ := deleted.ran
      dsimp only [Option.map_some]
      rw [gone]
      obtain ⟨value, leaves⟩ := ih true shown permitted
      exact ⟨by rw [value]; simp, leaves⟩

/-- Without access the first look at the calendar ends the removal. -/
theorem removeMarkers_denied (date : Date) (attempts : Nat) (removed : Bool)
    (shown : Shows state view) (denied : ¬ view.permitted = true) :
    Gives Shows (removeMarkers date attempts removed state) (.ok removed, view) := by
  cases attempts with
  | zero => exact ⟨rfl, shown⟩
  | succ attempts =>
    obtain ⟨after, ran, shown⟩ := (Backend.Lawful.findMarker date shown).ran
    rw [removeMarkers, ran, (View.findMarker_denied denied date).1]
    exact ⟨rfl, shown⟩

theorem remove_gives (date : Date) (shown : Shows state view) :
    Gives Shows (remove date state) (view.remove date) := by
  obtain ⟨after, ran, shown⟩ := (Backend.Lawful.clear date shown).ran
  rw [remove, ran, View.remove, View.deletions]
  dsimp only
  by_cases permitted : view.permitted = true
  · obtain ⟨last, removed, shown⟩ :=
      (removeMarkers_gives date markerDeletions false shown permitted).ran
    have sameMarker : (view.withRecord date none).marker? date = view.marker? date := rfl
    rw [removed, if_pos permitted, sameMarker]
    exact ⟨by simp [markerDeletions], shown⟩
  · obtain ⟨last, removed, shown⟩ :=
      (removeMarkers_denied date markerDeletions false shown permitted).ran
    rw [removed, if_neg permitted, (View.findMarker_denied permitted date).2]
    exact ⟨by simp, shown⟩

theorem applyOn_gives (date : Date) (patternName : String) (day : Weekday)
    (custom? : Option String) (shown : Shows state view) :
    ∃ handle, handle ∉ view.handles ∧
      Gives Shows (applyOn date patternName day custom? state)
        (view.applyOn handle date patternName day custom?) := by
  obtain ⟨handle, fresh, created⟩ :=
    Backend.Lawful.createMarker date (View.markerText patternName custom?) shown
  refine ⟨handle, fresh, ?_⟩
  rw [applyOn, View.applyOn, ← View.markerText]
  generalize view.createMarker handle date (View.markerText patternName custom?) = expected
    at created ⊢
  obtain ⟨result, marked⟩ := expected
  obtain ⟨after, ran, shown⟩ := created.ran
  rw [ran]
  cases result with
  | error error => exact ⟨rfl, shown⟩
  | ok handle =>
    obtain ⟨last, replaced, shown⟩ := (Backend.Lawful.replace date
      (Plan.preview patternName day custom?) patternName shown).ran
    dsimp only
    rw [replaced]
    exact ⟨rfl, shown⟩

end Engine
end SchoolWeek
