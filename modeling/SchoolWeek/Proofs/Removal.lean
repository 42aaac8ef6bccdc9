import Mathlib
import SchoolWeek.Proofs.SessionContract

/-! Removing a special schedule. The record goes, and of the markers of the date the
first ones, as many as a removal deletes at most. Whether anything special is left of
the date depends on nothing but how many markers it had. -/
namespace SchoolWeek

namespace View

/-- As handles are distinct, the first marker is all that goes with its handle. -/
theorem markersOn_withoutHandle {view : View} (valid : view.Valid) {date : Date} {event : Event}
    {rest : List Event} (markers : view.markersOn date = event :: rest) :
    (view.withoutHandle event.handle).markersOn date = rest := by
  have distinct : ((event :: rest).map Event.handle).Nodup :=
    markers ▸ valid.distinct.sublist (List.filter_sublist.map Event.handle)
  have others : ∀ other ∈ rest, (other.handle != event.handle) = true := by
    intro other member
    have alone := (List.nodup_cons.mp distinct).1
    rw [bne_iff_ne]
    exact fun same => alone (same ▸ List.mem_map_of_mem member)
  have order : (view.withoutHandle event.handle).markersOn date =
      (view.markersOn date).filter (·.handle != event.handle) := by
    simp only [markersOn, withoutHandle, List.filter_filter, isMarkerOn, Bool.and_comm]
  rw [order, markers, List.filter_cons_of_neg (by simp)]
  exact List.filter_eq_self.mpr others

/-- By recursion on the count: each deletion takes the first of the markers left. -/
theorem markersOn_withoutFirstMarkers {view : View} (valid : view.Valid) (date : Date)
    (count : Nat) :
    (view.withoutFirstMarkers date count).markersOn date = (view.markersOn date).drop count := by
  induction count generalizing view with
  | zero => rfl
  | succ count ih =>
    rw [withoutFirstMarkers]
    cases markers : view.markersOn date with
    | nil => simpa using markers
    | cons event rest =>
      have fewer : (view.withoutHandle event.handle).Valid :=
        valid.of_sublist List.filter_sublist
      simp only [List.head?_cons, List.drop_succ_cons]
      rw [ih fewer, markersOn_withoutHandle valid markers]

/-- Nothing but events goes with the markers. -/
theorem withoutFirstMarkers_frame (view : View) (date : Date) (count : Nat) :
    ∃ events, view.withoutFirstMarkers date count = { view with events } := by
  induction count generalizing view with
  | zero => exact ⟨view.events, rfl⟩
  | succ count ih =>
    rw [withoutFirstMarkers]
    split
    · exact ⟨view.events, rfl⟩
    · rename_i event _
      obtain ⟨events, same⟩ := ih (view.withoutHandle event.handle)
      exact ⟨events, same⟩

theorem withoutFirstMarkers_recordOn (view : View) (date : Date) (count : Nat) :
    (view.withoutFirstMarkers date count).recordOn = view.recordOn := by
  obtain ⟨events, same⟩ := view.withoutFirstMarkers_frame date count
  rw [same]

theorem withoutFirstMarkers_permitted (view : View) (date : Date) (count : Nat) :
    (view.withoutFirstMarkers date count).permitted = view.permitted := by
  obtain ⟨events, same⟩ := view.withoutFirstMarkers_frame date count
  rw [same]

end View

namespace Session

/-- The markers that the calendar lists on a date, oldest first. -/
def markersOn (session : Session) (date : Date) : List Event :=
  match (session.run (.events date)).1 with
  | .events events => events.filter fun event => Marker.isTitle session.lead event.title
  | _ => []

/-- Nothing special is left of the date: no record, no marker, nothing to remap, the
classes of the normal week, and nothing that could be removed. -/
structure Ordinary (session : Session) (date : Date) : Prop where
  record : (session.run (.record date)).1 = .record none
  marker : (session.run (.findMarker date)).1 = .marker none
  remaps : (session.run (.remapsFor date)).1 = .remaps []
  schedule : (session.run (.effective date)).1 = (session.run (.normal date)).1
  again : (session.run (.remove date)).1 = .flag false

namespace Shows

variable {session : Session} {view : View}

theorem markersOn (shown : session.Shows view) (date : Date) :
    session.markersOn date = view.markersOn date := by
  rw [Session.markersOn, (shown.events date).1, ← shown.lead]
  simp only [View.markersOn, View.eventsOn, List.filter_filter]
  exact congrArg (List.filter · view.events) (funext fun event => Bool.and_comm _ _)

/-- Where markers may be seen, a date is ordinary if it has no record and no marker. -/
theorem ordinary_iff (shown : session.Shows view) (permitted : view.permitted = true)
    (date : Date) :
    session.Ordinary date ↔ view.recordOn date = none ∧ view.markersOn date = [] := by
  constructor
  · intro ordinary
    have missing : Outcome.record (view.recordOn date) = .record none :=
      (shown.record date).1.symm.trans ordinary.record
    have unmarked : Outcome.ofCalendar .marker (view.findMarker date) = .marker none :=
      (shown.findMarker date).1.symm.trans ordinary.marker
    rw [View.findMarker_permitted permitted] at unmarked
    exact ⟨Outcome.record.inj missing,
      (View.marker?_eq_none_iff permitted date).mp (Outcome.marker.inj unmarked)⟩
  · rintro ⟨missing, empty⟩
    have unmarked := (View.marker?_eq_none_iff permitted date).mpr empty
    have remaps := View.remapsFor_unmarked missing unmarked
    refine ⟨?_, ?_, ?_, ?_, ?_⟩
    · rw [(shown.record date).1, missing]
    · rw [(shown.findMarker date).1, View.findMarker_permitted permitted, unmarked]
      rfl
    · rw [(shown.remapsFor date).1, remaps]
    · rw [(shown.effective date).1, (shown.normal date).1, View.effectiveSchedule, remaps]
      rfl
    · rw [(shown.remove date).1, View.remove, unmarked, missing]
      rfl

end Shows

/-- Removing clears the record and deletes the first markers of the date, at most
`Engine.markerDeletions` of them. So the date is ordinary afterwards if and only if it
had no more markers than that. -/
theorem remove_leaves {session : Session} (reachable : session.Reachable)
    (calm : session.faults = []) (permitted : session.permitted = true) (date : Date) :
    ∃ removed after, session.run (.remove date) = (.flag removed, after) ∧
      (after.run (.record date)).1 = .record none ∧
      after.markersOn date = (session.markersOn date).drop Engine.markerDeletions ∧
      (after.Ordinary date ↔ (session.markersOn date).length ≤ Engine.markerDeletions) := by
  obtain ⟨view, shown⟩ := reachable.shows calm
  have granted : view.permitted = true := shown.permitted.trans permitted
  obtain ⟨after, ran, left⟩ := (shown.remove date).ran
  have missing : (view.remove date).2.recordOn date = none := by
    rw [View.remove, View.withoutFirstMarkers_recordOn, View.withRecord_recordOn_self]
  have markers : (view.remove date).2.markersOn date =
      (view.markersOn date).drop Engine.markerDeletions := by
    have valid : (view.withRecord date none).Valid :=
      shown.valid.of_sublist (List.Sublist.refl _)
    rw [View.remove, View.markersOn_withoutFirstMarkers valid, View.deletions, if_pos granted,
      View.withRecord_markersOn]
  have stillOpen : (view.remove date).2.permitted = true := by
    rw [View.remove, View.withoutFirstMarkers_permitted, View.withRecord_permitted, granted]
  refine ⟨_, after, ran, ?_, ?_, ?_⟩
  · rw [(left.record date).1, missing]
  · rw [left.markersOn, markers, shown.markersOn]
  · rw [left.ordinary_iff stillOpen, markers, shown.markersOn, List.drop_eq_nil_iff]
    exact and_iff_right missing

/-- A session with one marker more on a date than a removal deletes. -/
def crowded : Session := emptyMemory.runAll (List.replicate 17 (.addEvent monday "特殊"))

theorem remove_leaves_crowded :
    crowded.Reachable ∧ crowded.faults = [] ∧ crowded.permitted = true ∧
      ∃ removed after, crowded.run (.remove monday) = (.flag removed, after) ∧
        (after.run (.record monday)).1 = .record none ∧
        after.markersOn monday = (crowded.markersOn monday).drop Engine.markerDeletions ∧
        (after.Ordinary monday ↔ (crowded.markersOn monday).length ≤ Engine.markerDeletions) :=
  have reachable : crowded.Reachable := reachable_emptyMemory.runAll _
  ⟨reachable, rfl, rfl, remove_leaves reachable rfl rfl monday⟩

/-- The seventeenth marker is still found after a removal that reports success. -/
theorem crowded_not_ordinary :
    crowded.Reachable ∧ crowded.faults = [] ∧ crowded.permitted = true ∧
      (crowded.run (.remove monday)).1 = .flag true ∧
      ((crowded.run (.remove monday)).2.run (.findMarker monday)).1 =
        .marker (some ⟨"特殊", 17⟩) ∧
      ¬ (crowded.run (.remove monday)).2.Ordinary monday := by
  have found : ((crowded.run (.remove monday)).2.run (.findMarker monday)).1 =
      .marker (some ⟨"特殊", 17⟩) := by rfl
  refine ⟨reachable_emptyMemory.runAll _, rfl, rfl, by rfl, found, fun ordinary => ?_⟩
  have unmarked := found.symm.trans ordinary.marker
  cases unmarked

end Session
end SchoolWeek
