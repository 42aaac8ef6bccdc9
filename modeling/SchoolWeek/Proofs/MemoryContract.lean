import Mathlib
import SchoolWeek.Proofs.Contract
import SchoolWeek.Proofs.DateOrder

/-! The backend in memory keeps its contract. Its records stand in the strict order
of their dates, so there is at most one for a date, and the next handle is above all
handles in use. -/
namespace SchoolWeek.Memory

/-- Looking a date up after a record was put in finds that record on its own date and
what was there before on any other. -/
theorem find?_insertRecord (record : Record) (records : List Record) (date : Date) :
    (insertRecord record records).find? (·.date == date) =
      if date = record.date then some record else records.find? (·.date == date) := by
  induction records with
  | nil =>
    by_cases same : date = record.date
    · simp [insertRecord, same]
    · simp [insertRecord, same, Ne.symm same]
  | cons other rest ih =>
    by_cases same : date = record.date
    · subst same
      simp only [insertRecord, ↓reduceIte] at ih ⊢
      split_ifs with equal before
      · simp
      · simp
      · rw [List.find?_cons_of_neg (by simpa using Ne.symm equal), ih]
    · rw [if_neg same] at ih ⊢
      simp only [insertRecord]
      split_ifs with equal before
      · have otherDiffers : other.date ≠ date := equal ▸ Ne.symm same
        simp [Ne.symm same, otherDiffers]
      · rw [List.find?_cons_of_neg (by simpa using Ne.symm same)]
      · rw [List.find?_cons, List.find?_cons, ih]

theorem mem_insertRecord_date {record : Record} {records : List Record} {date : Date} :
    date ∈ (insertRecord record records).map Record.date ↔
      date = record.date ∨ date ∈ records.map Record.date := by
  induction records with
  | nil => simp [insertRecord]
  | cons other rest ih =>
    simp only [insertRecord]
    split_ifs with equal before
    · simp [equal]
    · simp
    · simp only [List.map_cons, List.mem_cons, ih]
      exact or_left_comm

theorem insertRecord_sorted {record : Record} {records : List Record}
    (sorted : (records.map Record.date).Pairwise Date.Before) :
    ((insertRecord record records).map Record.date).Pairwise Date.Before := by
  induction records with
  | nil => simp [insertRecord]
  | cons other rest ih =>
    obtain ⟨first, later⟩ := List.pairwise_cons.mp sorted
    simp only [insertRecord]
    split_ifs with equal before
    · rw [List.map_cons, equal]
      exact sorted
    · refine List.pairwise_cons.mpr ⟨?_, sorted⟩
      intro date member
      rcases List.mem_cons.mp member with rfl | member
      · exact before
      · exact before.trans (first date member)
    · refine List.pairwise_cons.mpr ⟨?_, ih later⟩
      intro date member
      rcases mem_insertRecord_date.mp member with rfl | member
      · rcases Date.before_or_eq_or_after record.date other.date with earlier | same | after
        · exact (before earlier).elim
        · exact (equal same).elim
        · exact after
      · exact first date member

def view (memory : Memory) : View where
  entries := memory.timetable.stored
  recordOn := memory.recordOn?
  events := memory.calendar.events
  lead := memory.calendar.lead
  permitted := memory.calendar.permitted

/-- What every operation in memory leaves true. -/
structure Sound (memory : Memory) : Prop where
  valid : memory.view.Valid
  fresh : ∀ handle ∈ memory.view.handles, handle < memory.calendar.nextHandle
  sorted : (memory.records.map Record.date).Pairwise Date.Before

def Shows (memory : Memory) (view : View) : Prop := memory.Sound ∧ memory.view = view

theorem Sound.nextHandle_fresh {memory : Memory} (sound : memory.Sound) :
    memory.calendar.nextHandle ∉ memory.view.handles := fun member =>
  lt_irrefl _ (sound.fresh _ member)

theorem view_replace (memory : Memory) (date : Date) (remaps : List Remap) (patternName : String) :
    (memory.replace date remaps patternName).view =
      memory.view.withRecord date
        (some ⟨date, patternName, Remap.flatten remaps patternName⟩) := by
  simp only [view, replace, View.withRecord, View.mk.injEq, true_and, and_true]
  funext other
  exact find?_insertRecord _ memory.records other

theorem view_clear (memory : Memory) (date : Date) :
    (memory.clear date).2.view = memory.view.withRecord date none := by
  simp only [view, clear, View.withRecord, View.mk.injEq, true_and, and_true]
  funext other
  by_cases same : other = date
  · simp [recordOn?, same]
  · rw [if_neg same, recordOn?, List.find?_filter, recordOn?]
    congr 1
    funext record
    by_cases here : record.date = other
    · simp [here, same]
    · simp [here]

theorem Sound.replace {memory : Memory} (sound : memory.Sound) (date : Date) (remaps : List Remap)
    (patternName : String) : (memory.replace date remaps patternName).Sound where
  valid := sound.valid.of_sublist (List.Sublist.refl _)
  fresh := sound.fresh
  sorted := insertRecord_sorted sound.sorted

theorem Sound.clear {memory : Memory} (sound : memory.Sound) (date : Date) :
    (memory.clear date).2.Sound where
  valid := sound.valid.of_sublist (List.Sublist.refl _)
  fresh := sound.fresh
  sorted := sound.sorted.sublist (List.filter_sublist.map Record.date)

theorem Sound.withTimetable {memory : Memory} (sound : memory.Sound) (timetable : Timetable) :
    Sound { memory with timetable } where
  valid := sound.valid.of_sublist (List.Sublist.refl _)
  fresh := sound.fresh
  sorted := sound.sorted

theorem Sound.setPermission {memory : Memory} (sound : memory.Sound) (granted : Bool) :
    (memory.setPermission granted).Sound where
  valid := sound.valid.of_sublist (List.Sublist.refl _)
  fresh := sound.fresh
  sorted := sound.sorted

/-- Appending an event to a calendar that may have lost events before. -/
theorem addEvent_gives {memory : Memory} (sound : memory.Sound) (date : Date) (title : String) :
    Gives Shows (withCalendar (Calendar.addEvent date title) memory)
      (memory.view.addEvent memory.calendar.nextHandle date title) := by
  have next := sound.valid.addEvent sound.nextHandle_fresh date title
  simp only [withCalendar, Calendar.addEvent, View.addEvent] at next ⊢
  cases made : Event.fullDay memory.calendar.nextHandle date title with
  | error error =>
    refine ⟨rfl, ⟨sound.valid, fun handle member => ?_, sound.sorted⟩, rfl⟩
    exact (sound.fresh handle member).trans (Int.lt_succ _)
  | ok event =>
    simp only [made] at next
    refine ⟨rfl, ⟨next, fun handle member => ?_, sound.sorted⟩, rfl⟩
    simp only [view, View.handles, List.map_append, List.mem_append, List.map_cons, List.map_nil,
      List.mem_singleton] at member
    rcases member with old | new
    · exact (sound.fresh handle old).trans (Int.lt_succ _)
    · rw [new, (Event.fullDay_fields made).1]
      exact Int.lt_succ _

/-- No marker is lost when the new one cannot be made: the last date never has one. -/
theorem withoutMarkers_of_error {view : View} {handle : Int} {date : Date} {title : String}
    {error : CalendarError} (valid : view.Valid)
    (failed : Event.fullDay handle date title = .error error) :
    view.withoutMarkers date = view := by
  have kept : view.events.filter (!view.isMarkerOn date ·) = view.events := by
    refine List.filter_eq_self.mpr fun event member => ?_
    have elsewhere : event.date ≠ date := by
      rintro rfl
      obtain ⟨made, succeeded⟩ := valid.exists_fullDay member handle title
      rw [succeeded] at failed
      cases failed
    simp [View.isMarkerOn, elsewhere]
  rw [View.withoutMarkers, kept]

/-- The memory between losing the markers of a date and getting the new one. -/
def withoutMarkers (memory : Memory) (date : Date) : Memory :=
  { memory with calendar := { memory.calendar with
      events := memory.calendar.events.filter (!memory.calendar.isMarkerOn date ·) } }

theorem Sound.withoutMarkers {memory : Memory} (sound : memory.Sound) (date : Date) :
    (memory.withoutMarkers date).Sound where
  valid := sound.valid.withoutMarkers date
  fresh handle member :=
    sound.fresh handle ((List.filter_sublist.map Event.handle).subset member)
  sorted := sound.sorted

theorem createMarker_gives {memory : Memory} (sound : memory.Sound) (date : Date)
    (patternName : String) :
    Gives Shows (withCalendar (Calendar.createMarker date patternName) memory)
      (memory.view.createMarker memory.calendar.nextHandle date patternName) := by
  by_cases permitted : memory.calendar.permitted = true
  · have shown : (memory.withoutMarkers date).view = memory.view.withoutMarkers date := rfl
    have added := addEvent_gives (sound.withoutMarkers date) date
      (Marker.title memory.calendar.lead patternName)
    have ran : withCalendar (Calendar.createMarker date patternName) memory =
        withCalendar (Calendar.addEvent date (Marker.title memory.calendar.lead patternName))
          (memory.withoutMarkers date) := by
      rw [withCalendar, Calendar.createMarker, if_pos permitted]
      rfl
    rw [ran, View.createMarker, if_pos (show memory.view.permitted = true from permitted)]
    split
    · rename_i error failed
      rw [shown, withoutMarkers_of_error sound.valid failed] at added
      have unchanged : memory.view.addEvent memory.calendar.nextHandle date
          (Marker.title memory.view.lead patternName) = (.error error, memory.view) := by
        rw [View.addEvent, failed]
      exact unchanged ▸ added
    · exact added
  · rw [withCalendar, Calendar.createMarker, if_neg permitted, View.createMarker,
      if_neg (show ¬ memory.view.permitted = true from permitted)]
    exact ⟨rfl, sound, rfl⟩

theorem deleteMarker_gives {memory : Memory} (sound : memory.Sound) (handle : Int) :
    Gives Shows (withCalendar (Calendar.deleteMarker handle) memory)
      (memory.view.deleteMarker handle) := by
  have missing : (memory.calendar.events.filter (·.handle != handle)).length =
      memory.calendar.events.length ↔ handle ∉ memory.view.handles := by
    rw [List.length_filter_eq_length_iff]
    simp [View.handles, view]
  simp only [withCalendar, Calendar.deleteMarker, View.deleteMarker]
  by_cases permitted : memory.calendar.permitted = true
  · rw [if_pos permitted, if_pos (show memory.view.permitted = true from permitted)]
    by_cases present : handle ∈ memory.view.handles
    · rw [if_neg fun same => missing.mp same present, if_pos present]
      refine ⟨rfl, ⟨?_, fun other member => ?_, sound.sorted⟩, rfl⟩
      · exact sound.valid.of_sublist List.filter_sublist
      · exact sound.fresh other ((List.filter_sublist.map Event.handle).subset member)
    · rw [if_pos (missing.mpr present), if_neg present]
      exact ⟨rfl, sound, rfl⟩
  · rw [if_neg permitted, if_neg (show ¬ memory.view.permitted = true from permitted)]
    exact ⟨rfl, sound, rfl⟩

theorem replaceEntries_gives {memory : Memory} (sound : memory.Sound) (entries : List Entry) :
    Gives Shows (memory.replaceEntries entries) (memory.view.replaceEntries entries) := by
  simp only [replaceEntries, Timetable.replaceAll, Timetable.ofEntries, View.replaceEntries]
  cases Entry.check entries with
  | error error => exact ⟨rfl, sound, rfl⟩
  | ok accepted => exact ⟨rfl, sound.withTimetable ⟨entries⟩, rfl⟩

instance : Backend.Lawful Memory where
  Shows := Shows
  valid := fun ⟨sound, shown⟩ => shown ▸ sound.valid
  fetch _ := fun ⟨sound, shown⟩ => ⟨by rw [← shown]; rfl, sound, shown⟩
  entries := fun ⟨sound, shown⟩ => ⟨by rw [← shown]; rfl, sound, shown⟩
  replaceEntries entries := fun ⟨sound, shown⟩ => shown ▸ replaceEntries_gives sound entries
  replace date remaps patternName := fun ⟨sound, shown⟩ =>
    ⟨rfl, sound.replace date remaps patternName, shown ▸ view_replace _ date remaps patternName⟩
  rows _ := fun ⟨sound, shown⟩ => ⟨by rw [← shown]; rfl, sound, shown⟩
  clear date := fun ⟨sound, shown⟩ =>
    ⟨by rw [← shown]; rfl, sound.clear date, shown ▸ view_clear _ date⟩
  record _ := fun ⟨sound, shown⟩ => ⟨by rw [← shown]; rfl, sound, shown⟩
  specialDates first last := fun ⟨sound, shown⟩ => ⟨_, rfl, sound, shown⟩
  findMarker _ := fun ⟨sound, shown⟩ => ⟨by rw [← shown]; rfl, sound, shown⟩
  createMarker date patternName := fun ⟨sound, shown⟩ =>
    ⟨_, shown ▸ sound.nextHandle_fresh, shown ▸ createMarker_gives sound date patternName⟩
  deleteMarker handle := fun ⟨sound, shown⟩ => shown ▸ deleteMarker_gives sound handle

instance : EventBook.Lawful Memory where
  addEvent date title := fun ⟨sound, shown⟩ =>
    ⟨_, shown ▸ sound.nextHandle_fresh, shown ▸ addEvent_gives sound date title⟩
  eventsOn _ := fun ⟨sound, shown⟩ => ⟨by rw [← shown]; rfl, sound, shown⟩

end SchoolWeek.Memory
