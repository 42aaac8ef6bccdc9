import Mathlib
import SchoolWeek.Proofs.Reachable
import SchoolWeek.Proofs.TimetableMap

/-! The timetable of a session. Whatever steps are taken and whatever faults strike, what a
session holds for a timetable would pass the check again: it is a finite map. -/
namespace SchoolWeek

namespace View

variable {view : View}

theorem addEvent_entries (handle : Int) (date : Date) (title : String) :
    (view.addEvent handle date title).2.entries = view.entries := by
  unfold addEvent
  split <;> rfl

theorem createMarker_entries (handle : Int) (date : Date) (patternName : String) :
    (view.createMarker handle date patternName).2.entries = view.entries := by
  unfold createMarker
  split_ifs
  · split
    · rfl
    · exact addEvent_entries handle date _
  · rfl

theorem deleteMarker_entries (handle : Int) :
    (view.deleteMarker handle).2.entries = view.entries := by
  unfold deleteMarker
  split_ifs <;> rfl

theorem check_replaceEntries (checked : Entry.check view.entries = .ok ())
    (entries : List Entry) : Entry.check (view.replaceEntries entries).2.entries = .ok () := by
  unfold replaceEntries
  split
  · exact checked
  · assumption

end View

/-- A backend that shows a timetable that passes the check goes on to show one. -/
theorem Backend.Lawful.keeps_checked {σ : Type} [Backend σ] [Lawful σ] :
    Keeps fun state : σ => ∃ view, Lawful.Shows state view ∧ Entry.check view.entries = .ok () where
  fetch day := fun ⟨_, shown, checked⟩ => ⟨_, (fetch day shown).2, checked⟩
  entries := fun ⟨_, shown, checked⟩ => ⟨_, (entries shown).2, checked⟩
  replaceEntries list := fun ⟨_, shown, checked⟩ =>
    ⟨_, (replaceEntries list shown).2, View.check_replaceEntries checked list⟩
  replace date remaps patternName := fun ⟨_, shown, checked⟩ =>
    ⟨_, (replace date remaps patternName shown).2, checked⟩
  rows date := fun ⟨_, shown, checked⟩ => ⟨_, (rows date shown).2, checked⟩
  clear date := fun ⟨_, shown, checked⟩ => ⟨_, (clear date shown).2, checked⟩
  record date := fun ⟨_, shown, checked⟩ => ⟨_, (record date shown).2, checked⟩
  specialDates first last := fun ⟨_, shown, checked⟩ =>
    have ⟨_, listed⟩ := specialDates first last shown
    ⟨_, listed.2, checked⟩
  findMarker date := fun ⟨_, shown, checked⟩ => ⟨_, (findMarker date shown).2, checked⟩
  createMarker date patternName := fun ⟨_, shown, checked⟩ =>
    have ⟨_, _, created⟩ := createMarker date patternName shown
    ⟨_, created.2, by rwa [View.createMarker_entries]⟩
  deleteMarker handle := fun ⟨_, shown, checked⟩ =>
    ⟨_, (deleteMarker handle shown).2, by rwa [View.deleteMarker_entries]⟩

theorem EventBook.Lawful.keeps_checked {σ : Type} [Backend σ] [Backend.Lawful σ] [EventBook σ]
    [EventBook.Lawful σ] : Keeps fun state : σ =>
      ∃ view, Backend.Lawful.Shows state view ∧ Entry.check view.entries = .ok () where
  addEvent date title := fun ⟨_, shown, checked⟩ =>
    have ⟨_, _, added⟩ := addEvent date title shown
    ⟨_, added.2, by rwa [View.addEvent_entries]⟩
  eventsOn date := fun ⟨_, shown, checked⟩ => ⟨_, (eventsOn date shown).2, checked⟩

namespace Memory

theorem replaceEntries_timetable (entries : List Entry) (memory : Memory) :
    (memory.replaceEntries entries).2.timetable =
      (Timetable.Change.run (.replaceAll entries) memory.timetable).2 := by
  rw [replaceEntries, Timetable.Change.run]
  cases memory.timetable.replaceAll entries <;> rfl

theorem upsert_timetable (entry : Entry) (memory : Memory) :
    (memory.upsert entry).2.timetable =
      (Timetable.Change.run (.upsert entry) memory.timetable).2 := by
  rw [upsert, Timetable.Change.run]
  cases memory.timetable.upsert entry <;> rfl

end Memory

namespace Session

def timetable : Session → Timetable
  | memory state => state.base.timetable
  | tables _ state => ⟨state.base.tables.entries⟩

theorem BaseShows.entries {session : Session} {view : View} (shown : session.BaseShows view) :
    view.entries = session.timetable.stored := by
  cases session with
  | memory state =>
    obtain ⟨_, rfl⟩ := shown
    rfl
  | tables inFile state =>
    obtain ⟨_, records⟩ := shown
    exact records.entries

/-- A step of any backend keeps the timetable checked. -/
theorem checked_run {session : Session} (step : Step) (before : ∃ view, session.BaseShows view)
    (checked : Entry.check session.timetable.stored = .ok ()) :
    Entry.check (session.run step).2.timetable.stored = .ok () := by
  obtain ⟨view, shown⟩ := before
  rw [← shown.entries] at checked
  have kept : ∃ after, (session.run step).2.BaseShows after ∧
      Entry.check after.entries = .ok () := by
    cases session with
    | memory state =>
      exact step.run_keeps Backend.Lawful.keeps_checked EventBook.Lawful.keeps_checked
        ⟨view, shown, checked⟩
    | tables inFile state =>
      exact step.run_keeps Backend.Lawful.keeps_checked EventBook.Lawful.keeps_checked
        ⟨view, shown, checked⟩
  obtain ⟨after, shownAfter, checked⟩ := kept
  rwa [← shownAfter.entries]

theorem checked_openMemory {lead : String} {entries : List Entry} {session : Session}
    (opened : openMemory lead entries = .ok session) :
    Entry.check session.timetable.stored = .ok () := by
  have filled := Memory.replaceEntries_timetable entries (.empty lead)
  unfold openMemory at opened
  split at opened
  · rename_i base ran
    cases opened
    rw [ran] at filled
    show Entry.check base.timetable.stored = .ok ()
    rw [filled]
    exact Timetable.Change.run_checked rfl (.replaceAll entries)
  · cases opened

theorem checked_openTables {inFile : Bool} {lead : String} {entries : List Entry}
    {session : Session} (opened : openTables inFile lead entries = .ok session) :
    Entry.check session.timetable.stored = .ok () := by
  unfold openTables TableStore.replaceEntries at opened
  cases checked : Entry.check entries with
  | error error =>
    rw [checked] at opened
    cases opened
  | ok _ =>
    rw [checked] at opened
    cases opened
    exact checked

theorem checked_runMemory {session : Session} (step : MemoryStep)
    (checked : Entry.check session.timetable.stored = .ok ()) :
    Entry.check (session.runMemory step).2.timetable.stored = .ok () := by
  cases session with
  | tables inFile state => exact checked
  | memory state =>
    cases step with
    | upsert entry =>
      show Entry.check (Memory.upsert entry state.base).2.timetable.stored = .ok ()
      rw [Memory.upsert_timetable]
      exact Timetable.Change.run_checked checked (.upsert entry)
    | removeEntry day period => exact Timetable.Change.run_checked checked (.remove day period)
    | permission granted => exact checked

/-- By induction on how the session came up. -/
theorem Reachable.checked {session : Session} (reachable : session.Reachable) :
    Entry.check session.timetable.stored = .ok () := by
  induction reachable with
  | openMemory opened => exact checked_openMemory opened
  | openTables opened => exact checked_openTables opened
  | run step reachable ih => exact checked_run step reachable.baseShows ih
  | runMemory step _ ih => exact checked_runMemory step ih
  | @reopen session lead _ ih =>
    match session, ih with
    | memory state, ih => exact ih
    | tables false state, ih => exact ih
    | tables true state, ih => exact ih

end Session

end SchoolWeek
