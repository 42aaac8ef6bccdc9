import Mathlib
import SchoolWeek.Proofs.MemoryContract
import SchoolWeek.Proofs.Preservation
import SchoolWeek.Proofs.TablesContract

/-! The sessions that can come up. Whatever steps are taken and whatever faults strike on
the way, the backend of such a session shows a view, and while no fault is laid on it
each step does what the contract says. Records put into a table past all checks are left
out: they need not be what any backend shows. -/
namespace SchoolWeek

/-- A backend that keeps its contract always shows some view. -/
theorem Backend.Lawful.keeps {σ : Type} [Backend σ] [Lawful σ] :
    Keeps fun state : σ => ∃ view, Lawful.Shows state view where
  fetch day := fun ⟨_, shown⟩ => ⟨_, (fetch day shown).2⟩
  entries := fun ⟨_, shown⟩ => ⟨_, (entries shown).2⟩
  replaceEntries list := fun ⟨_, shown⟩ => ⟨_, (replaceEntries list shown).2⟩
  replace date remaps patternName := fun ⟨_, shown⟩ =>
    ⟨_, (replace date remaps patternName shown).2⟩
  rows date := fun ⟨_, shown⟩ => ⟨_, (rows date shown).2⟩
  clear date := fun ⟨_, shown⟩ => ⟨_, (clear date shown).2⟩
  record date := fun ⟨_, shown⟩ => ⟨_, (record date shown).2⟩
  specialDates first last := fun ⟨_, shown⟩ =>
    have ⟨_, listed⟩ := specialDates first last shown
    ⟨_, listed.2⟩
  findMarker date := fun ⟨_, shown⟩ => ⟨_, (findMarker date shown).2⟩
  createMarker date patternName := fun ⟨_, shown⟩ =>
    have ⟨_, _, created⟩ := createMarker date patternName shown
    ⟨_, created.2⟩
  deleteMarker handle := fun ⟨_, shown⟩ => ⟨_, (deleteMarker handle shown).2⟩

theorem EventBook.Lawful.keeps {σ : Type} [Backend σ] [Backend.Lawful σ] [EventBook σ]
    [EventBook.Lawful σ] : Keeps fun state : σ => ∃ view, Backend.Lawful.Shows state view where
  addEvent date title := fun ⟨_, shown⟩ =>
    have ⟨_, _, added⟩ := addEvent date title shown
    ⟨_, added.2⟩
  eventsOn date := fun ⟨_, shown⟩ => ⟨_, (eventsOn date shown).2⟩

namespace Traced

variable {σ : Type} [Backend σ] [Backend.Lawful σ]

/-- No fault waits, and the backend below shows the view. -/
def Shows (traced : Traced σ) (view : View) : Prop :=
  traced.faults = [] ∧ Backend.Lawful.Shows traced.base view

omit [Backend σ] [Backend.Lawful σ] in
/-- Where no fault waits for it, noting an operation changes nothing about it. -/
theorem noted_of_none {ε α : Type} {operation : Operation σ ε α} {traced : Traced σ} {call : Call}
    (failed : Fault → Except ε α) (none : traced.faults.find? (·.call == call) = none) :
    noted call failed operation traced =
      below operation { traced with calls := traced.calls ++ [call] } := by
  rw [noted, enter, none]

omit [Backend σ] [Backend.Lawful σ] in
theorem noted_of_calm {ε α : Type} {operation : Operation σ ε α} {traced : Traced σ} (call : Call)
    (failed : Fault → Except ε α) (calm : traced.faults = []) :
    noted call failed operation traced =
      below operation { traced with calls := traced.calls ++ [call] } :=
  noted_of_none failed (by rw [calm]; rfl)

theorem Shows.noted {ε α : Type} {operation : Operation σ ε α} {traced : Traced σ} {view : View}
    {expected : Except ε α × View} (call : Call) (failed : Fault → Except ε α)
    (shown : traced.Shows view)
    (ran : Gives Backend.Lawful.Shows (operation traced.base) expected) :
    Gives Shows (Traced.noted call failed operation traced) expected := by
  rw [noted_of_calm call failed shown.1]
  exact ⟨ran.1, shown.1, ran.2⟩

instance : Backend.Lawful (Traced σ) where
  Shows := Shows
  valid shown := Backend.Lawful.valid shown.2
  fetch day shown := shown.noted _ _ (Backend.Lawful.fetch day shown.2)
  entries shown := shown.noted _ _ (Backend.Lawful.entries shown.2)
  replaceEntries entries shown := shown.noted _ _ (Backend.Lawful.replaceEntries entries shown.2)
  replace date remaps patternName shown :=
    shown.noted _ _ (Backend.Lawful.replace date remaps patternName shown.2)
  rows date shown := shown.noted _ _ (Backend.Lawful.rows date shown.2)
  clear date shown := shown.noted _ _ (Backend.Lawful.clear date shown.2)
  record date shown := shown.noted _ _ (Backend.Lawful.record date shown.2)
  specialDates first last shown :=
    have ⟨dates, listed⟩ := Backend.Lawful.specialDates first last shown.2
    ⟨dates, shown.noted _ _ listed⟩
  findMarker date shown := shown.noted _ _ (Backend.Lawful.findMarker date shown.2)
  createMarker date patternName shown :=
    have ⟨handle, fresh, created⟩ := Backend.Lawful.createMarker date patternName shown.2
    ⟨handle, fresh, shown.noted _ _ created⟩
  deleteMarker handle shown := shown.noted _ _ (Backend.Lawful.deleteMarker handle shown.2)

instance [EventBook σ] [EventBook.Lawful σ] : EventBook.Lawful (Traced σ) where
  addEvent date title shown :=
    have ⟨handle, fresh, added⟩ := EventBook.Lawful.addEvent date title shown.2
    ⟨handle, fresh, added.1, shown.1, added.2⟩
  eventsOn date shown :=
    have listed := EventBook.Lawful.eventsOn date shown.2
    ⟨listed.1, shown.1, listed.2⟩

end Traced

namespace Session

/-- The faults that still wait. -/
def faults : Session → List Fault
  | memory state => state.faults
  | tables _ state => state.faults

def lead : Session → String
  | memory state => state.base.calendar.lead
  | tables _ state => state.base.lead

/-- A calendar kept in tables is open to everyone. -/
def permitted : Session → Bool
  | memory state => state.base.calendar.permitted
  | tables _ _ => true

/-- The sessions that can come up. -/
inductive Reachable : Session → Prop
  | openMemory {lead : String} {entries : List Entry} {session : Session} :
    Session.openMemory lead entries = .ok session → Reachable session
  | openTables {inFile : Bool} {lead : String} {entries : List Entry} {session : Session} :
    Session.openTables inFile lead entries = .ok session → Reachable session
  | run {session : Session} (step : Step) : Reachable session → Reachable (session.run step).2
  | runMemory {session : Session} (step : MemoryStep) :
    Reachable session → Reachable (session.runMemory step).2
  | reopen {session : Session} (lead : String) :
    Reachable session → Reachable (session.runFile (.reopen lead)).2

def monday : Date := ⟨2025, 1, 6, by decide⟩

/-- Sessions with nothing in them. -/
def emptyMemory : Session := .memory (.ofBackend (.empty Marker.defaultLead))

def emptyTables : Session := .tables false (.ofBackend (.empty Marker.defaultLead))

def runAll (steps : List Step) (session : Session) : Session :=
  steps.foldl (fun session step => (session.run step).2) session

theorem Reachable.runAll {session : Session} (reachable : session.Reachable) (steps : List Step) :
    (session.runAll steps).Reachable := by
  induction steps generalizing session with
  | nil => exact reachable
  | cons step steps ih => exact ih (reachable.run step)

theorem reachable_emptyMemory : emptyMemory.Reachable :=
  .openMemory (show openMemory Marker.defaultLead [] = .ok emptyMemory from rfl)

theorem reachable_emptyTables : emptyTables.Reachable :=
  .openTables (show openTables false Marker.defaultLead [] = .ok emptyTables from rfl)

/-- What the backend shows, whatever faults wait. -/
def BaseShows (view : View) : Session → Prop
  | memory state => Backend.Lawful.Shows state.base view
  | tables _ state => Backend.Lawful.Shows state.base view

/-- No fault waits, and the backend shows the view. -/
def Shows (session : Session) (view : View) : Prop :=
  match session with
  | memory state => Backend.Lawful.Shows state view
  | tables _ state => Backend.Lawful.Shows state view

theorem BaseShows.shows {session : Session} {view : View} (shown : session.BaseShows view)
    (calm : session.faults = []) : session.Shows view := by
  cases session with
  | memory state => exact ⟨calm, shown⟩
  | tables inFile state => exact ⟨calm, shown⟩

theorem BaseShows.permitted {session : Session} {view : View} (shown : session.BaseShows view) :
    view.permitted = session.permitted := by
  cases session with
  | memory state =>
    obtain ⟨_, rfl⟩ := shown
    rfl
  | tables inFile state =>
    obtain ⟨_, records⟩ := shown
    exact records.permitted

theorem baseShows_openMemory {lead : String} {entries : List Entry} {session : Session}
    (opened : openMemory lead entries = .ok session) : ∃ view, session.BaseShows view := by
  have empty : Memory.Shows (.empty lead) (Memory.empty lead).view :=
    ⟨⟨.of_no_events rfl, fun _ member => absurd member List.not_mem_nil, List.Pairwise.nil⟩, rfl⟩
  have filled : Gives Memory.Shows ((Memory.empty lead).replaceEntries entries) _ :=
    Backend.Lawful.replaceEntries entries empty
  unfold openMemory at opened
  split at opened
  · rename_i base ran
    cases opened
    rw [ran] at filled
    exact ⟨_, filled.2⟩
  · cases opened

theorem baseShows_openTables {inFile : Bool} {lead : String} {entries : List Entry}
    {session : Session} (opened : openTables inFile lead entries = .ok session) :
    ∃ view, session.BaseShows view := by
  have empty : TableStore.Shows (.empty lead) ⟨[], fun _ => none, [], lead, true⟩ :=
    ⟨[], rfl, Tables.holds_empty, .of_no_events rfl, rfl, rfl, rfl, rfl⟩
  have filled : Gives TableStore.Shows (TableStore.replaceEntries entries (.empty lead)) _ :=
    Backend.Lawful.replaceEntries entries empty
  unfold openTables at opened
  split at opened
  · rename_i store ran
    cases opened
    rw [ran] at filled
    exact ⟨_, filled.2⟩
  · cases opened

theorem baseShows_run {session : Session} (step : Step) (before : ∃ view, session.BaseShows view) :
    ∃ view, (session.run step).2.BaseShows view := by
  cases session with
  | memory state => exact step.run_keeps Backend.Lawful.keeps EventBook.Lawful.keeps before
  | tables inFile state => exact step.run_keeps Backend.Lawful.keeps EventBook.Lawful.keeps before

/-- The steps of the backend in memory alone change its timetable or the permission. -/
theorem baseShows_runMemory {session : Session} (step : MemoryStep)
    (before : ∃ view, session.BaseShows view) :
    ∃ view, (session.runMemory step).2.BaseShows view := by
  cases session with
  | tables inFile state => exact before
  | memory state =>
    obtain ⟨_, sound, rfl⟩ := before
    cases step with
    | upsert entry =>
      refine ⟨_, ?_, rfl⟩
      show (Memory.upsert entry state.base).2.Sound
      unfold Memory.upsert
      split
      · exact sound
      · exact sound.withTimetable _
    | removeEntry day period => exact ⟨_, sound.withTimetable _, rfl⟩
    | permission granted => exact ⟨_, sound.setPermission granted, rfl⟩

/-- A file opened anew shows the same under another lead. -/
theorem baseShows_reopen {session : Session} (lead : String)
    (before : ∃ view, session.BaseShows view) :
    ∃ view, (session.runFile (.reopen lead)).2.BaseShows view := by
  match session, before with
  | memory state, before => exact before
  | tables false state, before => exact before
  | tables true state, ⟨view, records, shown⟩ =>
    exact ⟨{ view with lead }, records, rfl, shown.holds,
      shown.valid.of_sublist (List.Sublist.refl _), shown.entries, shown.recordOn, rfl,
      shown.permitted⟩

/-- By induction on how the session came up; each kind of step keeps that a view is shown. -/
theorem Reachable.baseShows {session : Session} (reachable : session.Reachable) :
    ∃ view, session.BaseShows view := by
  induction reachable with
  | openMemory opened => exact baseShows_openMemory opened
  | openTables opened => exact baseShows_openTables opened
  | run step _ ih => exact baseShows_run step ih
  | runMemory step _ ih => exact baseShows_runMemory step ih
  | reopen lead _ ih => exact baseShows_reopen lead ih

theorem Reachable.shows {session : Session} (reachable : session.Reachable)
    (calm : session.faults = []) : ∃ view, session.Shows view :=
  have ⟨view, shown⟩ := reachable.baseShows
  ⟨view, shown.shows calm⟩

namespace Shows

variable {session : Session} {view : View}

theorem valid (shown : session.Shows view) : view.Valid := by
  cases session with
  | memory state => exact Backend.Lawful.valid shown
  | tables inFile state => exact Backend.Lawful.valid shown

theorem faults (shown : session.Shows view) : session.faults = [] := by
  cases session with
  | memory state => exact shown.1
  | tables inFile state => exact shown.1

theorem lead (shown : session.Shows view) : view.lead = session.lead := by
  cases session with
  | memory state =>
    obtain ⟨_, _, rfl⟩ := shown
    rfl
  | tables inFile state =>
    obtain ⟨_, _, records⟩ := shown
    exact records.lead

theorem base (shown : session.Shows view) : session.BaseShows view := by
  cases session with
  | memory state => exact shown.2
  | tables inFile state => exact shown.2

theorem permitted (shown : session.Shows view) : view.permitted = session.permitted :=
  shown.base.permitted

/-- A step does in a session what it does with any backend that keeps its contract. -/
theorem run {step : Step} {expected : Outcome × View} (shown : session.Shows view)
    (spec : ∀ {σ : Type} [Backend σ] [Backend.Lawful σ] [EventBook σ] [EventBook.Lawful σ]
      {state : Traced σ}, state.Shows view → Gives Traced.Shows (step.run state) expected) :
    Gives Session.Shows (session.run step) expected := by
  cases session with
  | memory state => exact spec shown
  | tables inFile state => exact spec shown

/-- The same for a step that leaves a choice to the backend. -/
theorem run_some {ι : Type} {allowed : ι → Prop} {step : Step} {expected : ι → Outcome × View}
    (shown : session.Shows view)
    (spec : ∀ {σ : Type} [Backend σ] [Backend.Lawful σ] [EventBook σ] [EventBook.Lawful σ]
      {state : Traced σ}, state.Shows view →
        ∃ choice, allowed choice ∧ Gives Traced.Shows (step.run state) (expected choice)) :
    ∃ choice, allowed choice ∧ Gives Session.Shows (session.run step) (expected choice) := by
  cases session with
  | memory state => exact spec shown
  | tables inFile state => exact spec shown

end Shows

end Session

end SchoolWeek
