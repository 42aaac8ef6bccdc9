import Mathlib
import SchoolWeek.Proofs.Cleared

/-! A removal takes an application back. On a date without anything special, applying a
schedule, looking at it any number of times and removing it gives back the very session
there was: the timetable, the records and the events, each in its place and under its
handle. The one thing that is not taken back is the number that the marker had. -/
namespace SchoolWeek

/-- This date and every handle, and nothing that belongs to no date. -/
def Scope.upon (date : Date) : Scope where
  timetable := False
  date := (· = date)
  range _ _ := False
  handle _ := True

/-- No operation on the date changes this part of the state. -/
structure Backend.Leaves {σ ν : Type} [Backend σ] (date : Date) (part : σ → ν) : Prop where
  fetch (day : Weekday) (state : σ) : part (Backend.fetch day state).2 = part state
  entries (state : σ) : part (Backend.entries state).2 = part state
  replace (remaps : List Remap) (patternName : String) (state : σ) :
    part (Backend.replace date remaps patternName state).2 = part state
  rows (other : Date) (state : σ) : part (Backend.rows other state).2 = part state
  clear (state : σ) : part (Backend.clear date state).2 = part state
  record (other : Date) (state : σ) : part (Backend.record other state).2 = part state
  specialDates (first last : Date) (state : σ) :
    part (Backend.specialDates first last state).2 = part state
  findMarker (other : Date) (state : σ) : part (Backend.findMarker other state).2 = part state
  createMarker (patternName : String) (state : σ) :
    part (Backend.createMarker date patternName state).2 = part state
  deleteMarker (handle : Int) (state : σ) : part (Backend.deleteMarker handle state).2 = part state

namespace Backend.Leaves

variable {σ ν : Type} [Backend σ] {date : Date} {part : σ → ν}

theorem traced (leaves : Leaves date part) :
    Leaves date fun traced : Traced σ => part traced.base where
  fetch day traced := Traced.noted_still _ _ (leaves.fetch day traced.base)
  entries traced := Traced.noted_still _ _ (leaves.entries traced.base)
  replace remaps patternName traced :=
    Traced.noted_still _ _ (leaves.replace remaps patternName traced.base)
  rows other traced := Traced.noted_still _ _ (leaves.rows other traced.base)
  clear traced := Traced.noted_still _ _ (leaves.clear traced.base)
  record other traced := Traced.noted_still _ _ (leaves.record other traced.base)
  specialDates first last traced :=
    Traced.noted_still _ _ (leaves.specialDates first last traced.base)
  findMarker other traced := Traced.noted_still _ _ (leaves.findMarker other traced.base)
  createMarker patternName traced :=
    Traced.noted_still _ _ (leaves.createMarker patternName traced.base)
  deleteMarker handle traced := Traced.noted_still _ _ (leaves.deleteMarker handle traced.base)

/-- A backend with that part fixed is in lockstep with itself on the date. -/
theorem alike (leaves : Leaves date part) (value : ν) :
    Alike (Scope.upon date) id (Alone (part · = value)) where
  fetch {state _} day := by
    rintro ⟨rfl, before⟩
    exact Alone.ran rfl ((leaves.fetch day state).trans before)
  entries {state _} := by
    rintro ⟨rfl, before⟩
    exact Alone.ran rfl ((leaves.entries state).trans before)
  replaceEntries _ exchanged := exchanged.elim
  replace {state _ _} remaps patternName := by
    rintro rfl ⟨rfl, before⟩
    exact Alone.ran rfl ((leaves.replace remaps patternName state).trans before)
  rows {state _ _} := by
    rintro rfl ⟨rfl, before⟩
    exact Alone.ran rfl ((leaves.rows _ state).trans before)
  clear {state _ _} := by
    rintro rfl ⟨rfl, before⟩
    exact Alone.ran rfl ((leaves.clear state).trans before)
  record {state _ _} := by
    rintro rfl ⟨rfl, before⟩
    exact Alone.ran rfl ((leaves.record _ state).trans before)
  specialDates listed := listed.elim
  findMarker {state _ _} := by
    rintro rfl ⟨rfl, before⟩
    exact Alone.ran (Marker.map_renumbered_id _) ((leaves.findMarker _ state).trans before)
  createMarker {state _ _} patternName := by
    rintro rfl ⟨rfl, before⟩
    exact Alone.ran (congrFun Except.map_id _)
      ((leaves.createMarker patternName state).trans before)
  deleteMarker {state _ handle} _ := by
    rintro ⟨rfl, before⟩
    exact Alone.ran rfl ((leaves.deleteMarker handle state).trans before)
  deleteFound {state _ after other marker} := by
    rintro rfl ⟨rfl, before⟩ found
    have between := (leaves.findMarker other state).trans before
    rw [found] at between ⊢
    exact Alone.ran rfl ((leaves.deleteMarker marker.handle after).trans between)

end Backend.Leaves

/-- No step that makes, unmakes or reads the special schedule of the date changes the part. -/
theorem Step.run_leaves {σ ν : Type} [Backend σ] [EventBook σ] {date : Date} {part : σ → ν}
    (leaves : Backend.Leaves date part)
    (books : ∀ (other : Date) (state : σ), part (EventBook.eventsOn other state).2 = part state)
    {step : Step} (schedules : step.Schedules date) (state : Traced σ) :
    part (step.run state).2.base = part state.base := by
  have alike := leaves.traced.alike (part state.base)
  have alone : Alone (fun traced : Traced σ => part traced.base = part state.base) state state :=
    ⟨rfl, rfl⟩
  cases step with
  | entries => exact leaves.traced.entries state
  | fetch day => exact leaves.traced.fetch day state
  | rows other | storedRemaps other => exact leaves.traced.rows other state
  | record other => exact leaves.traced.record other state
  | specialDates first last => exact leaves.traced.specialDates first last state
  | events other => exact books other state.base
  | findMarker other => exact leaves.traced.findMarker other state
  | normal other => exact (alike.normalSchedule other alone).2.2
  | merge remaps => exact (alike.merge remaps alone).2.2
  | replace other remaps patternName =>
    obtain rfl : other = date := schedules
    exact leaves.traced.replace remaps patternName state
  | clear other =>
    obtain rfl : other = date := schedules
    exact leaves.traced.clear state
  | createMarker other patternName =>
    obtain rfl : other = date := schedules
    exact leaves.traced.createMarker patternName state
  | effective other | effectiveSorted other => exact (alike.effectiveSchedule schedules alone).2.2
  | remapsFor other => exact (alike.remapsFor schedules alone).2.2
  | applyOn other patternName day custom? =>
    exact (alike.applyOn schedules patternName day custom? alone).2.2
  | apply other patternName custom? =>
    exact (alike.applyOn schedules patternName other.weekday custom? alone).2.2
  | remove other => exact (alike.remove schedules alone).2.2
  | replaceEntries _ | addEvent _ _ | deleteMarker _ | http _ | takeCalls | setFault _ =>
    exact schedules.elim

namespace Memory

/-- The records of the other dates. -/
def recordsBesides (date : Date) (memory : Memory) : List Record :=
  memory.records.filter (·.date != date)

theorem filter_insertRecord (record : Record) (records : List Record) :
    (insertRecord record records).filter (·.date != record.date) =
      records.filter (·.date != record.date) := by
  induction records with
  | nil => simp [insertRecord]
  | cons other rest ih =>
    rw [insertRecord]
    split_ifs with same before
    · simp [same]
    · simp
    · rw [List.filter_cons, ih, List.filter_cons]

theorem recordsBesides_eq {memory : Memory} {date : Date} (missing : memory.recordOn? date = none) :
    recordsBesides date memory = memory.records :=
  List.filter_eq_self.mpr fun record member => by
    simpa using List.find?_eq_none.mp missing record member

/-- Where the date has no record, the view, the other records and the numbering are all. -/
theorem eq_of_view_eq {memory other : Memory} {date : Date} (same : memory.view = other.view)
    (besides : recordsBesides date memory = recordsBesides date other)
    (missing : memory.recordOn? date = none) :
    memory =
      { other with calendar := { other.calendar with nextHandle := memory.calendar.nextHandle } } := by
  have missingToo : other.recordOn? date = none :=
    (congrFun (congrArg View.recordOn same) date).symm.trans missing
  rw [recordsBesides_eq missing, recordsBesides_eq missingToo] at besides
  obtain ⟨⟨stored⟩, records, ⟨lead, events, next, permitted⟩⟩ := memory
  obtain ⟨⟨otherStored⟩, otherRecords, ⟨otherLead, otherEvents, otherNext, otherPermitted⟩⟩ := other
  obtain rfl : records = otherRecords := besides
  obtain ⟨rfl, -, rfl, rfl, rfl⟩ := View.mk.inj same
  rfl

theorem leaves (date : Date) : Backend.Leaves date (recordsBesides date) where
  fetch _ _ := rfl
  entries _ := rfl
  replace remaps patternName memory :=
    filter_insertRecord ⟨date, patternName, Remap.flatten remaps patternName⟩ memory.records
  rows _ _ := rfl
  clear memory := List.filter_filter.trans (by simp [recordsBesides])
  record _ _ := rfl
  specialDates _ _ _ := rfl
  findMarker _ _ := rfl
  createMarker _ _ := rfl
  deleteMarker _ _ := rfl

end Memory

namespace TableStore

/-- The rows of the other dates, in either table. -/
def rowsBesides (date : Date) (store : TableStore) : List (String × String) × List StoredRow :=
  (store.tables.schedules.filter (·.1 != date.text), store.tables.rows.filter (·.date != date.text))

theorem rowsBesides_writing {α : Type} {date : Date} {write : Tables → α × Tables}
    (same : ∀ tables : Tables,
      (write tables).2.schedules.filter (·.1 != date.text) =
          tables.schedules.filter (·.1 != date.text) ∧
      (write tables).2.rows.filter (·.date != date.text) = tables.rows.filter (·.date != date.text))
    (store : TableStore) : rowsBesides date (writing write store).2 = rowsBesides date store := by
  unfold writing
  split
  · rfl
  · exact Prod.ext (same store.tables).1 (same store.tables).2

theorem rowsBesides_addEvent (date other : Date) (title : String) (store : TableStore) :
    rowsBesides date (store.addEvent other title).2 = rowsBesides date store := by
  unfold addEvent Tables.addEvent
  dsimp only
  cases Event.fullDay (store.tables.lastHandle + 1) other title with
  | error error => rfl
  | ok event =>
    dsimp only
    split_ifs <;> rfl

theorem rowsBesides_createMarker (date other : Date) (patternName : String) (store : TableStore) :
    rowsBesides date (store.createMarker other patternName).2 = rowsBesides date store := by
  unfold createMarker
  split
  · rfl
  · dsimp only
    split_ifs
    · rfl
    · split
      · rfl
      · rename_i handle after added
        have kept := congrArg (fun ran => rowsBesides date ran.2) added
        exact kept.symm.trans (rowsBesides_addEvent date other _ _)

theorem leaves (date : Date) : Backend.Leaves date (rowsBesides date) where
  fetch _ _ := rfl
  entries _ := rfl
  replace remaps patternName := rowsBesides_writing fun tables => by
    simp [Tables.replace, Tables.clear, StoredRow.ofRow]
  rows _ _ := rfl
  clear := rowsBesides_writing fun tables => by simp [Tables.clear]
  record _ _ := rfl
  specialDates _ _ _ := rfl
  findMarker _ _ := rfl
  createMarker := rowsBesides_createMarker date date
  deleteMarker handle store := by
    show rowsBesides date (store.deleteMarker handle).2 = _
    unfold deleteMarker
    dsimp only
    split_ifs <;> rfl

theorem rowsBesides_eq {store : TableStore} {records : List Record} {view : View} {date : Date}
    (shown : store.ShowsRecords records view) (missing : view.recordOn date = none) :
    rowsBesides date store = (store.tables.schedules, store.tables.rows) := by
  have all : records.filter (·.date != date) = records := by
    rw [shown.recordOn] at missing
    exact List.filter_eq_self.mpr fun record member => by
      simpa using List.find?_eq_none.mp missing record member
  rw [rowsBesides, shown.holds.schedules, shown.holds.rows, Tables.filter_schedules_ne,
    Tables.filter_rows_ne, all]

/-- The same holds of the tables. -/
theorem eq_of_shows {store other : TableStore} {view : View} {date : Date}
    (shown : store.Shows view) (shownToo : other.Shows view)
    (besides : rowsBesides date store = rowsBesides date other)
    (missing : view.recordOn date = none) :
    store = { other with tables := { other.tables with lastHandle := store.tables.lastHandle } } := by
  obtain ⟨records, shown⟩ := shown
  obtain ⟨others, shownToo⟩ := shownToo
  rw [rowsBesides_eq shown missing, rowsBesides_eq shownToo missing] at besides
  have entries := shown.entries.symm.trans shownToo.entries
  have events := shown.holds.events.trans shownToo.holds.events.symm
  have lead := shown.lead.symm.trans shownToo.lead
  have readOnly := shown.writable.trans shownToo.writable.symm
  obtain ⟨⟨_, _, _, _, last⟩, _, _⟩ := store
  obtain ⟨⟨_, _, _, _, otherLast⟩, _, _⟩ := other
  obtain ⟨schedules, rows⟩ := Prod.mk.inj besides
  dsimp only at entries events lead readOnly schedules rows ⊢
  rw [entries, events, lead, readOnly, schedules, rows]

end TableStore

namespace View

/-- What an application leaves on a date with nothing special, a removal takes away. -/
theorem remove_applied {view : View} {date : Date} {event : Event} {record : Record}
    (applied : ((view.marked date event).withRecord date (some record)).Valid)
    (permitted : view.permitted = true) (isMarker : view.isMarkerOn date event = true)
    (missing : view.recordOn date = none) (unmarked : view.markersOn date = []) :
    ((view.marked date event).withRecord date (some record)).remove date = (.ok true, view) := by
  have one : ((view.marked date event).withRecord date (some record)).markersOn date = [event] := by
    rw [withRecord_markersOn, markersOn_marked isMarker]
  have deletions : ((view.marked date event).withRecord date (some record)).deletions =
      Engine.markerDeletions := if_pos permitted
  have few : (((view.marked date event).withRecord date (some record)).markersOn date).length ≤
      ((view.marked date event).withRecord date (some record)).deletions := by
    rw [one, deletions, List.length_singleton]
    decide
  refine Prod.ext ?_ ?_
  · rw [remove, withRecord_recordOn_self]
    simp
  · rw [remove_eq_cleared applied few, cleared_withRecord, cleared_marked isMarker,
      cleared_eq_self missing unmarked]

end View

namespace Session

/-- The session with another number for the next event and other calls noted. -/
def numbering (next : Int) (calls : List Call) : Session → Session
  | memory state =>
    let calendar := { state.base.calendar with nextHandle := next }
    memory { state with base := { state.base with calendar }, calls }
  | tables inFile state =>
    let tables := { state.base.tables with lastHandle := next - 1 }
    .tables inFile { state with base := { state.base with tables }, calls }

/-- Looks at a date that has a record change nothing. -/
theorem Shows.runAll_looks {session : Session} {view : View} {date : Date} {record : Record}
    (shown : session.Shows view) (recorded : view.recordOn date = some record) (reads : Nat) :
    (session.runAll (List.replicate reads (.effective date))).Shows view ∧
      (session.runAll (List.replicate reads (.effective date))).next = session.next := by
  induction reads generalizing session with
  | zero => exact ⟨shown, rfl⟩
  | succ reads ih =>
    obtain ⟨looked, still⟩ := shown.run_numbered (.effective date) (Act.ne_setFault rfl)
    rw [View.after, View.remapsFor_recorded recorded] at looked
    obtain ⟨shows, same⟩ := ih looked
    exact ⟨shows, same.trans (still.trans (add_zero _))⟩

/-- The sessions are of one kind and have the same records of other dates. -/
def SameBesides (date : Date) : Session → Session → Prop
  | memory left, memory right =>
    left.base.recordsBesides date = right.base.recordsBesides date
  | tables inFile left, tables alsoInFile right =>
    inFile = alsoInFile ∧ left.base.rowsBesides date = right.base.rowsBesides date
  | _, _ => False

theorem SameBesides.run {left right : Session} {date : Date} {step : Step}
    (same : SameBesides date left right) (schedules : step.Schedules date) :
    SameBesides date (left.run step).2 right := by
  match left, right with
  | memory left, memory right =>
    exact (step.run_leaves (Memory.leaves date) (fun _ _ => rfl) schedules left).trans same
  | tables inFile left, tables alsoInFile right =>
    exact ⟨same.1,
      (step.run_leaves (TableStore.leaves date) (fun _ _ => rfl) schedules left).trans same.2⟩

theorem SameBesides.runAll {left right : Session} {date : Date} {steps : List Step}
    (same : SameBesides date left right) (schedule : ∀ step ∈ steps, step.Schedules date) :
    SameBesides date (left.runAll steps) right := by
  induction steps generalizing left with
  | nil => exact same
  | cons step steps ih =>
    obtain ⟨schedules, rest⟩ := List.forall_mem_cons.mp schedule
    exact ih (same.run schedules) rest

theorem SameBesides.refl (date : Date) (session : Session) : SameBesides date session session := by
  cases session with
  | memory state => exact Eq.refl _
  | tables inFile state => exact ⟨rfl, rfl⟩

/-- A session is known by what it shows and by the records of other dates, but for the number
of the next event and the calls noted. -/
theorem SameBesides.eq_numbering {left right : Session} {view : View} {date : Date}
    (same : SameBesides date left right) (shown : left.Shows view) (shownToo : right.Shows view)
    (missing : view.recordOn date = none) : ∃ calls, left = right.numbering left.next calls := by
  match left, right with
  | memory left, memory right =>
    obtain ⟨calm, -, shows⟩ := shown
    obtain ⟨calmToo, -, showsToo⟩ := shownToo
    have base := Memory.eq_of_view_eq (shows.trans showsToo.symm) same
      ((congrFun (congrArg View.recordOn shows) date).trans missing)
    refine ⟨left.calls, ?_⟩
    obtain ⟨leftBase, calls, faults⟩ := left
    obtain ⟨rightBase, _, _⟩ := right
    obtain rfl : faults = [] := calm
    obtain rfl := calmToo
    exact congrArg (fun base => memory ⟨base, calls, []⟩) base
  | tables inFile left, tables alsoInFile right =>
    obtain ⟨rfl, besides⟩ := same
    obtain ⟨calm, shows⟩ := shown
    obtain ⟨calmToo, showsToo⟩ := shownToo
    have base := TableStore.eq_of_shows shows showsToo besides missing
    have last : Session.next (tables inFile left) - 1 = left.base.tables.lastHandle :=
      add_sub_cancel_right _ _
    refine ⟨left.calls, ?_⟩
    rw [numbering, last]
    obtain ⟨leftBase, calls, faults⟩ := left
    obtain ⟨rightBase, _, _⟩ := right
    obtain rfl : faults = [] := calm
    obtain rfl := calmToo
    exact congrArg (fun base => tables inFile ⟨base, calls, []⟩) base

/-- On a date without anything special, a removal takes back what was applied, however often
the schedule was read in between: the session is what it was before, but for one number given
out and the calls noted. -/
theorem remove_takes_back {session : Session} {date : Date} {patternName : String} {day : Weekday}
    {custom? : Option String} {flag : Bool} (reachable : session.Reachable)
    (calm : session.faults = []) (unrecorded : (session.run (.record date)).1 = .record none)
    (unmarked : session.markersOn date = [])
    (answered : (session.run (.applyOn date patternName day custom?)).1 = .flag flag)
    (reads : Nat) :
    let used := (session.run (.applyOn date patternName day custom?)).2.runAll
      (List.replicate reads (.effective date))
    (used.run (.remove date)).1 = .flag true ∧
      ∃ calls, (used.run (.remove date)).2 = session.numbering (session.next + 1) calls := by
  intro used
  obtain ⟨view, shown⟩ := reachable.shows calm
  have missing : view.recordOn date = none :=
    Outcome.record.inj ((shown.record date).1.symm.trans unrecorded)
  have empty : view.markersOn date = [] := (shown.markersOn date).symm.trans unmarked
  obtain ⟨permitted, -, _, _, stands, -⟩ := shown.applyOn_ok answered
  obtain ⟨event, made, -, applied, moved⟩ :=
    shown.applies permitted (Event.followed_of_fullDay stands) patternName day custom?
  obtain ⟨looked, still⟩ := applied.runAll_looks (View.withRecord_recordOn_self _ _ _) reads
  have removes := looked.remove date
  rw [View.remove_applied looked.valid permitted (View.isMarkerOn_of_fullDay made) missing empty]
    at removes
  obtain ⟨removed, shows⟩ := removes
  -- The marker takes the one number, and no later step takes another.
  have next : (used.run (.remove date)).2.next = session.next + 1 := by
    obtain ⟨-, stillToo⟩ := looked.run_numbered (.remove date) (Act.ne_setFault rfl)
    exact (stillToo.trans (add_zero _)).trans (still.trans moved)
  have besides : SameBesides date (used.run (.remove date)).2 session := by
    have schedule : ∀ step ∈ List.replicate reads (Step.effective date), step.Schedules date := by
      intro step member
      rw [List.eq_of_mem_replicate member]
      exact rfl
    have applying : (Step.applyOn date patternName day custom?).Schedules date := rfl
    have removing : (Step.remove date).Schedules date := rfl
    exact (((SameBesides.refl date session).run applying).runAll schedule).run removing
  obtain ⟨calls, same⟩ := besides.eq_numbering shows shown missing
  exact ⟨removed, calls, next ▸ same⟩

/-- A session with ordinary events around a date that has a record of its own. -/
def planned : Session :=
  emptyTables.runAll [.addEvent monday "会議", .apply lastPlain "短縮A時程" none,
    .addEvent monday "行事"]

theorem remove_takes_back_planned :
    planned.Reachable ∧ planned.faults = [] ∧
      (planned.run (.record monday)).1 = .record none ∧ planned.markersOn monday = [] ∧
      (planned.run (.applyOn monday "特殊" .friday (some "火2→金1"))).1 = .flag true ∧
      ∃ calls, (((planned.run (.applyOn monday "特殊" .friday (some "火2→金1"))).2.runAll
        (List.replicate 3 (.effective monday))).run (.remove monday)).2 =
          planned.numbering (planned.next + 1) calls := by
  have reachable : planned.Reachable := reachable_emptyTables.runAll _
  have unrecorded : (planned.run (.record monday)).1 = .record none := by rfl
  have unmarked : planned.markersOn monday = [] := by rfl
  have answered : (planned.run (.applyOn monday "特殊" .friday (some "火2→金1"))).1 = .flag true := by
    rfl
  obtain ⟨-, back⟩ := remove_takes_back reachable rfl unrecorded unmarked answered 3
  exact ⟨reachable, rfl, unrecorded, unmarked, answered, back⟩

end Session

end SchoolWeek
