import Mathlib
import SchoolWeek.Proofs.Reachable
import SchoolWeek.Proofs.Storing

/-! Tables of any content, also of one that the program would never write into them. Where
the special schedule of a date cannot be read the date has its normal classes, and looking
at it leaves the tables as they are. Writing does not read what it replaces, and so it mends
the date. -/
namespace SchoolWeek

namespace Engine

variable {σ : Type} [Backend σ] {date : Date} {state read found after : σ}

theorem remapsFor_of_rows_unread {error : StoreError}
    (rows : Backend.rows date state = (.error error, after)) :
    remapsFor date state = ([], after) := by
  rw [remapsFor, Backend.storedRemaps, rows]
  rfl

/-- A date with neither rows nor a record is left to its marker. -/
theorem remapsFor_of_unrecorded (rows : Backend.rows date state = (.ok [], read))
    (record : Backend.record date read = (.ok none, found)) :
    remapsFor date state = remapsFromMarker date found := by
  rw [remapsFor, Backend.storedRemaps, rows]
  simp only [Except.map, Remap.regroup, List.foldl_nil, record]

theorem effectiveSchedule_of_no_remaps (none : remapsFor date state = ([], after)) :
    effectiveSchedule date state = normalSchedule date after := by
  rw [effectiveSchedule, none]

end Engine

namespace Tables

/-- The special schedule of a date cannot be read: not its rows; or there are none, nor a
record, and the events of the date cannot be read. -/
def Unreadable (tables : Tables) (date : Date) : Prop :=
  (∃ error, tables.rowsOn date = .error error) ∨
    tables.rowsOn date = .ok [] ∧ tables.recordOn date = .ok none ∧
      ∃ error, tables.eventsOn date = .error error

/-- Clearing a date leaves no row under its key, whatever the rows hold. -/
theorem rowsOn_clear (tables : Tables) (date : Date) :
    (tables.clear date).2.rowsOn date = .ok [] := by
  have gone : (tables.rows.filter (·.date != date.text)).filter (·.date == date.text) = [] := by
    simp [List.filter_filter]
  rw [rowsOn, clear, gone]
  rfl

theorem recordOn_clear (tables : Tables) (date : Date) :
    (tables.clear date).2.recordOn date = .ok none := by
  have gone : (tables.clear date).2.patternOn? date = none := by
    refine List.lookup_eq_none_iff.mpr fun row member => ?_
    have other : (row.1 != date.text) = true := (List.mem_filter.mp member).2
    exact bne_iff_ne.mpr (bne_iff_ne.mp other).symm
  rw [recordOn, gone]

end Tables

namespace Traced

variable {state : Traced TableStore} {date : Date}

/-- The state with one more call noted. -/
def noting (call : Call) (state : Traced TableStore) : Traced TableStore :=
  { state with calls := state.calls ++ [call] }

/-- Reading tables while no fault waits only notes the call. -/
theorem noted_reading {α : Type} {read : Tables → Except DataError α} (call : Call)
    (calm : state.faults = []) :
    noted call storeFault (TableStore.reading read) state =
      ((read state.base.tables).mapError .badData, state.noting call) :=
  noted_of_calm call storeFault calm

theorem rows_eq (calm : state.faults = []) : Backend.rows date state =
    ((state.base.tables.rowsOn date).mapError .badData, state.noting .rows) :=
  noted_reading .rows calm

theorem record_eq (calm : state.faults = []) : Backend.record date state =
    ((state.base.tables.recordOn date).mapError .badData, state.noting .record) :=
  noted_reading .record calm

/-- The state with other tables in it, after the call that wrote them. -/
def holding (tables : Tables) (call : Call) (state : Traced TableStore) : Traced TableStore :=
  { state.noting call with base := { state.base with tables } }

/-- A change of tables that are open to writing is made. -/
theorem noted_writing {α : Type} {write : Tables → α × Tables} (call : Call)
    (calm : state.faults = []) (writable : state.base.isReadOnly = false) :
    noted call storeFault (TableStore.writing write) state =
      (.ok (write state.base.tables).1, state.holding (write state.base.tables).2 call) := by
  have writes : TableStore.writing write state.base =
      (.ok (write state.base.tables).1,
        { state.base with tables := (write state.base.tables).2 }) :=
    if_neg (ne_true_of_eq_false writable)
  rw [noted_of_calm call storeFault calm, below, writes]
  rfl

/-- The normal classes are read from the tables alone, whatever calls were noted before. -/
theorem normalSchedule_eq (calm : state.faults = []) :
    Engine.normalSchedule date state =
      ((Entry.sortByPeriod (state.base.tables.entries.filter (·.day == date.weekday))).map
        Slot.ofEntry, state.noting .fetch) := by
  have fetched : Backend.fetch date.weekday state =
      (.ok (Entry.sortByPeriod (state.base.tables.entries.filter (·.day == date.weekday))),
        state.noting .fetch) := noted_of_calm .fetch storeFault calm
  rw [Engine.normalSchedule, Engine.classesOn, fetched]

/-- Looking for the remaps of an unreadable date finds none and changes nothing. -/
theorem remapsFor_of_unreadable (calm : state.faults = [])
    (unreadable : state.base.tables.Unreadable date) :
    ∃ calls, Engine.remapsFor date state = ([], { state with calls }) := by
  have rows : Backend.rows date state =
      ((state.base.tables.rowsOn date).mapError .badData, state.noting .rows) := rows_eq calm
  rcases unreadable with ⟨error, unread⟩ | ⟨empty, unrecorded, error, unread⟩
  · rw [unread] at rows
    exact ⟨_, Engine.remapsFor_of_rows_unread rows⟩
  · have record : Backend.record date (state.noting .rows) =
        ((state.base.tables.recordOn date).mapError .badData,
          (state.noting .rows).noting .record) :=
      record_eq calm
    have marker : Backend.findMarker date ((state.noting .rows).noting .record) =
        (state.base.findMarker date, ((state.noting .rows).noting .record).noting .findMarker) :=
      noted_of_calm .findMarker _ calm
    rw [empty] at rows
    rw [unrecorded] at record
    rw [TableStore.findMarker, unread] at marker
    refine ⟨state.calls ++ [.rows] ++ [.record] ++ [.findMarker], ?_⟩
    rw [Engine.remapsFor_of_unrecorded rows record, Engine.remapsFromMarker, marker]
    rfl

theorem run_effective_of_unreadable (calm : state.faults = [])
    (unreadable : state.base.tables.Unreadable date) :
    ((Step.effective date).run state).1 = ((Step.normal date).run state).1 ∧
      ∃ calls, ((Step.effective date).run state).2 = { state with calls } := by
  obtain ⟨calls, nothing⟩ := remapsFor_of_unreadable calm unreadable
  have shown : Engine.effectiveSchedule date state =
      Engine.normalSchedule date { state with calls } :=
    Engine.effectiveSchedule_of_no_remaps nothing
  rw [normalSchedule_eq (show ({ state with calls } : Traced TableStore).faults = [] from calm)]
    at shown
  refine ⟨?_, _, congrArg Prod.snd shown⟩
  show Outcome.slots (Engine.effectiveSchedule date state).1 =
    .slots (Engine.normalSchedule date state).1
  rw [shown, normalSchedule_eq calm]

/-- A new record is read back, whatever rows the date had before. -/
theorem run_replace (calm : state.faults = []) (writable : state.base.isReadOnly = false)
    (date : Date) (remaps : List Remap) (patternName : String) :
    let written := (Step.replace date remaps patternName).run state
    written.1 = .done ∧
      ((Step.rows date).run written.2).1 = .rows (Remap.flatten remaps patternName) := by
  have written : Backend.replace date remaps patternName state =
      (.ok (), state.holding (state.base.tables.replace date remaps patternName) .replace) :=
    noted_writing .replace calm writable
  have stillCalm : (Backend.replace date remaps patternName state).2.faults = [] := by
    rw [written]
    exact calm
  dsimp only [Step.run, Outcome.of]
  rw [rows_eq stillCalm, written]
  refine ⟨rfl, ?_⟩
  show Outcome.ofStore .rows (((state.base.tables.replace _ _ _).rowsOn date).mapError _) = _
  rw [Tables.rowsOn_replace]
  rfl

theorem run_clear (calm : state.faults = []) (writable : state.base.isReadOnly = false)
    (date : Date) :
    let cleared := (Step.clear date).run state
    (∃ found, cleared.1 = .flag found) ∧ ((Step.rows date).run cleared.2).1 = .rows [] ∧
      ((Step.record date).run cleared.2).1 = .record none := by
  have cleared : Backend.clear date state = (.ok (state.base.tables.clear date).1,
      state.holding (state.base.tables.clear date).2 .clear) :=
    noted_writing .clear calm writable
  have stillCalm : (Backend.clear date state).2.faults = [] := by
    rw [cleared]
    exact calm
  dsimp only [Step.run, Outcome.of]
  rw [rows_eq stillCalm, record_eq stillCalm, cleared]
  refine ⟨⟨_, rfl⟩, ?_, ?_⟩
  · show Outcome.ofStore .rows (((state.base.tables.clear date).2.rowsOn date).mapError _) = _
    rw [Tables.rowsOn_clear]
    rfl
  · show Outcome.ofStore .record (((state.base.tables.clear date).2.recordOn date).mapError _) = _
    rw [Tables.recordOn_clear]
    rfl

/-- Whatever the tables hold, a look at a date shows classes. If its special schedule cannot be
read they are the normal ones, and looking changes nothing but the calls. Writing a record or
clearing the date goes past all that was stored under it. -/
theorem unreadable_until_written (calm : state.faults = []) (date : Date) :
    (∃ slots, ((Step.effective date).run state).1 = .slots slots) ∧
      (state.base.tables.Unreadable date →
        ((Step.effective date).run state).1 = ((Step.normal date).run state).1 ∧
          ∃ calls, ((Step.effective date).run state).2 = { state with calls }) ∧
      (state.base.isReadOnly = false →
        (∀ remaps patternName,
          let written := (Step.replace date remaps patternName).run state
          written.1 = .done ∧
            ((Step.rows date).run written.2).1 = .rows (Remap.flatten remaps patternName)) ∧
        let cleared := (Step.clear date).run state
        (∃ found, cleared.1 = .flag found) ∧ ((Step.rows date).run cleared.2).1 = .rows [] ∧
          ((Step.record date).run cleared.2).1 = .record none) :=
  ⟨⟨_, rfl⟩, run_effective_of_unreadable calm, fun writable =>
    ⟨run_replace calm writable date, run_clear calm writable date⟩⟩

/-- A record whose second row is on an eighth weekday, with a marker beside it. -/
def damaged : Traced TableStore := .ofBackend
  { tables := { Tables.empty with
      entries := [⟨.monday, 1, "数学", none, none⟩]
      schedules := [("2025-01-06", "短縮A時程")]
      rows := [⟨"2025-01-06", 0, 1, 1, 2, "短縮A時程"⟩, ⟨"2025-01-06", 7, 0, 10, 1, "短縮A時程"⟩]
      events := [⟨1, "2025-01-06", "テスト時程", "2025-01-06T00:00:00", "tomorrow", true⟩] }
    lead := Marker.defaultLead }

theorem unreadable_until_written_damaged :
    damaged.faults = [] ∧ damaged.base.isReadOnly = false ∧
      damaged.base.tables.Unreadable Session.monday ∧
      ((Step.effective Session.monday).run damaged).1 =
        ((Step.normal Session.monday).run damaged).1 ∧
      ((Step.rows Session.monday).run
        ((Step.replace Session.monday [] "短縮B時程").run damaged).2).1 = .rows [] := by
  have unreadable : damaged.base.tables.Unreadable Session.monday :=
    .inl ⟨.weekday 7, by decide +kernel⟩
  obtain ⟨-, normal, mended⟩ := @unreadable_until_written damaged rfl Session.monday
  exact ⟨rfl, rfl, unreadable, (normal unreadable).1, ((mended rfl).1 [] "短縮B時程").2⟩

/-- A row without a record, on a date with an event that cannot be read. -/
def strayRow : Traced TableStore := .ofBackend
  { tables := { Tables.empty with
      entries := [⟨.monday, 1, "数学", none, none⟩]
      rows := [⟨"2025-01-06", 0, 0, 1, 2, "x"⟩]
      events := [⟨1, "2025-01-06", "テスト時程", "bad", "bad", true⟩]
      lastHandle := 1 }
    lead := Marker.defaultLead }

/-- The rows come first: where they can be read, it does not matter that there is no record and
that the events cannot be read. -/
theorem strayRow_decides :
    strayRow.faults = [] ∧
      ((Step.record Session.monday).run strayRow).1 = .record none ∧
      (∃ error, ((Step.events Session.monday).run strayRow).1 = .storeError error) ∧
      ((Step.effective Session.monday).run strayRow).1 ≠
        ((Step.normal Session.monday).run strayRow).1 := by
  refine ⟨rfl, by rfl, ⟨_, by rfl⟩, fun same => ?_⟩
  have slots := Outcome.slots.inj same
  revert slots
  decide +kernel

end Traced

end SchoolWeek
