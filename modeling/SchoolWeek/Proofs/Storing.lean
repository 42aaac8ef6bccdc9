import Mathlib
import SchoolWeek.Proofs.Application
import SchoolWeek.Proofs.CheckedTimetable
import SchoolWeek.Proofs.Rereading

/-! Storing remaps and gathering them again. The remaps come back as they were exactly if each
of them pairs some periods and no two go between the same days. In any case the same classes
are moved, and a merge lists them in the old order as far as they go between the same days. -/
namespace SchoolWeek

namespace Remap

/-- The days that a remap goes between. -/
def days (remap : Remap) : Weekday × Weekday := (remap.source, remap.target)

/-- Which period of which day goes where, one move for each pair of periods. -/
def moves (remap : Remap) : List (Weekday × Period × Weekday × Period) :=
  remap.pairs.map fun pair => (remap.source, pair.1, remap.target, pair.2)

theorem days_of_mem_rows {remap : Remap} {patternName : String} {row : Row}
    (member : row ∈ remap.rows patternName) : row.days = remap.days := by
  obtain ⟨pair, _, rfl⟩ := List.mem_map.mp member
  rfl

theorem flatten_cons (remap : Remap) (remaps : List Remap) (patternName : String) :
    flatten (remap :: remaps) patternName =
      remap.rows patternName ++ flatten remaps patternName := List.flatMap_cons

theorem days_mem_of_mem_flatten {remaps : List Remap} {patternName : String} {row : Row}
    (member : row ∈ flatten remaps patternName) : row.days ∈ remaps.map days := by
  obtain ⟨remap, listed, inside⟩ := List.mem_flatMap.mp member
  rw [days_of_mem_rows inside]
  exact List.mem_map_of_mem listed

/-- Remaps that all pair some periods name their days once each, if no days come twice. -/
theorem dayPairs_flatten {remaps : List Remap} (distinct : (remaps.map days).Nodup)
    (paired : ∀ remap ∈ remaps, remap.pairs ≠ []) (patternName : String) :
    dayPairs (flatten remaps patternName) = remaps.map days := by
  induction remaps with
  | nil => rfl
  | cons remap remaps ih =>
    obtain ⟨alone, distinct⟩ := List.nodup_cons.mp distinct
    obtain ⟨pair, pairs, some⟩ := List.exists_cons_of_ne_nil (paired remap List.mem_cons_self)
    have own : ((remap.rows patternName).map Row.days).eraseDups = [remap.days] := by
      rw [rows, some, List.map_cons, List.map_cons, List.eraseDups_cons, List.map_map,
        List.filter_eq_nil_iff.mpr]
      · rfl
      · intro other member
        obtain ⟨_, _, rfl⟩ := List.mem_map.mp member
        simp [Row.days]
    have others : ((flatten remaps patternName).map Row.days).removeAll
        ((remap.rows patternName).map Row.days) = (flatten remaps patternName).map Row.days := by
      refine List.filter_eq_self.mpr fun other member => ?_
      obtain ⟨row, listed, rfl⟩ := List.mem_map.mp member
      have elsewhere : row.days ∉ (remap.rows patternName).map Row.days := fun inside => by
        obtain ⟨first, isFirst, same⟩ := List.mem_map.mp inside
        rw [days_of_mem_rows isFirst] at same
        exact alone (same ▸ days_mem_of_mem_flatten listed)
      simpa using elsewhere
    rw [dayPairs, flatten_cons, List.map_append, List.eraseDups_append, own, others,
      ← dayPairs, ih distinct fun other listed => paired other (List.mem_cons_of_mem _ listed)]
    rfl

/-- If no days come twice, the rows that go between the days of a remap are its own. -/
theorem filter_flatten {remaps : List Remap} (distinct : (remaps.map days).Nodup)
    (patternName : String) {remap : Remap} (member : remap ∈ remaps) :
    (flatten remaps patternName).filter (·.days == remap.days) = remap.rows patternName := by
  induction remaps with
  | nil => cases member
  | cons first rest ih =>
    obtain ⟨alone, distinct⟩ := List.nodup_cons.mp distinct
    rw [flatten_cons, List.filter_append]
    rcases List.mem_cons.mp member with rfl | later
    · have all : (remap.rows patternName).filter (·.days == remap.days) =
          remap.rows patternName :=
        List.filter_eq_self.mpr fun row inside => by simp [days_of_mem_rows inside]
      have none : (flatten rest patternName).filter (·.days == remap.days) = [] :=
        List.filter_eq_nil_iff.mpr fun row inside same =>
          alone (beq_iff_eq.mp same ▸ days_mem_of_mem_flatten inside)
      rw [all, none, List.append_nil]
    · have none : (first.rows patternName).filter (·.days == remap.days) = [] :=
        List.filter_eq_nil_iff.mpr fun row inside same => by
          rw [days_of_mem_rows inside, beq_iff_eq] at same
          exact alone (same ▸ List.mem_map_of_mem later)
      rw [none, List.nil_append, ih distinct later]

theorem ofDays_rows {rows : List Row} {remap : Remap} {patternName : String}
    (own : rows.filter (·.days == remap.days) = remap.rows patternName) :
    ofDays rows remap.days = remap := by
  rw [ofDays, own, Remap.rows, List.map_map]
  exact congrArg (Remap.mk remap.source remap.target) (List.map_id _)

/-- Remaps can be told from their rows exactly if each pairs some periods and no two go
between the same days. -/
theorem regroup_flatten_eq_iff {remaps : List Remap} (patternName : String) :
    regroup (flatten remaps patternName) = remaps ↔
      (remaps.map days).Nodup ∧ ∀ remap ∈ remaps, remap.pairs ≠ [] := by
  rw [regroup_eq]
  constructor
  · intro same
    have keys : remaps.map days = dayPairs (flatten remaps patternName) := by
      conv_lhs => rw [← same]
      rw [List.map_map]
      exact List.map_id _
    refine ⟨keys ▸ dayPairs_nodup _, fun remap member => ?_⟩
    rw [← same] at member
    obtain ⟨pair, listed, rfl⟩ := List.mem_map.mp member
    obtain ⟨row, named, rfl⟩ := List.mem_map.mp (List.mem_eraseDups.mp listed)
    refine List.ne_nil_of_mem (List.mem_map_of_mem (a := row) ?_)
    exact List.mem_filter.mpr ⟨named, beq_self_eq_true _⟩
  · rintro ⟨distinct, paired⟩
    rw [dayPairs_flatten distinct paired, List.map_map]
    refine (List.map_congr_left fun remap member => ?_).trans (List.map_id _)
    exact ofDays_rows (filter_flatten distinct patternName member)

/-- The moves of remaps are those of their rows. -/
theorem flatMap_moves (remaps : List Remap) (patternName : String) :
    remaps.flatMap moves = (flatten remaps patternName).map fun row =>
      (row.source, row.sourcePeriod, row.target, row.targetPeriod) := by
  rw [flatten, List.map_flatMap]
  refine List.flatMap_congr fun remap _ => ?_
  rw [rows, List.map_map]
  rfl

theorem flatten_regroup_flatten_perm (remaps : List Remap) (patternName : String) :
    (flatten (regroup (flatten remaps patternName)) patternName).Perm
      (flatten remaps patternName) := by
  rw [flatten_regroup fun row => patternName_of_mem_flatten]
  exact gatherBy_perm (dayPairs_nodup _) fun row => mem_dayPairs

end Remap

namespace Slot

/-- The day that a copied class comes from, read off its origin. -/
def source? (slot : Slot) : Option Weekday :=
  slot.origin?.bind fun origin => origin.toList[1]?.bind Weekday.ofGlyph?

/-- The class was copied from the first of the days to the second. -/
def isBetween (days : Weekday × Weekday) (slot : Slot) : Bool :=
  slot.source? == some days.1 && slot.day == days.2

end Slot

namespace View

theorem isBetween_of_slotOf {view : View} {row : Row} {slot : Slot}
    (copied : view.slotOf row = some slot) (days : Weekday × Weekday) :
    slot.isBetween days = (row.days == days) := by
  obtain ⟨entry, _, rfl⟩ := Option.map_eq_some_iff.mp copied
  have source : (Slot.copied ⟨row.source, row.target, []⟩ row.sourcePeriod row.targetPeriod
      entry).source? = some row.source := by
    simp [Slot.source?, Slot.copied, Slot.originText, Weekday.ofGlyph?_glyph]
  rw [Slot.isBetween, source]
  rfl

/-- The classes copied between two days, row by row. -/
theorem filter_isBetween (view : View) (rows : List Row) (days : Weekday × Weekday) :
    (rows.filterMap view.slotOf).filter (·.isBetween days) =
      (rows.filter (·.days == days)).filterMap view.slotOf := by
  rw [List.filter_filterMap, List.filterMap_filter]
  refine List.filterMap_congr fun row _ => ?_
  cases copied : view.slotOf row with
  | none => simp
  | some slot => simp [Option.filter, isBetween_of_slotOf copied]

/-- Gathering rows keeps the classes that are copied between two days in their order. -/
theorem filter_merge_regroup (view : View) (remaps : List Remap) (patternName : String)
    (days : Weekday × Weekday) :
    (view.merge (Remap.regroup (Remap.flatten remaps patternName))).filter (·.isBetween days) =
      (view.merge remaps).filter (·.isBetween days) := by
  have level : ((Remap.flatten remaps patternName).filter (·.days == days)).Pairwise
      fun early late =>
        (Remap.dayPairs (Remap.flatten remaps patternName)).idxOf early.days ≤
          (Remap.dayPairs (Remap.flatten remaps patternName)).idxOf late.days := by
    refine List.pairwise_of_forall_mem_list fun early isEarly late isLate => le_of_eq ?_
    rw [beq_iff_eq.mp (List.mem_filter.mp isEarly).2, beq_iff_eq.mp (List.mem_filter.mp isLate).2]
  rw [view.merge_eq _ patternName, view.merge_eq _ patternName, filter_isBetween,
    filter_isBetween, Remap.flatten_regroup fun row => Remap.patternName_of_mem_flatten,
    gatherBy_filter, (gatherBy_eq_self_iff (Remap.dayPairs_nodup _) fun row member =>
      Remap.mem_dayPairs (List.mem_filter.mp member).1).mpr level]

end View

/-- What was under the key of the date before plays no part in what is read after it is
written. -/
theorem Tables.rowsOn_replace (tables : Tables) (date : Date) (remaps : List Remap)
    (patternName : String) :
    (tables.replace date remaps patternName).rowsOn date =
      .ok (Remap.flatten remaps patternName) := by
  have gone : (tables.rows.filter (·.date != date.text)).filter (·.date == date.text) = [] := by
    simp [List.filter_filter]
  have new : ((Remap.flatten remaps patternName).map (StoredRow.ofRow date)).filter
      (·.date == date.text) = (Remap.flatten remaps patternName).map (StoredRow.ofRow date) :=
    List.filter_eq_self.mpr fun stored member => by
      obtain ⟨row, _, rfl⟩ := List.mem_map.mp member
      simp [StoredRow.ofRow]
  rw [Tables.rowsOn, Tables.replace, Tables.clear, List.filter_append, gone, new, List.nil_append]
  exact mapM_map_eq_ok fun row _ => StoredRow.toRow_ofRow date row

theorem Memory.recordOn?_replace (memory : Memory) (date : Date) (remaps : List Remap)
    (patternName : String) :
    (memory.replace date remaps patternName).recordOn? date =
      some ⟨date, patternName, Remap.flatten remaps patternName⟩ :=
  (find?_insertRecord _ memory.records date).trans (if_pos rfl)

/-- A view with nothing in it but the timetable. -/
def Timetable.shown (timetable : Timetable) : View where
  entries := timetable.stored
  recordOn _ := none
  events := []
  lead := ""
  permitted := true

namespace Traced

variable {σ : Type} [Backend σ] {base : σ} {traced : Traced σ}

omit [Backend σ] in
/-- While no fault waits, an operation answers as it does below, and no fault waits after it. -/
theorem noted_eq {ε α : Type} {operation : Operation σ ε α} (call : Call)
    (failed : Fault → Except ε α) (calm : traced.faults = []) :
    noted call failed operation traced = ((operation traced.base).1,
      ⟨(operation traced.base).2, traced.calls ++ [call], []⟩) := by
  rw [noted_of_calm call failed calm, below, calm]

/-- The classes of a day are then read as they are below, and can be read again. -/
theorem classesOn_eq {classes : Weekday → List Entry}
    (fetches : ∀ day, Backend.fetch day base = (.ok (classes day), base)) (day : Weekday)
    (before : traced.faults = [] ∧ traced.base = base) :
    (Engine.classesOn day traced).1 = classes day ∧
      (Engine.classesOn day traced).2.faults = [] ∧
      (Engine.classesOn day traced).2.base = base := by
  have fetched : Backend.fetch day traced = (.ok (classes day), _) :=
    (noted_eq .fetch storeFault before.1).trans (by rw [before.2, fetches])
  rw [Engine.classesOn, fetched]
  exact ⟨rfl, rfl, rfl⟩

theorem merge_eq {classes : Weekday → List Entry} (calm : traced.faults = [])
    (fetches : ∀ day, Backend.fetch day traced.base = (.ok (classes day), traced.base))
    (remaps : List Remap) :
    (Engine.merge remaps traced).1 =
      remaps.flatMap fun remap => Engine.copies remap (classes remap.source) :=
  (Engine.mergeKnowing_eq (classesOn_eq fetches) [] remaps ⟨calm, rfl⟩ (by simp)).1

/-- What is read back is what the backend below reads after its own writing. -/
theorem storedRemaps_replace [EventBook σ] {after : σ} {date : Date} {remaps : List Remap}
    {patternName : String} {rows : List Row} (calm : traced.faults = [])
    (writes : Backend.replace date remaps patternName traced.base = (.ok (), after))
    (reads : (Backend.rows date after).1 = .ok rows) :
    let ran := (Step.replace date remaps patternName).run traced
    ran.1 = .done ∧ ((Step.storedRemaps date).run ran.2).1 = .remaps (Remap.regroup rows) := by
  have replaced : Backend.replace date remaps patternName traced =
      (.ok (), ⟨after, traced.calls ++ [.replace], []⟩) :=
    (noted_eq .replace storeFault calm).trans (by rw [writes])
  have read : Backend.rows date (⟨after, traced.calls ++ [.replace], []⟩ : Traced σ) =
      ((Backend.rows date after).1, _) := noted_eq .rows storeFault rfl
  dsimp only [Step.run, Outcome.of]
  rw [replaced]
  dsimp only [Backend.storedRemaps]
  rw [read, reads]
  exact ⟨rfl, rfl⟩

end Traced

namespace Session

/-- Nothing can be written into a database that is open for reading only. -/
def isReadOnly : Session → Bool
  | memory _ => false
  | tables _ state => state.base.isReadOnly

theorem run_merge {session : Session} (calm : session.faults = []) (remaps : List Remap) :
    (session.run (.merge remaps)).1 = .slots (session.timetable.shown.merge remaps) := by
  cases session with
  | memory state => exact congrArg Outcome.slots (Traced.merge_eq calm (fun day => rfl) remaps)
  | tables inFile state =>
    exact congrArg Outcome.slots (Traced.merge_eq calm (fun day => rfl) remaps)

/-- Whatever a backend holds, the remaps read after others were stored are those stored. -/
theorem run_replace {session : Session} (calm : session.faults = [])
    (writable : session.isReadOnly = false) (date : Date) (remaps : List Remap)
    (patternName : String) :
    (session.run (.replace date remaps patternName)).1 = .done ∧
      ((session.run (.replace date remaps patternName)).2.run (.storedRemaps date)).1 =
        .remaps (Remap.regroup (Remap.flatten remaps patternName)) := by
  cases session with
  | memory state =>
    have recorded := state.base.recordOn?_replace date remaps patternName
    exact Traced.storedRemaps_replace calm rfl
      (congrArg (fun record? => Except.ok ((record?.map Record.rows).getD [])) recorded)
  | tables inFile state =>
    have writes : Backend.replace date remaps patternName state.base =
        (.ok (), { state.base with tables := state.base.tables.replace date remaps patternName }) :=
      if_neg (ne_true_of_eq_false writable)
    exact Traced.storedRemaps_replace calm writes
      (congrArg (Except.mapError StoreError.badData)
        (state.base.tables.rowsOn_replace date remaps patternName))

/-- What the remaps that are read are to those that were stored. -/
structure Regathered (remaps read : List Remap) : Prop where
  same_iff : read = remaps ↔
    (remaps.map Remap.days).Nodup ∧ ∀ remap ∈ remaps, remap.pairs ≠ []
  moves : (read.flatMap Remap.moves).Perm (remaps.flatMap Remap.moves)
  /-- Whatever the timetable, both copy the same classes, between two days in one order. -/
  merges {session : Session} : session.faults = [] → ∃ gathered given,
    (session.run (.merge read)).1 = .slots gathered ∧
      (session.run (.merge remaps)).1 = .slots given ∧ gathered.Perm given ∧
      ∀ days, gathered.filter (·.isBetween days) = given.filter (·.isBetween days)

theorem regathered (remaps : List Remap) (patternName : String) :
    Regathered remaps (Remap.regroup (Remap.flatten remaps patternName)) where
  same_iff := Remap.regroup_flatten_eq_iff patternName
  moves := by
    rw [Remap.flatMap_moves _ patternName, Remap.flatMap_moves remaps patternName]
    exact (Remap.flatten_regroup_flatten_perm remaps patternName).map _
  merges {session} calm := by
    refine ⟨_, _, run_merge calm _, run_merge calm remaps, ?_, fun days =>
      View.filter_merge_regroup _ remaps patternName days⟩
    rw [View.merge_eq _ remaps patternName]
    exact View.merge_regroup_perm _ fun row => Remap.patternName_of_mem_flatten

/-- Storing remaps keeps what they say: they are read as they were exactly if each pairs some
periods and no two go between the same days, and they never move other classes, nor move those
between two days in another order. -/
theorem storing_keeps_meaning {session : Session} (calm : session.faults = [])
    (writable : session.isReadOnly = false) (date : Date) (remaps : List Remap)
    (patternName : String) :
    let stored := session.run (.replace date remaps patternName)
    stored.1 = .done ∧ ∃ read, (stored.2.run (.storedRemaps date)).1 = .remaps read ∧
      Regathered remaps read :=
  have ⟨done, same⟩ := run_replace calm writable date remaps patternName
  ⟨done, _, same, regathered remaps patternName⟩

/-- Two remaps between the same days with an empty one and one between other days among them,
and a move that is made twice. -/
def repeating : List Remap :=
  [⟨.monday, .tuesday, [(.last, .last)]⟩, ⟨.friday, .monday, []⟩,
    Remap.keep .wednesday (Period.range 3 4),
    ⟨.monday, .tuesday, (Period.range 1 2).zip (Period.range 8 9) ++ [(.last, .last)]⟩]

theorem storing_keeps_meaning_repeating :
    emptyTables.faults = [] ∧ emptyTables.isReadOnly = false ∧
      let stored := emptyTables.run (.replace monday repeating "特別")
      stored.1 = .done ∧ ∃ read, (stored.2.run (.storedRemaps monday)).1 = .remaps read ∧
        Regathered repeating read :=
  ⟨rfl, rfl, storing_keeps_meaning rfl rfl monday repeating "特別"⟩

end Session

end SchoolWeek
