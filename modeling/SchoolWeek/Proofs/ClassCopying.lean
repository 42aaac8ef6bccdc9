import Mathlib
import SchoolWeek.Proofs.ShortDay

/-! Merging remaps copies classes slot by slot. Every pair of every remap in turn gives the class
of its source slot, if there is one, held in the target slot and labelled with where it comes
from. A slot has one class at most, so it is told which one; and it makes no difference that a
day is read only once, nor whether remaps are merged together or in two parts. -/
namespace SchoolWeek

namespace Entry

/-- The classes that fill a cell. -/
def inCell (entries : List Entry) (cell : Weekday × Nat) : List Entry :=
  entries.filter (·.cell == cell)

variable {entries : List Entry}

/-- If no cell is filled twice, the first class found in a cell is all there is. -/
theorem toList_find?_cell (distinct : (entries.map cell).Nodup) (wanted : Weekday × Nat) :
    (entries.find? (·.cell == wanted)).toList = inCell entries wanted := by
  induction entries with
  | nil => rfl
  | cons first rest ih =>
    obtain ⟨alone, distinct⟩ := List.nodup_cons.mp distinct
    by_cases here : first.cell = wanted
    · have others : rest.filter (·.cell == wanted) = [] :=
        List.filter_eq_nil_iff.mpr fun other member same =>
          alone (here ▸ beq_iff_eq.mp same ▸ List.mem_map_of_mem member)
      simp [inCell, here, others]
    · simpa [inCell, here] using ih distinct

theorem inCell_eq_singleton_iff (distinct : (entries.map cell).Nodup) {wanted : Weekday × Nat}
    {entry : Entry} : inCell entries wanted = [entry] ↔ entry ∈ entries ∧ entry.cell = wanted := by
  rw [← toList_find?_cell distinct, ← find?_key_iff distinct]
  cases entries.find? (·.cell == wanted) <;> simp

theorem inCell_eq_nil_iff {wanted : Weekday × Nat} :
    inCell entries wanted = [] ↔ ∀ entry ∈ entries, entry.cell ≠ wanted := by
  simp [inCell, List.filter_eq_nil_iff]

/-- Looking for a period among the classes of a day is looking for a cell. -/
theorem find?_period (entries : List Entry) (day : Weekday) (period : Nat) :
    (entries.filter (·.day == day)).find? (·.period == period) =
      entries.find? (·.cell == (day, period)) := by
  rw [List.find?_filter]
  refine congrArg (entries.find? ·) (funext fun entry => ?_)
  rw [Bool.eq_iff_iff]
  simp [cell]

end Entry

namespace Slot

/-- The class as a pair of periods of a remap moves it. -/
def moved (remap : Remap) (pair : Period × Period) (entry : Entry) : Slot where
  day := remap.target
  period := pair.2.number
  subject := entry.subject
  room? := entry.room?
  color? := entry.color?
  isSpecial := true
  origin? := some
    (String.ofList (['(', remap.source.glyph] ++ Text.decimal pair.1.number ++ [')']))

theorem copied_eq_moved (remap : Remap) (pair : Period × Period) :
    copied remap pair.1 pair.2 = moved remap pair := by
  funext entry
  rw [moved, Period.decimal_number]
  rfl

/-- The classes that remaps copy: for every remap and every pair of it in turn, the class in the
source slot of the pair. -/
def copiesOf (entries : List Entry) (remaps : List Remap) : List Slot :=
  remaps.flatMap fun remap => remap.pairs.flatMap fun pair =>
    (Entry.inCell entries (remap.source, pair.1.number)).map (moved remap pair)

end Slot

namespace Engine

theorem copies_eq {entries : List Entry} (distinct : (entries.map Entry.cell).Nodup)
    (remap : Remap) : copies remap (entries.filter (·.day == remap.source)) =
      Slot.copiesOf entries [remap] := by
  rw [copies, Slot.copiesOf, List.flatMap_singleton, List.filterMap_eq_flatMap_toList]
  refine List.flatMap_congr fun pair _ => ?_
  rw [Entry.find?_period, Slot.copied_eq_moved, ← Entry.toList_find?_cell distinct,
    Option.toList_map]

variable {σ : Type} [Backend σ] {state : σ}

/-- Copies the classes of the pairs, and reads the source day again for each of them. -/
def copyAnew (remap : Remap) : List (Period × Period) → σ → List Slot × σ
  | [], state => ([], state)
  | pair :: pairs, state =>
    let (entries, state) := classesOn remap.source state
    let (slots, state) := copyAnew remap pairs state
    (copies { remap with pairs := [pair] } entries ++ slots, state)

/-- A merge that remembers nothing of the days it has read. -/
def mergeAnew : List Remap → σ → List Slot × σ
  | [], state => ([], state)
  | remap :: remaps, state =>
    let (first, state) := copyAnew remap remap.pairs state
    let (others, state) := mergeAnew remaps state
    (first ++ others, state)

section Reading

variable {holds : σ → Prop} {classes : Weekday → List Entry}
  (reads : ∀ {state : σ} (day : Weekday), holds state →
    (classesOn day state).1 = classes day ∧ holds (classesOn day state).2)

include reads

/-- By induction on the pairs: each of them finds the day as the one before it did. -/
theorem copyAnew_eq (remap : Remap) (pairs : List (Period × Period)) (before : holds state) :
    (copyAnew remap pairs state).1 = copies { remap with pairs } (classes remap.source) ∧
      holds (copyAnew remap pairs state).2 := by
  induction pairs generalizing state with
  | nil => exact ⟨rfl, before⟩
  | cons pair pairs ih =>
    obtain ⟨read, between⟩ := reads remap.source before
    obtain ⟨copied, after⟩ := ih between
    refine ⟨?_, after⟩
    calc (copyAnew remap (pair :: pairs) state).1
        = copies { remap with pairs := [pair] } (classesOn remap.source state).1 ++
            (copyAnew remap pairs (classesOn remap.source state).2).1 := rfl
      _ = copies { remap with pairs := [pair] } (classes remap.source) ++
            copies { remap with pairs } (classes remap.source) := by rw [read, copied]
      _ = copies { remap with pairs := pair :: pairs } (classes remap.source) :=
        List.filterMap_append.symm

theorem mergeAnew_eq (remaps : List Remap) (before : holds state) :
    (mergeAnew remaps state).1 =
        remaps.flatMap (fun remap => copies remap (classes remap.source)) ∧
      holds (mergeAnew remaps state).2 := by
  induction remaps generalizing state with
  | nil => exact ⟨rfl, before⟩
  | cons remap remaps ih =>
    obtain ⟨copied, between⟩ := copyAnew_eq reads remap remap.pairs before
    obtain ⟨merged, after⟩ := ih between
    refine ⟨?_, after⟩
    calc (mergeAnew (remap :: remaps) state).1
        = (copyAnew remap remap.pairs state).1 ++
            (mergeAnew remaps (copyAnew remap remap.pairs state).2).1 := rfl
      _ = (remap :: remaps).flatMap fun remap => copies remap (classes remap.source) := by
        rw [copied, merged, List.flatMap_cons]

end Reading

end Engine

theorem Slot.copiesOf_append (entries : List Entry) (left right : List Remap) :
    copiesOf entries (left ++ right) = copiesOf entries left ++ copiesOf entries right :=
  List.flatMap_append

namespace Timetable

/-- In a checked timetable, the classes of the days are copied slot by slot. -/
theorem flatMap_copies {timetable : Timetable} (checked : Entry.check timetable.stored = .ok ())
    (remaps : List Remap) :
    remaps.flatMap (fun remap => Engine.copies remap (timetable.entriesOn remap.source)) =
      Slot.copiesOf timetable.entries remaps := by
  have distinct := (Entry.check_eq_ok_iff.mp checked).2
  have listed := (Entry.check_eq_ok_iff.mp (check_entries checked)).2
  rw [Slot.copiesOf]
  refine List.flatMap_congr fun remap _ => ?_
  rw [entriesOn, Entry.sortByPeriod_day distinct]
  exact (Engine.copies_eq listed remap).trans (List.flatMap_singleton _ _)

end Timetable

namespace Session

/-- What a merge gives that remembers nothing of the days it has read. -/
def mergeAnew (remaps : List Remap) : Session → List Slot
  | memory state => (Engine.mergeAnew remaps state).1
  | tables _ state => (Engine.mergeAnew remaps state).1

theorem run_entries {session : Session} (calm : session.faults = []) :
    (session.run .entries).1 = .entries session.timetable.entries := by
  cases session with
  | memory state => exact congrArg (Outcome.ofStore .entries ·.1) (Traced.noted_eq .entries _ calm)
  | tables inFile state =>
    exact congrArg (Outcome.ofStore .entries ·.1) (Traced.noted_eq .entries _ calm)

theorem mergeAnew_eq {session : Session} (calm : session.faults = []) (remaps : List Remap) :
    session.mergeAnew remaps = remaps.flatMap fun remap =>
      Engine.copies remap (session.timetable.entriesOn remap.source) := by
  cases session with
  | memory state =>
    exact (Engine.mergeAnew_eq (Traced.classesOn_eq fun day => rfl) remaps ⟨calm, rfl⟩).1
  | tables inFile state =>
    exact (Engine.mergeAnew_eq (Traced.classesOn_eq fun day => rfl) remaps ⟨calm, rfl⟩).1

/-- What the session makes of remaps, told by the classes that it lists. -/
structure CopiesSlots (session : Session) (listed : List Entry) : Prop where
  entries : (session.run .entries).1 = .entries listed
  /-- A slot has one class or none. -/
  taught {slot : Weekday × Nat} {entry : Entry} :
    Entry.inCell listed slot = [entry] ↔ entry ∈ listed ∧ entry.cell = slot
  free {slot : Weekday × Nat} :
    Entry.inCell listed slot = [] ↔ ∀ entry ∈ listed, entry.cell ≠ slot
  merges (remaps : List Remap) :
    (session.run (.merge remaps)).1 = .slots (Slot.copiesOf listed remaps)
  anew (remaps : List Remap) : (session.run (.merge remaps)).1 = .slots (session.mergeAnew remaps)
  inParts (left right : List Remap) : ∃ first second, (session.run (.merge left)).1 = .slots first ∧
    (session.run (.merge right)).1 = .slots second ∧
    (session.run (.merge (left ++ right))).1 = .slots (first ++ second)

/-- Merging remaps copies the class of every slot that they name into the slot they name with
it, in their order, and does nothing else. -/
theorem merge_copies_slots {session : Session} (reachable : session.Reachable)
    (calm : session.faults = []) : ∃ listed, session.CopiesSlots listed := by
  have checked := reachable.checked
  have listed := (Entry.check_eq_ok_iff.mp (Timetable.check_entries checked)).2
  have merges (remaps : List Remap) : (session.run (.merge remaps)).1 =
      .slots (Slot.copiesOf session.timetable.entries remaps) :=
    (run_merge calm remaps).trans
      (congrArg Outcome.slots (Timetable.flatMap_copies checked remaps))
  exact ⟨session.timetable.entries, {
    entries := run_entries calm
    taught := Entry.inCell_eq_singleton_iff listed
    free := Entry.inCell_eq_nil_iff
    merges
    anew := fun remaps => by
      rw [merges, mergeAnew_eq calm, Timetable.flatMap_copies checked]
    inParts := fun left right =>
      ⟨_, _, merges left, merges right, by rw [merges, Slot.copiesOf_append]⟩ }⟩

theorem merge_copies_slots_gaps :
    let session := emptyTables.runAll [.replaceEntries gaps]
    session.Reachable ∧ session.faults = [] ∧ ∃ listed, session.CopiesSlots listed :=
  have reachable : (emptyTables.runAll [.replaceEntries gaps]).Reachable :=
    reachable_emptyTables.runAll _
  ⟨reachable, rfl, merge_copies_slots reachable rfl⟩

end Session

end SchoolWeek
