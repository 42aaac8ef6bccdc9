import Mathlib
import SchoolWeek.Console.Commands
import SchoolWeek.Proofs.Refusals
import SchoolWeek.Proofs.TimetableMap

/-! The timetable edited at the console. The console reads all classes out of the tables and
writes all of them back, which the tables check as a whole. The timetable in memory checks the
one class and changes it in place. Over the same content both take the same edits, give the same
answers and list the same classes afterwards, in whatever order the content came in. -/
namespace SchoolWeek

namespace Entry

/-- Cells that are taken matter to an entry only if they are its own. -/
theorem fault?_of_notMem {taken : List (Weekday × Nat)} {entry : Entry}
    (free : entry.cell ∉ taken) : entry.fault? taken = entry.fault? [] := by
  unfold fault?
  rw [if_neg free, if_neg List.not_mem_nil]

/-- Entries that follow others are checked as if the cells of those were taken. -/
theorem checkAfter_append {taken : List (Weekday × Nat)} {first rest : List Entry}
    (accepted : checkAfter taken first = .ok ()) :
    checkAfter taken (first ++ rest) = checkAfter ((first.map cell).reverse ++ taken) rest := by
  induction first generalizing taken with
  | nil => rfl
  | cons entry first ih =>
    obtain ⟨fine, others⟩ := checkAfter_cons.mp accepted
    rw [List.cons_append, checkAfter, fault?_eq_none_iff.mpr fine]
    dsimp only
    rw [ih others, List.map_cons, List.reverse_cons, List.append_assoc, List.singleton_append]

/-- After accepted entries, an entry for another cell is checked as if it stood alone. -/
theorem check_concat {entries : List Entry} {entry : Entry} (accepted : check entries = .ok ())
    (free : entry.cell ∉ entries.map cell) : check (entries ++ [entry]) = check [entry] := by
  have free : entry.cell ∉ (entries.map cell).reverse ++ [] := by simpa using free
  rw [check, checkAfter_append accepted, check, checkAfter, checkAfter, fault?_of_notMem free]
  rfl

end Entry

/-- A class for a free cell is added at the end. -/
theorem Timetable.put_of_notMem {entry : Entry} {entries : List Entry}
    (free : entry.cell ∉ entries.map Entry.cell) : put entry entries = entries ++ [entry] := by
  induction entries with
  | nil => rfl
  | cons old entries ih =>
    rw [List.map_cons, List.mem_cons, not_or] at free
    rw [put, if_neg (Ne.symm free.1), ih free.2, List.cons_append]

namespace TableStore

/-- The tables list the classes of the timetable, all of which would be accepted. In which
order either keeps them is left open. -/
structure Holds (store : TableStore) (timetable : Timetable) : Prop where
  accepted : Entry.check timetable.stored = .ok ()
  listed : (Backend.entries store).1 = .ok timetable.entries

/-- The database with another timetable, and all else in it as it is. -/
def exchange (entries : List Entry) (store : TableStore) : TableStore :=
  { store with tables := { store.tables with entries } }

variable {store : TableStore} {timetable : Timetable}

theorem replaceEntries_of_error {entries : List Entry} {error : DataError}
    (fault : Entry.check entries = .error error) :
    Backend.replaceEntries entries store = (.error (.badData error), store) := by
  show TableStore.replaceEntries entries store = _
  rw [TableStore.replaceEntries, fault]

theorem replaceEntries_of_ok {entries : List Entry} (accepted : Entry.check entries = .ok ()) :
    Backend.replaceEntries entries store =
      if store.isReadOnly then (.error .readOnly, store)
      else (.ok (), store.exchange entries) := by
  show TableStore.replaceEntries entries store = _
  rw [TableStore.replaceEntries, accepted]
  rfl

/-- Whatever comes of it, nothing but the timetable of the database changes. -/
theorem replaceEntries_exchanges (entries : List Entry) (store : TableStore) :
    ∃ kept, (Backend.replaceEntries entries store).2 = store.exchange kept := by
  cases checked : Entry.check entries with
  | error fault =>
    rw [replaceEntries_of_error checked]
    exact ⟨store.tables.entries, rfl⟩
  | ok _ =>
    rw [replaceEntries_of_ok checked]
    split_ifs
    · exact ⟨store.tables.entries, rfl⟩
    · exact ⟨entries, rfl⟩

namespace Holds

theorem entries_eq (holds : store.Holds timetable) :
    Backend.entries store = (.ok timetable.entries, store) :=
  Prod.ext holds.listed rfl

/-- It is enough that the entries written and the timetable are one map. -/
theorem exchange {entries : List Entry} (written : Entry.check entries = .ok ())
    (accepted : Entry.check timetable.stored = .ok ())
    (same : Cells.ofEntries entries = timetable.cells) :
    (store.exchange entries).Holds timetable := by
  have listed : (Timetable.mk entries).entries = timetable.entries :=
    Timetable.entries_eq_of_cells written accepted same
  exact ⟨accepted, congrArg Except.ok listed⟩

end Holds

end TableStore

namespace Console

open TableStore

variable {store : TableStore} {timetable : Timetable}

theorem cell_notMem_withoutCell (cell : Weekday × Nat) (entries : List Entry) :
    cell ∉ (withoutCell cell entries).map Entry.cell := by
  simp [withoutCell]

theorem check_withoutCell (holds : store.Holds timetable) (cell : Weekday × Nat) :
    Entry.check (withoutCell cell timetable.entries) = .ok () :=
  Entry.check_sublist List.filter_sublist (Timetable.check_entries holds.accepted)

theorem cells_withoutCell (holds : store.Holds timetable) (cell : Weekday × Nat) :
    Cells.ofEntries (withoutCell cell timetable.entries) = timetable.cells.set cell none := by
  rw [withoutCell, Cells.ofEntries_filter, Timetable.cells_entries holds.accepted]

/-- The check of all classes comes down to the check of the one that is new. -/
theorem check_set (holds : store.Holds timetable) (entry : Entry) :
    Entry.check (withoutCell entry.cell timetable.entries ++ [entry]) = Entry.check [entry] :=
  Entry.check_concat (check_withoutCell holds entry.cell) (cell_notMem_withoutCell _ _)

/-- Emptying a cell and adding a class for it at the end fills the cell. -/
theorem cells_set (holds : store.Holds timetable) (entry : Entry) :
    Cells.ofEntries (withoutCell entry.cell timetable.entries ++ [entry]) =
      timetable.cells.set entry.cell (some entry) := by
  -- In a list without the cell, adding at the end is putting in.
  rw [← Timetable.put_of_notMem (cell_notMem_withoutCell _ _), Cells.ofEntries_put,
    cells_withoutCell holds]
  exact Function.update_idem _ _ _

theorem setEntry_eq (holds : store.Holds timetable) (entry : Entry) : setEntry entry store =
    Backend.replaceEntries (withoutCell entry.cell timetable.entries ++ [entry]) store := by
  rw [setEntry, holds.entries_eq]

/-- A class that passes its own check is written, with those of the other cells. -/
theorem setEntry_of_check (holds : store.Holds timetable) (writable : store.isReadOnly = false)
    {entry : Entry} (proper : Entry.check [entry] = .ok ()) : setEntry entry store =
      (.ok (), store.exchange (withoutCell entry.cell timetable.entries ++ [entry])) := by
  rw [setEntry_eq holds, replaceEntries_of_ok ((check_set holds entry).trans proper), writable]
  rfl

/-- The console answers as the timetable in memory does. -/
theorem setEntry_answer (holds : store.Holds timetable) (writable : store.isReadOnly = false)
    (entry : Entry) : (setEntry entry store).1 =
      ((timetable.upsert entry).map fun _ => ()).mapError StoreError.badData := by
  rw [Timetable.upsert]
  cases checked : Entry.check [entry] with
  | error fault =>
    rw [setEntry_eq holds, replaceEntries_of_error ((check_set holds entry).trans checked)]
    rfl
  | ok _ =>
    rw [setEntry_of_check holds writable checked]
    rfl

theorem holds_setEntry (holds : store.Holds timetable) (writable : store.isReadOnly = false)
    {entry : Entry} {after : Timetable} (taken : timetable.upsert entry = .ok after) :
    (setEntry entry store).2.Holds after := by
  rw [Timetable.upsert] at taken
  cases checked : Entry.check [entry] with
  | error fault =>
    rw [checked] at taken
    cases taken
  | ok _ =>
    rw [checked] at taken
    cases taken
    have same := (cells_set holds entry).trans (Cells.ofEntries_put entry timetable.stored).symm
    rw [setEntry_of_check holds writable checked]
    exact .exchange ((check_set holds entry).trans checked)
      (Timetable.check_put checked holds.accepted) same

/-- A refused edit leaves the database as it was, also one that cannot be written. -/
theorem setEntry_refused {entry : Entry} {after : TableStore} {error : StoreError}
    (refused : setEntry entry store = (.error error, after)) : after = store :=
  careful.replaceEntries refused

theorem removeEntry_eq (holds : store.Holds timetable) (writable : store.isReadOnly = false)
    (day : Weekday) (period : Nat) : removeEntry (day, period) store =
      (.ok (timetable.remove day period).1,
        store.exchange (withoutCell (day, period) timetable.entries)) := by
  have found : ((withoutCell (day, period) timetable.entries).length !=
      timetable.entries.length) = (timetable.remove day period).1 := by
    rw [withoutCell, Timetable.remove, Timetable.Change.length_filter_cell_ne,
      Timetable.Change.length_filter_cell_ne, Timetable.cells_entries holds.accepted,
      Timetable.cells]
  rw [removeEntry, holds.entries_eq]
  dsimp only
  rw [replaceEntries_of_ok (check_withoutCell holds _), writable, found]
  rfl

theorem holds_removeEntry (holds : store.Holds timetable) (writable : store.isReadOnly = false)
    (day : Weekday) (period : Nat) :
    (removeEntry (day, period) store).2.Holds (timetable.remove day period).2 := by
  rw [removeEntry_eq holds writable]
  exact .exchange (check_withoutCell holds _)
    (Entry.check_sublist List.filter_sublist holds.accepted)
    ((cells_withoutCell holds _).trans (Cells.ofEntries_filter _ _).symm)

theorem removeEntry_refused {cell : Weekday × Nat} {after : TableStore} {error : StoreError}
    (refused : removeEntry cell store = (.error error, after)) : after = store := by
  obtain ⟨kept, removed, rewrites⟩ : ∃ kept removed, removeEntry cell store =
      ((Backend.replaceEntries kept store).1.map fun _ => removed,
        (Backend.replaceEntries kept store).2) := ⟨_, _, rfl⟩
  rw [rewrites] at refused
  cases written : Backend.replaceEntries kept store with
  | mk result state =>
    rw [written] at refused
    cases result with
    | error fault =>
      obtain ⟨_, rfl⟩ := Prod.mk.inj refused
      exact careful.replaceEntries written
    | ok _ => cases refused

/-- An edit of one cell, at the console or in memory. -/
inductive Edit
  | set (entry : Entry)
  | remove (day : Weekday) (period : Nat)

namespace Edit

/-- The database after the edit, whether it was carried out or not. -/
def inTables (store : TableStore) : Edit → TableStore
  | set entry => (setEntry entry store).2
  | remove day period => (removeEntry (day, period) store).2

/-- The timetable after the edit, whether it was carried out or not. -/
def inMemory (timetable : Timetable) : Edit → Timetable
  | set entry => (timetable.upsert entry).toOption.getD timetable
  | remove day period => (timetable.remove day period).2

/-- An edit changes the classes in the database and nothing else. -/
theorem inTables_eq_exchange (edit : Edit) (store : TableStore) :
    ∃ entries, edit.inTables store = store.exchange entries := by
  cases edit with
  | set entry => exact replaceEntries_exchanges _ _
  | remove day period => exact replaceEntries_exchanges _ _

theorem holds_inTables (edit : Edit) (holds : store.Holds timetable)
    (writable : store.isReadOnly = false) :
    (edit.inTables store).Holds (edit.inMemory timetable) := by
  cases edit with
  | remove day period => exact holds_removeEntry holds writable day period
  | set entry =>
    cases taken : timetable.upsert entry with
    | ok after =>
      rw [inMemory, taken]
      exact holds_setEntry holds writable taken
    | error fault =>
      have answer := setEntry_answer holds writable entry
      rw [taken] at answer
      have unchanged : (setEntry entry store).2 = store := setEntry_refused (Prod.ext answer rfl)
      rw [inMemory, taken, inTables, unchanged]
      exact holds

/-- Edit after edit, the tables hold what the timetable in memory becomes. -/
theorem holds_foldl (edits : List Edit) (holds : store.Holds timetable)
    (writable : store.isReadOnly = false) :
    (edits.foldl inTables store).Holds (edits.foldl inMemory timetable) := by
  induction edits generalizing store timetable with
  | nil => exact holds
  | cons edit edits ih =>
    obtain ⟨entries, exchanged⟩ := inTables_eq_exchange edit store
    have stillWritable : (edit.inTables store).isReadOnly = false := by rwa [exchanged]
    exact ih (edit.holds_inTables holds writable) stillWritable

end Edit

section Words

variable {σ : Type} [Backend σ]

/-- The entry that the words of a command stand for. -/
def entryOf? : List String → Option Entry
  | day :: period :: subject :: rest =>
    match readDay? day, readPeriod? period with
    | some day, some period => some ⟨day, period, subject, rest[0]?, rest[1]?⟩
    | _, _ => none
  | _ => none

/-- The cell that the words of a command stand for. -/
def cellOf? (words : List String) : Option (Weekday × Nat) :=
  match words[0]?.bind readDay?, words[1]?.bind readPeriod? with
  | some day, some period => some (day, period)
  | _, _ => none

def setReply (entry : Entry) : Except StoreError Unit → String
  | .ok () => "Entry " ++ cellText entry.day entry.period ++ " set."
  | .error error => "Error: " ++ error.message

def removeReply (cell : Weekday × Nat) : Except StoreError Bool → String
  | .ok true => "Entry " ++ cellText cell.1 cell.2 ++ " removed."
  | .ok false => "Entry " ++ cellText cell.1 cell.2 ++ " not found."
  | .error error => "Error: " ++ error.message

/-- The command reads an entry, sets it and says what came of it. -/
theorem setCommand_eq (words : List String) (state : σ) :
    setCommand words state = match entryOf? words with
      | none => ("Usage: timetable set <day> <period> <subject> [room] [color]", state)
      | some entry => (setReply entry (setEntry entry state).1, (setEntry entry state).2) := by
  rcases words with _ | ⟨day, _ | ⟨period, _ | ⟨subject, rest⟩⟩⟩
  · rfl
  · rfl
  · rfl
  · rw [setCommand, entryOf?]
    cases readDay? day <;> cases readPeriod? period
    case some.some day period =>
      dsimp only
      split <;> rename_i answered <;> rw [answered] <;> rfl
    all_goals rfl

/-- The command reads a cell, empties it and says what came of it. -/
theorem removeCommand_eq (words : List String) (state : σ) :
    removeCommand words state = match cellOf? words with
      | none => ("Usage: timetable remove <day> <period>", state)
      | some cell => (removeReply cell (removeEntry cell state).1, (removeEntry cell state).2) := by
  rw [removeCommand, cellOf?]
  cases words[0]?.bind readDay? <;> cases words[1]?.bind readPeriod?
  case some.some day period =>
    dsimp only
    split <;> rename_i answered <;> rw [answered] <;> rfl
  all_goals rfl

end Words

/-- The console over these tables edits the timetable as the one in memory is edited. -/
structure EditsAlike (store : TableStore) (timetable : Timetable) : Prop where
  /-- A class is taken exactly if the timetable takes it, else the reason is the same. -/
  set_answer (entry : Entry) : store.isReadOnly = false → (setEntry entry store).1 =
    ((timetable.upsert entry).map fun _ => ()).mapError StoreError.badData
  set_lists (entry : Entry) (after : Timetable) : store.isReadOnly = false →
    timetable.upsert entry = .ok after → (setEntry entry store).2.Holds after
  set_refused (entry : Entry) (error : StoreError) (after : TableStore) :
    setEntry entry store = (.error error, after) → after = store
  remove_answer (day : Weekday) (period : Nat) : store.isReadOnly = false →
    (removeEntry (day, period) store).1 = .ok (timetable.remove day period).1
  remove_lists (day : Weekday) (period : Nat) : store.isReadOnly = false →
    (removeEntry (day, period) store).2.Holds (timetable.remove day period).2
  remove_refused (cell : Weekday × Nat) (error : StoreError) (after : TableStore) :
    removeEntry cell store = (.error error, after) → after = store
  /-- The words of a command come to the edit, and to what there is to say of it. -/
  set_command (words : List String) : store.isReadOnly = false →
    setCommand words store = match entryOf? words with
      | none => ("Usage: timetable set <day> <period> <subject> [room] [color]", store)
      | some entry =>
        (setReply entry (((timetable.upsert entry).map fun _ => ()).mapError StoreError.badData),
          (setEntry entry store).2)
  remove_command (words : List String) : store.isReadOnly = false →
    removeCommand words store = match cellOf? words with
      | none => ("Usage: timetable remove <day> <period>", store)
      | some (day, period) => (removeReply (day, period) (.ok (timetable.remove day period).1),
          (removeEntry (day, period) store).2)
  /-- Nothing else in the database is touched. -/
  elsewhere (edit : Edit) : ∃ entries, edit.inTables store = store.exchange entries
  /-- After any edits the tables hold what the timetable in memory has become, so that the
  next one is made alike as well. -/
  onwards (edits : List Edit) : store.isReadOnly = false →
    (edits.foldl Edit.inTables store).Holds (edits.foldl Edit.inMemory timetable)

/-- Writing all classes anew, checked as a whole, does what changing one in place does. -/
theorem edits_alike (holds : store.Holds timetable) : EditsAlike store timetable where
  set_answer entry writable := setEntry_answer holds writable entry
  set_lists _ _ writable taken := holds_setEntry holds writable taken
  set_refused _ _ _ refused := setEntry_refused refused
  remove_answer day period writable := by rw [removeEntry_eq holds writable]
  remove_lists day period writable := holds_removeEntry holds writable day period
  remove_refused _ _ _ refused := removeEntry_refused refused
  set_command words writable := by
    rw [setCommand_eq]
    cases entryOf? words with
    | none => rfl
    | some entry =>
      dsimp only
      rw [setEntry_answer holds writable]
  remove_command words writable := by
    rw [removeCommand_eq]
    cases cellOf? words with
    | none => rfl
    | some cell =>
      dsimp only
      rw [removeEntry_eq holds writable]
  elsewhere edit := edit.inTables_eq_exchange store
  onwards edits writable := Edit.holds_foldl edits holds writable

/-- Three classes in the order in which they were thought of. -/
def thoughtOf : Timetable :=
  ⟨[⟨.wednesday, 9, "Maths", none, none⟩, ⟨.monday, 4, "Art", some "B 2", none⟩,
    ⟨.monday, 1, "Maths", some "", some "red"⟩]⟩

/-- The same classes, put into a database in another order. -/
def putIn : TableStore :=
  (TableStore.empty Marker.defaultLead).exchange
    [⟨.monday, 4, "Art", some "B 2", none⟩, ⟨.wednesday, 9, "Maths", none, none⟩,
      ⟨.monday, 1, "Maths", some "", some "red"⟩]

theorem edits_alike_shuffled : putIn.Holds thoughtOf ∧ EditsAlike putIn thoughtOf := by
  have holds : putIn.Holds thoughtOf := .exchange (by decide) (by decide)
    (Cells.ofEntries_perm (by decide) (by decide))
  exact ⟨holds, edits_alike holds⟩

end Console

end SchoolWeek
