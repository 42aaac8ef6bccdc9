import Mathlib
import SchoolWeek.Timetable.Basic

/-! The timetable as a finite map. Its classes are kept in the order in which they came in,
but nothing that is asked of it shows this order: whatever is done to it, it lists the map
from cells to classes that filling and emptying cells makes, and it answers as the map would. -/
namespace SchoolWeek

/-- Where no key comes twice, a lookup finds what has the key. -/
theorem find?_key_iff {α κ : Type} [BEq κ] [LawfulBEq κ] {key : α → κ} {items : List α}
    (distinct : (items.map key).Nodup) {wanted : κ} {item : α} :
    items.find? (key · == wanted) = some item ↔ item ∈ items ∧ key item = wanted := by
  constructor
  · intro found
    have same := List.find?_some found
    exact ⟨List.mem_of_find?_eq_some found, beq_iff_eq.mp same⟩
  · rintro ⟨member, rfl⟩
    cases found : items.find? (key · == key item) with
    | none => exact absurd (beq_self_eq_true _) (List.find?_eq_none.mp found item member)
    | some other =>
      have same := List.find?_some found
      rw [List.inj_on_of_nodup_map distinct (List.mem_of_find?_eq_some found) member
        (beq_iff_eq.mp same)]

namespace Entry

/-- A class that the timetable may take in, if its cell is free. -/
def IsProper (entry : Entry) : Prop :=
  (1 ≤ entry.period ∧ entry.period ≤ 9) ∧ Text.allBlank entry.subject.toList = false

theorem fault?_eq_none_iff {taken : List (Weekday × Nat)} {entry : Entry} :
    entry.fault? taken = none ↔ entry.IsProper ∧ entry.cell ∉ taken := by
  unfold fault? IsProper
  split_ifs with outside blank filled
  · rw [false_iff]
    omega
  · simp [blank]
  · simp [filled]
  · have inside : 1 ≤ entry.period ∧ entry.period ≤ 9 := by omega
    simp [inside, blank, filled]

theorem checkAfter_cons {taken : List (Weekday × Nat)} {entry : Entry} {entries : List Entry} :
    checkAfter taken (entry :: entries) = .ok () ↔
      (entry.IsProper ∧ entry.cell ∉ taken) ∧ checkAfter (entry.cell :: taken) entries = .ok () := by
  rw [checkAfter, ← fault?_eq_none_iff]
  cases entry.fault? taken <;> simp

theorem checkAfter_eq_ok_iff {taken : List (Weekday × Nat)} {entries : List Entry} :
    checkAfter taken entries = .ok () ↔ (∀ entry ∈ entries, entry.IsProper) ∧
      (entries.map cell).Nodup ∧ ∀ entry ∈ entries, entry.cell ∉ taken := by
  induction entries generalizing taken with
  | nil => simp [checkAfter]
  | cons entry entries ih =>
    simp only [checkAfter_cons, ih, List.map_cons, List.nodup_cons, List.mem_map, List.mem_cons,
      forall_eq_or_imp, not_or, forall_and, not_exists, not_and]
    tauto

/-- What the check asks for. -/
theorem check_eq_ok_iff {entries : List Entry} :
    check entries = .ok () ↔ (∀ entry ∈ entries, entry.IsProper) ∧ (entries.map cell).Nodup := by
  rw [check, checkAfter_eq_ok_iff]
  simp

theorem check_perm {left right : List Entry} (same : left.Perm right) :
    check left = .ok () ↔ check right = .ok () := by
  simp only [check_eq_ok_iff, same.mem_iff, (same.map cell).nodup_iff]

theorem check_sublist {left right : List Entry} (part : left.Sublist right)
    (checked : check right = .ok ()) : check left = .ok () := by
  obtain ⟨all, distinct⟩ := check_eq_ok_iff.mp checked
  exact check_eq_ok_iff.mpr ⟨fun entry member => all entry (part.subset member),
    distinct.sublist (part.map cell)⟩

/-- The entry comes on an earlier day or in an earlier period of the day. -/
def Precedes (left right : Entry) : Prop :=
  left.day.sundayIndex < right.day.sundayIndex ∨
    left.day.sundayIndex = right.day.sundayIndex ∧ left.period < right.period

instance : Std.Asymm Precedes where
  asymm left right before after := by
    unfold Precedes at before after
    omega

theorem Precedes.period_lt {left right : Entry} (before : left.Precedes right)
    (sameDay : left.day = right.day) : left.period < right.period := by
  unfold Precedes at before
  rw [sameDay] at before
  omega

/-- Entries with different cells come one before the other. -/
theorem precedes_or_of_cell_ne {left right : Entry} (different : left.cell ≠ right.cell) :
    left.Precedes right ∨ right.Precedes left := by
  by_cases sameDay : left.day = right.day
  · have otherPeriod : left.period ≠ right.period := fun same =>
      different (Prod.ext sameDay same)
    unfold Precedes
    rw [sameDay]
    omega
  · have otherIndex : left.day.sundayIndex ≠ right.day.sundayIndex := fun same => sameDay <|
      Option.some.inj ((Weekday.ofSundayIndex?_sundayIndex _).symm.trans
        ((congrArg _ same).trans (Weekday.ofSundayIndex?_sundayIndex _)))
    unfold Precedes
    omega

section Sorting

variable {entries : List Entry}

theorem sortByCell_perm : (sortByCell entries).Perm entries := List.mergeSort_perm _ _

/-- If every cell is filled once, the sort leaves no two entries level. -/
theorem sortByCell_ascends (distinct : (entries.map cell).Nodup) :
    (sortByCell entries).Pairwise Precedes := by
  have sorted : (sortByCell entries).Pairwise fun left right => ¬ right.Precedes left := by
    refine (List.pairwise_mergeSort ?_ ?_ entries).imp fun {left right} le => ?_
    · intro first second third
      simp only [Bool.or_eq_true, Bool.and_eq_true, decide_eq_true_eq, beq_iff_eq]
      omega
    · intro first second
      simp only [Bool.or_eq_true, Bool.and_eq_true, decide_eq_true_eq, beq_iff_eq]
      omega
    · simp only [Bool.or_eq_true, Bool.and_eq_true, decide_eq_true_eq, beq_iff_eq] at le
      unfold Precedes
      omega
  have apart : (sortByCell entries).Pairwise fun left right => left.cell ≠ right.cell :=
    List.pairwise_map.mp ((sortByCell_perm.map cell).nodup_iff.mpr distinct)
  exact (sorted.and apart).imp fun ⟨notAfter, different⟩ =>
    (precedes_or_of_cell_ne different).resolve_right notAfter

/-- The classes of a day by period are those of the week by cell, as far as the day goes. -/
theorem sortByPeriod_day (distinct : (entries.map cell).Nodup) (day : Weekday) :
    sortByPeriod (entries.filter (·.day == day)) =
      (sortByCell entries).filter (·.day == day) := by
  have perm : (sortByPeriod (entries.filter (·.day == day))).Perm
      (entries.filter (·.day == day)) := List.mergeSort_perm _ _
  have sorted : (sortByPeriod (entries.filter (·.day == day))).Pairwise fun left right =>
      left.period ≤ right.period := by
    refine (List.pairwise_mergeSort ?_ ?_ _).imp fun {left right} le => of_decide_eq_true le
    · intro first second third
      simp only [decide_eq_true_eq]
      omega
    · intro first second
      simp only [Bool.or_eq_true, decide_eq_true_eq]
      omega
  have apart : (sortByPeriod (entries.filter (·.day == day))).Pairwise fun left right =>
      left.cell ≠ right.cell :=
    List.pairwise_map.mp ((perm.map cell).nodup_iff.mpr
      (distinct.sublist (List.filter_sublist.map cell)))
  refine List.Pairwise.eq_of_mem_iff ?_ ((sortByCell_ascends distinct).filter _) fun entry =>
    (perm.trans (sortByCell_perm.filter _).symm).mem_iff
  refine (sorted.and apart).imp_of_mem fun {left right} isLeft isRight ⟨le, different⟩ => ?_
  have sameDay : left.day = right.day := by
    have leftDay := (List.mem_filter.mp (perm.mem_iff.mp isLeft)).2
    have rightDay := (List.mem_filter.mp (perm.mem_iff.mp isRight)).2
    exact (beq_iff_eq.mp leftDay).trans (beq_iff_eq.mp rightDay).symm
  exact (precedes_or_of_cell_ne different).resolve_right fun after =>
    le.not_gt (after.period_lt sameDay.symm)

end Sorting

end Entry

/-- A map from cells to classes. -/
abbrev Cells := Weekday × Nat → Option Entry

namespace Cells

def empty : Cells := fun _ => none

def ofEntries (entries : List Entry) : Cells := fun cell => entries.find? (·.cell == cell)

/-- The map with something else in one cell. -/
def set (cells : Cells) (cell : Weekday × Nat) (content? : Option Entry) : Cells :=
  Function.update cells cell content?

theorem ofEntries_eq_some_iff {entries : List Entry} (distinct : (entries.map Entry.cell).Nodup)
    {cell : Weekday × Nat} {entry : Entry} :
    ofEntries entries cell = some entry ↔ entry ∈ entries ∧ entry.cell = cell :=
  find?_key_iff distinct

theorem ofEntries_perm {left right : List Entry} (distinct : (left.map Entry.cell).Nodup)
    (same : left.Perm right) : ofEntries left = ofEntries right := by
  funext cell
  refine Option.ext fun entry => ?_
  rw [ofEntries_eq_some_iff distinct,
    ofEntries_eq_some_iff ((same.map _).nodup_iff.mp distinct), same.mem_iff]

theorem ofEntries_put (entry : Entry) (entries : List Entry) :
    ofEntries (Timetable.put entry entries) = (ofEntries entries).set entry.cell (some entry) := by
  funext cell
  induction entries with
  | nil =>
    by_cases same : entry.cell = cell
    · simp [Timetable.put, ofEntries, set, same]
    · simp [Timetable.put, ofEntries, set, same, Ne.symm same]
  | cons old entries ih =>
    rw [Timetable.put]
    split_ifs with filled
    · by_cases same : entry.cell = cell
      · simp [ofEntries, set, same]
      · simp [ofEntries, set, filled, same, Ne.symm same]
    · by_cases here : old.cell = cell
      · have other : cell ≠ entry.cell := fun same => filled (here.trans same)
        simp [ofEntries, set, here, other]
      · simpa [ofEntries, set, here, Function.update_apply] using ih

theorem ofEntries_filter (cell : Weekday × Nat) (entries : List Entry) :
    ofEntries (entries.filter (·.cell != cell)) = (ofEntries entries).set cell none := by
  funext other
  rw [ofEntries, List.find?_filter, set, Function.update_apply]
  split_ifs with same
  · rw [List.find?_eq_none]
    simp [same]
  · refine congrArg (entries.find? ·) (funext fun entry => ?_)
    by_cases here : entry.cell = other <;> simp [here, same]

end Cells

namespace Timetable

/-- Filling a cell that is filled leaves the cells as they are; another is added. -/
theorem map_cell_put (entry : Entry) (entries : List Entry) :
    (put entry entries).map Entry.cell = if entry.cell ∈ entries.map Entry.cell
      then entries.map Entry.cell else entries.map Entry.cell ++ [entry.cell] := by
  induction entries with
  | nil => rfl
  | cons old entries ih =>
    rw [put]
    split_ifs with filled member member
    · rw [List.map_cons, List.map_cons, filled]
    · exact absurd (List.mem_map.mpr ⟨old, List.mem_cons_self, filled⟩) member
    · have inRest := (List.mem_cons.mp member).resolve_left (Ne.symm filled)
      rw [List.map_cons, ih, if_pos inRest, List.map_cons]
    · have notInRest : entry.cell ∉ entries.map Entry.cell := fun inRest =>
        member (List.mem_cons_of_mem _ inRest)
      rw [List.map_cons, ih, if_neg notInRest, List.map_cons, List.cons_append]

theorem mem_of_mem_put {entry other : Entry} {entries : List Entry}
    (member : other ∈ put entry entries) : other = entry ∨ other ∈ entries := by
  induction entries with
  | nil => exact .inl (List.mem_singleton.mp member)
  | cons old entries ih =>
    rw [put] at member
    split_ifs at member
    · exact (List.mem_cons.mp member).imp_right (List.mem_cons_of_mem _)
    · rcases List.mem_cons.mp member with rfl | inRest
      · exact .inr List.mem_cons_self
      · exact (ih inRest).imp_right (List.mem_cons_of_mem _)

theorem check_put {entry : Entry} {entries : List Entry} (proper : Entry.check [entry] = .ok ())
    (checked : Entry.check entries = .ok ()) : Entry.check (put entry entries) = .ok () := by
  obtain ⟨all, distinct⟩ := Entry.check_eq_ok_iff.mp checked
  refine Entry.check_eq_ok_iff.mpr ⟨fun other member => ?_, ?_⟩
  · rcases mem_of_mem_put member with rfl | old
    · exact (Entry.check_eq_ok_iff.mp proper).1 other (List.mem_singleton_self _)
    · exact all other old
  · rw [map_cell_put]
    split_ifs with filled
    · exact distinct
    · refine List.nodup_append.mpr ⟨distinct, List.nodup_singleton _, ?_⟩
      rintro left isLeft right isRight rfl
      exact filled (List.mem_singleton.mp isRight ▸ isLeft)

/-- The map that the timetable is. -/
def cells (timetable : Timetable) : Cells := Cells.ofEntries timetable.stored

/-- What is listed passes the check, as what is kept does. -/
theorem check_entries {timetable : Timetable} (checked : Entry.check timetable.stored = .ok ()) :
    Entry.check timetable.entries = .ok () :=
  (Entry.check_perm Entry.sortByCell_perm).mpr checked

theorem cells_entries {timetable : Timetable} (checked : Entry.check timetable.stored = .ok ()) :
    Cells.ofEntries timetable.entries = timetable.cells :=
  Cells.ofEntries_perm (Entry.check_eq_ok_iff.mp (check_entries checked)).2 Entry.sortByCell_perm

/-- Timetables that are one map list it in one way, however they came to be. -/
theorem entries_eq_of_cells {left right : Timetable}
    (leftChecked : Entry.check left.stored = .ok ())
    (rightChecked : Entry.check right.stored = .ok ()) (same : left.cells = right.cells) :
    left.entries = right.entries := by
  have leftDistinct := (Entry.check_eq_ok_iff.mp leftChecked).2
  have rightDistinct := (Entry.check_eq_ok_iff.mp rightChecked).2
  refine (Entry.sortByCell_ascends leftDistinct).eq_of_mem_iff
    (Entry.sortByCell_ascends rightDistinct) fun entry => ?_
  have found := congrFun same entry.cell
  calc entry ∈ left.entries ↔ left.cells entry.cell = some entry := by
        rw [cells, Cells.ofEntries_eq_some_iff leftDistinct, and_iff_left rfl, entries,
          Entry.sortByCell_perm.mem_iff]
    _ ↔ entry ∈ right.entries := by
        rw [found, cells, Cells.ofEntries_eq_some_iff rightDistinct, and_iff_left rfl, entries,
          Entry.sortByCell_perm.mem_iff]

/-- What can be done to a timetable. -/
inductive Change
  | ofEntries (entries : List Entry)
  | upsert (entry : Entry)
  | remove (day : Weekday) (period : Nat)
  | replaceAll (entries : List Entry)

inductive Answer
  | done
  | removed (wasThere : Bool)
  | refused (error : DataError)

namespace Change

/-- Goes on with what was made, or as before if nothing was. -/
def settle {σ : Type} (before : σ) : Except DataError σ → Answer × σ
  | .ok after => (.done, after)
  | .error error => (.refused error, before)

def run (change : Change) (timetable : Timetable) : Answer × Timetable :=
  match change with
  | ofEntries entries => settle timetable (Timetable.ofEntries entries)
  | upsert entry => settle timetable (timetable.upsert entry)
  | remove day period =>
    let (wasThere, timetable) := timetable.remove day period
    (.removed wasThere, timetable)
  | replaceAll entries => settle timetable (timetable.replaceAll entries)

/-- The same change to a map: entries that are accepted become the map, an entry fills its
cell, and a cell is emptied. -/
def onCells (change : Change) (cells : Cells) : Answer × Cells :=
  match change with
  | ofEntries entries | replaceAll entries =>
    settle cells ((Entry.check entries).map fun _ => Cells.ofEntries entries)
  | upsert entry =>
    settle cells ((Entry.check [entry]).map fun _ => cells.set entry.cell (some entry))
  | remove day period =>
    (.removed (cells (day, period)).isSome, cells.set (day, period) none)

/-- Makes changes one after the other and lists their answers. -/
def inTurn {σ : Type} (step : Change → σ → Answer × σ) : List Change → σ → List Answer × σ
  | [], state => ([], state)
  | change :: changes, state =>
    let (answer, state) := step change state
    let (answers, state) := inTurn step changes state
    (answer :: answers, state)

/-- Either something is wrong with the entries and all is as before, or all is as wanted. -/
theorem settle_cases {σ : Type} (given : List Entry) (before after : σ) :
    (∃ error, settle before ((Entry.check given).map fun _ => after) = (.refused error, before)) ∨
      Entry.check given = .ok () ∧
        settle before ((Entry.check given).map fun _ => after) = (.done, after) := by
  cases Entry.check given with
  | error error => exact .inl ⟨error, rfl⟩
  | ok _ => exact .inr ⟨rfl, rfl⟩

/-- A class goes exactly if there is one in the cell. -/
theorem length_filter_cell_ne (entries : List Entry) (cell : Weekday × Nat) :
    ((entries.filter (·.cell != cell)).length != entries.length) =
      (Cells.ofEntries entries cell).isSome := by
  rw [Bool.eq_iff_iff, bne_iff_ne, ne_eq, List.length_filter_eq_length_iff, Cells.ofEntries]
  simp

/-- A change does to the timetable what it does to the map, and answers the same. -/
theorem run_cells (change : Change) (timetable : Timetable) :
    Prod.map id cells (change.run timetable) = change.onCells timetable.cells := by
  cases change with
  | ofEntries entries | replaceAll entries =>
    dsimp only [run, onCells, Timetable.replaceAll, Timetable.ofEntries]
    cases Entry.check entries <;> rfl
  | upsert entry =>
    dsimp only [run, onCells, Timetable.upsert]
    cases Entry.check [entry] with
    | error error => rfl
    | ok _ => exact congrArg (Prod.mk _) (Cells.ofEntries_put entry timetable.stored)
  | remove day period =>
    exact Prod.ext (congrArg Answer.removed (length_filter_cell_ne _ _))
      (Cells.ofEntries_filter (day, period) timetable.stored)

/-- What the timetable holds would always be accepted again. -/
theorem run_checked {timetable : Timetable} (checked : Entry.check timetable.stored = .ok ())
    (change : Change) : Entry.check (change.run timetable).2.stored = .ok () := by
  cases change with
  | ofEntries entries | replaceAll entries =>
    show Entry.check (settle timetable ((Entry.check entries).map fun _ => ⟨entries⟩)).2.stored = _
    rcases settle_cases entries timetable ⟨entries⟩ with ⟨_, refused⟩ | ⟨fine, made⟩
    · rwa [refused]
    · rwa [made]
  | upsert entry =>
    rcases settle_cases [entry] timetable ⟨put entry timetable.stored⟩ with
      ⟨_, refused⟩ | ⟨fine, made⟩
    · rwa [run, Timetable.upsert, refused]
    · rw [run, Timetable.upsert, made]
      exact check_put fine checked
  | remove day period => exact Entry.check_sublist List.filter_sublist checked

theorem run_refused {change : Change} {timetable : Timetable} {error : DataError}
    (refused : (change.run timetable).1 = .refused error) :
    (change.run timetable).2 = timetable := by
  have settled {made : Except DataError Timetable}
      (refused : (settle timetable made).1 = .refused error) :
      (settle timetable made).2 = timetable := by
    cases made with
    | error _ => rfl
    | ok _ => cases refused
  cases change with
  | remove day period => cases refused
  | _ => exact settled refused

theorem inTurn_cells (changes : List Change) (timetable : Timetable) :
    Prod.map id cells (inTurn run changes timetable) = inTurn onCells changes timetable.cells := by
  induction changes generalizing timetable with
  | nil => rfl
  | cons change changes ih =>
    have first := run_cells change timetable
    have rest := ih (change.run timetable).2
    dsimp only [inTurn]
    rw [← first, Prod.map_fst, Prod.map_snd, ← rest]
    rfl

theorem inTurn_checked {timetable : Timetable} (checked : Entry.check timetable.stored = .ok ())
    (changes : List Change) : Entry.check (inTurn run changes timetable).2.stored = .ok () := by
  induction changes generalizing timetable with
  | nil => exact checked
  | cons change changes ih => exact ih (run_checked checked change)

/-- Timetables that are one map cannot be told apart by what is done to them. -/
theorem inTurn_eq_of_cells {left right : Timetable}
    (leftChecked : Entry.check left.stored = .ok ())
    (rightChecked : Entry.check right.stored = .ok ()) (same : left.cells = right.cells)
    (changes : List Change) : (inTurn run changes left).1 = (inTurn run changes right).1 ∧
      (inTurn run changes left).2.entries = (inTurn run changes right).2.entries := by
  have simulated : Prod.map id cells (inTurn run changes left) =
      Prod.map id cells (inTurn run changes right) := by
    rw [inTurn_cells, inTurn_cells, same]
  obtain ⟨answers, maps⟩ := Prod.mk.inj simulated
  exact ⟨answers, entries_eq_of_cells (inTurn_checked leftChecked changes)
    (inTurn_checked rightChecked changes) maps⟩

end Change

/-- The timetable is the map, in all that can be asked of it now or later. -/
structure Lists (timetable : Timetable) (cells : Cells) : Prop where
  checked : Entry.check timetable.stored = .ok ()
  proper {entry : Entry} : entry ∈ timetable.entries → entry.IsProper
  ascends : timetable.entries.Pairwise Entry.Precedes
  mem_iff {cell : Weekday × Nat} {entry : Entry} :
    cells cell = some entry ↔ entry ∈ timetable.entries ∧ entry.cell = cell
  daily (day : Weekday) : timetable.entriesOn day = timetable.entries.filter (·.day == day)
  refused {change : Change} {error : DataError} :
    (change.run timetable).1 = .refused error → (change.run timetable).2 = timetable
  /-- What is listed can be put in again, and nothing tells that this was done. -/
  again : ∃ after, timetable.replaceAll timetable.entries = .ok after ∧
    after.entries = timetable.entries ∧ (∀ day, after.entriesOn day = timetable.entriesOn day) ∧
    ∀ changes, (Change.inTurn Change.run changes after).1 =
        (Change.inTurn Change.run changes timetable).1 ∧
      (Change.inTurn Change.run changes after).2.entries =
        (Change.inTurn Change.run changes timetable).2.entries

theorem lists_cells {timetable : Timetable} (checked : Entry.check timetable.stored = .ok ()) :
    timetable.Lists timetable.cells := by
  have daily (timetable : Timetable) (checked : Entry.check timetable.stored = .ok ())
      (day : Weekday) : timetable.entriesOn day = timetable.entries.filter (·.day == day) :=
    Entry.sortByPeriod_day (Entry.check_eq_ok_iff.mp checked).2 day
  have distinct := (Entry.check_eq_ok_iff.mp checked).2
  have same : timetable.entries.Perm timetable.stored := Entry.sortByCell_perm
  have accepted := check_entries checked
  have made : timetable.replaceAll timetable.entries = .ok ⟨timetable.entries⟩ := by
    rw [replaceAll, ofEntries, accepted]
    rfl
  have maps : (Timetable.mk timetable.entries).cells = timetable.cells := cells_entries checked
  have listed : (Timetable.mk timetable.entries).entries = timetable.entries :=
    entries_eq_of_cells accepted checked maps
  have onDay (day : Weekday) : (Timetable.mk timetable.entries).entriesOn day =
      timetable.entriesOn day := by
    rw [daily timetable checked, daily ⟨timetable.entries⟩ accepted, listed]
  exact {
    checked
    proper := by
      intro entry member
      exact (Entry.check_eq_ok_iff.mp accepted).1 entry member
    ascends := Entry.sortByCell_ascends distinct
    mem_iff := by
      intro cell entry
      rw [cells, Cells.ofEntries_eq_some_iff distinct, same.mem_iff]
    daily := daily timetable checked
    refused := Change.run_refused
    again := ⟨_, made, listed, onDay,
      Change.inTurn_eq_of_cells accepted checked maps⟩ }

/-- Whatever is done to a timetable, it answers as a finite map does and lists it. -/
theorem is_finite_map (changes : List Change) :
    let (answers, timetable) := Change.inTurn Change.run changes .empty
    let (expected, cells) := Change.inTurn Change.onCells changes .empty
    answers = expected ∧ timetable.Lists cells := by
  obtain ⟨answers, maps⟩ := Prod.mk.inj (Change.inTurn_cells changes .empty)
  have checked : Entry.check (Change.inTurn Change.run changes .empty).2.stored = .ok () :=
    Change.inTurn_checked rfl changes
  exact ⟨answers, maps ▸ lists_cells checked⟩

end Timetable

end SchoolWeek
