import Mathlib
import SchoolWeek.Proofs.ConsoleTimetable

/-! What the check of entries says. It accepts a list exactly if every entry is in order by
itself and no two fill one cell, so it does not matter how the list is arranged. Otherwise it
reports the entry with which the list stops being acceptable, and of the flaws of this entry
the first one: its period, then its subject, then that its cell is taken. -/
namespace SchoolWeek

theorem Text.allBlank_eq_false_iff {text : List Char} :
    allBlank text = false ↔ ∃ character ∈ text, isBlank character = false := by
  simp [allBlank]

namespace Entry

/-- The entries can be the content of a timetable. -/
structure WellFormed (entries : List Entry) : Prop where
  period {entry : Entry} : entry ∈ entries → 1 ≤ entry.period ∧ entry.period ≤ 9
  subject {entry : Entry} : entry ∈ entries →
    ∃ character ∈ entry.subject.toList, Text.isBlank character = false
  apart : entries.Pairwise fun left right => ¬ (left.day = right.day ∧ left.period = right.period)

/-- What can be wrong with an entry. -/
inductive Flaw
  | period
  | subject
  | duplicate

namespace Flaw

/-- The place of a flaw in the order in which flaws are looked for. -/
def rank : Flaw → Nat
  | period => 0
  | subject => 1
  | duplicate => 2

/-- An entry that comes after the earlier ones has the flaw. -/
def AppliesTo (earlier : List Entry) (entry : Entry) : Flaw → Prop
  | period => ¬ (1 ≤ entry.period ∧ entry.period ≤ 9)
  | subject => ∀ character ∈ entry.subject.toList, Text.isBlank character = true
  | duplicate => ∃ other ∈ earlier, other.day = entry.day ∧ other.period = entry.period

/-- The error that reports the flaw of an entry. -/
def report (entry : Entry) : Flaw → DataError
  | period => .entryPeriod entry.day entry.period
  | subject => .entrySubject entry.day entry.period
  | duplicate => .duplicateEntry entry.day entry.period

/-- The entry has this flaw and none that would be looked for earlier. -/
structure IsFirstOf (flaw : Flaw) (earlier : List Entry) (entry : Entry) : Prop where
  applies : flaw.AppliesTo earlier entry
  first {other : Flaw} : other.rank < flaw.rank → ¬ other.AppliesTo earlier entry

variable {flaw other : Flaw} {earlier : List Entry} {entry : Entry}

theorem rank_injective : Function.Injective rank := by
  intro left right same
  cases left <;> cases right <;> first | rfl | cases same

theorem IsFirstOf.eq (isFirst : flaw.IsFirstOf earlier entry)
    (otherFirst : other.IsFirstOf earlier entry) : flaw = other := by
  rcases Nat.lt_trichotomy flaw.rank other.rank with less | same | greater
  · exact (otherFirst.first less isFirst.applies).elim
  · exact rank_injective same
  · exact (isFirst.first greater otherFirst.applies).elim

theorem IsFirstOf.reported_iff (isFirst : flaw.IsFirstOf earlier entry) {error : DataError} :
    (∃ other : Flaw, other.IsFirstOf earlier entry ∧ error = other.report entry) ↔
      error = flaw.report entry := by
  constructor
  · rintro ⟨other, otherFirst, rfl⟩
    rw [isFirst.eq otherFirst]
  · exact fun reported => ⟨flaw, isFirst, reported⟩

end Flaw

variable {entries earlier : List Entry} {entry : Entry} {error : DataError}

theorem wellFormed_iff :
    WellFormed entries ↔ (∀ entry ∈ entries, entry.IsProper) ∧ (entries.map cell).Nodup := by
  have apart : (entries.map cell).Nodup ↔ entries.Pairwise fun left right =>
      ¬ (left.day = right.day ∧ left.period = right.period) := by
    rw [List.Nodup, List.pairwise_map]
    simp only [cell, ne_eq, Prod.mk.injEq]
  constructor
  · intro formed
    exact ⟨fun entry member => ⟨formed.period member,
      Text.allBlank_eq_false_iff.mpr (formed.subject member)⟩, apart.mpr formed.apart⟩
  · rintro ⟨proper, distinct⟩
    exact ⟨fun member => (proper _ member).1,
      fun member => Text.allBlank_eq_false_iff.mp (proper _ member).2, apart.mp distinct⟩

theorem check_iff_wellFormed : check entries = .ok () ↔ WellFormed entries :=
  check_eq_ok_iff.trans wellFormed_iff.symm

/-- One entry is looked at: its first flaw is found, if it has any. -/
theorem fault?_eq_some_iff {taken : List (Weekday × Nat)}
    (same : ∀ cell, cell ∈ taken ↔ cell ∈ earlier.map Entry.cell) :
    entry.fault? taken = some error ↔
      ∃ flaw : Flaw, flaw.IsFirstOf earlier entry ∧ error = flaw.report entry := by
  have filled_iff : entry.cell ∈ taken ↔ Flaw.duplicate.AppliesTo earlier entry := by
    rw [same, List.mem_map]
    simp only [Flaw.AppliesTo, cell, Prod.mk.injEq]
  have blank_iff : Text.allBlank entry.subject.toList = true ↔
      Flaw.subject.AppliesTo earlier entry := by
    rw [Text.allBlank, List.all_eq_true, Flaw.AppliesTo]
  have outside_iff : entry.period < 1 ∨ 9 < entry.period ↔
      Flaw.period.AppliesTo earlier entry := by
    rw [Flaw.AppliesTo]
    omega
  unfold fault?
  split_ifs with outside blank filled
  · have isFirst : Flaw.period.IsFirstOf earlier entry :=
      ⟨outside_iff.mp outside, fun less => absurd less (Nat.not_lt_zero _)⟩
    rw [isFirst.reported_iff, Option.some_inj, eq_comm, Flaw.report]
  · have isFirst : Flaw.subject.IsFirstOf earlier entry := by
      refine ⟨blank_iff.mp blank, fun {other} less => ?_⟩
      cases other with
      | period => exact outside_iff.not.mp outside
      | subject | duplicate => exact absurd less (by decide)
    rw [isFirst.reported_iff, Option.some_inj, eq_comm, Flaw.report]
  · have isFirst : Flaw.duplicate.IsFirstOf earlier entry := by
      refine ⟨filled_iff.mp filled, fun {other} less => ?_⟩
      cases other with
      | period => exact outside_iff.not.mp outside
      | subject => exact blank_iff.not.mp blank
      | duplicate => exact (lt_irrefl _ less).elim
    rw [isFirst.reported_iff, Option.some_inj, eq_comm, Flaw.report]
  · refine iff_of_false nofun ?_
    rintro ⟨flaw, isFirst, -⟩
    cases flaw with
    | period => exact outside_iff.not.mp outside isFirst.applies
    | subject => exact blank_iff.not.mp blank isFirst.applies
    | duplicate => exact filled_iff.not.mp filled isFirst.applies

/-- The pass stops at an entry that follows accepted ones. By induction on the entries, the cells
of those gone by being taken. -/
theorem exists_of_checkAfter_error {taken : List (Weekday × Nat)}
    (stopped : checkAfter taken entries = .error error) : ∃ earlier entry later,
      entries = earlier ++ entry :: later ∧ checkAfter taken earlier = .ok () ∧
        entry.fault? ((earlier.map cell).reverse ++ taken) = some error := by
  induction entries generalizing taken with
  | nil => cases stopped
  | cons first rest ih =>
    cases looked : first.fault? taken with
    | some fault =>
      rw [checkAfter, looked] at stopped
      cases stopped
      exact ⟨[], first, rest, rfl, rfl, looked⟩
    | none =>
      have goesOn (entries : List Entry) :
          checkAfter taken (first :: entries) = checkAfter (first.cell :: taken) entries := by
        rw [checkAfter, looked]
      rw [goesOn] at stopped
      obtain ⟨before, entry, later, rfl, accepted, faulty⟩ := ih stopped
      refine ⟨first :: before, entry, later, rfl, (goesOn before).trans accepted, ?_⟩
      rwa [List.map_cons, List.reverse_cons, List.append_assoc, List.singleton_append]

theorem checkAfter_eq_error_iff {taken : List (Weekday × Nat)} :
    checkAfter taken entries = .error error ↔ ∃ earlier entry later,
      entries = earlier ++ entry :: later ∧ checkAfter taken earlier = .ok () ∧
        entry.fault? ((earlier.map cell).reverse ++ taken) = some error := by
  refine ⟨exists_of_checkAfter_error, ?_⟩
  rintro ⟨earlier, entry, later, rfl, accepted, faulty⟩
  rw [checkAfter_append accepted, checkAfter, faulty]

/-- With the entry at this place the list stops being acceptable, and this is its first flaw. -/
structure FirstFlaw (entries : List Entry) (place : Nat) (entry : Entry) (flaw : Flaw) : Prop where
  least : IsLeast {place | ¬ WellFormed (entries.take (place + 1))} place
  here : entries[place]? = some entry
  first : flaw.IsFirstOf (entries.take place) entry

theorem WellFormed.sublist {part : List Entry} (formed : WellFormed entries)
    (inside : part.Sublist entries) : WellFormed part :=
  check_iff_wellFormed.mp (check_sublist inside (check_iff_wellFormed.mpr formed))

/-- A flaw spoils the entries that go before together with the entry. -/
theorem Flaw.not_wellFormed {flaw : Flaw} (applies : flaw.AppliesTo earlier entry) :
    ¬ WellFormed (earlier ++ [entry]) := by
  intro formed
  have member : entry ∈ earlier ++ [entry] := List.mem_concat_self
  cases flaw with
  | period => exact applies (formed.period member)
  | subject =>
    obtain ⟨character, inside, visible⟩ := formed.subject member
    exact absurd (applies character inside) (ne_true_of_eq_false visible)
  | duplicate =>
    obtain ⟨other, before, same⟩ := applies
    exact (List.pairwise_append.mp formed.apart).2.2 other before entry
      (List.mem_singleton_self entry) same

/-- The place after acceptable entries is the first bad one if its entry has a flaw. -/
theorem FirstFlaw.of_split {later : List Entry} {flaw : Flaw} (formed : WellFormed earlier)
    (isFirst : flaw.IsFirstOf earlier entry) :
    FirstFlaw (earlier ++ entry :: later) earlier.length entry flaw where
  least := by
    constructor
    · show ¬ WellFormed ((earlier ++ entry :: later).take (earlier.length + 1))
      rw [List.take_length_add_append]
      exact Flaw.not_wellFormed isFirst.applies
    · intro place spoilt
      by_contra less
      refine spoilt (formed.sublist ?_)
      rw [List.take_append_of_le_length (by omega)]
      exact List.take_sublist _ _
  here := by simp
  first := by rwa [List.take_left]

theorem FirstFlaw.wellFormed {place : Nat} {flaw : Flaw}
    (fault : FirstFlaw entries place entry flaw) : WellFormed (entries.take place) := by
  cases place with
  | zero => exact check_iff_wellFormed.mp rfl
  | succ place =>
    by_contra spoilt
    exact absurd (fault.least.2 spoilt) (Nat.not_succ_le_self place)

theorem FirstFlaw.split {place : Nat} {flaw : Flaw}
    (fault : FirstFlaw entries place entry flaw) :
    entries = entries.take place ++ entry :: entries.drop (place + 1) := by
  obtain ⟨inside, rfl⟩ := List.getElem?_eq_some_iff.mp fault.here
  rw [← List.drop_eq_getElem_cons inside, List.take_append_drop]

theorem check_eq_error_iff : check entries = .error error ↔
    ∃ place entry flaw, FirstFlaw entries place entry flaw ∧ error = flaw.report entry := by
  have taken_iff (earlier : List Entry) (cell : Weekday × Nat) :
      cell ∈ (earlier.map Entry.cell).reverse ++ [] ↔ cell ∈ earlier.map Entry.cell := by simp
  rw [check, checkAfter_eq_error_iff]
  constructor
  · rintro ⟨earlier, entry, later, rfl, accepted, faulty⟩
    obtain ⟨flaw, isFirst, reported⟩ := (fault?_eq_some_iff (taken_iff earlier)).mp faulty
    exact ⟨earlier.length, entry, flaw,
      .of_split (check_iff_wellFormed.mp accepted) isFirst, reported⟩
  · rintro ⟨place, entry, flaw, fault, reported⟩
    exact ⟨entries.take place, entry, _, fault.split, check_iff_wellFormed.mpr fault.wellFormed,
      (fault?_eq_some_iff (taken_iff _)).mpr ⟨flaw, fault.first, reported⟩⟩

/-- The check accepts the lists that are well-formed, whichever way they are arranged. Of any
other list it reports the first flaw of the entry at the first place where the list up to there
is not well-formed. -/
theorem check_reports_first_flaw (entries : List Entry) :
    (check entries = .ok () ↔ WellFormed entries) ∧
      (∀ others : List Entry, others.Perm entries →
        (check others = .ok () ↔ check entries = .ok ())) ∧
      ∀ error, check entries = .error error ↔
        ∃ place entry flaw, FirstFlaw entries place entry flaw ∧ error = flaw.report entry :=
  ⟨check_iff_wellFormed, fun _ => check_perm, fun _ => check_eq_error_iff⟩

/-- The second entry is blank and fills a taken cell, the third is also out of bounds. -/
example : check [⟨.monday, 3, "数学", none, none⟩, ⟨.monday, 3, "\u3000", none, none⟩,
    ⟨.monday, 10, "", none, none⟩] = .error (.entrySubject .monday 3) := by decide

end Entry

end SchoolWeek
