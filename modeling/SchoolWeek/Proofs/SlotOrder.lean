import Mathlib
import SchoolWeek.Timetable.Entry

/-! Sorting slots by period. The sort is stable, so the slots of one period say all there
is to say about the order: two lists sort to the same list exactly if they have the same
slots in the same order in each period. -/
namespace SchoolWeek.Slot

private theorem period_le_trans (first second third : Slot)
    (early : decide (first.period ≤ second.period) = true)
    (late : decide (second.period ≤ third.period) = true) :
    decide (first.period ≤ third.period) = true :=
  decide_eq_true (Nat.le_trans (of_decide_eq_true early) (of_decide_eq_true late))

private theorem period_le_total (left right : Slot) :
    (decide (left.period ≤ right.period) || decide (right.period ≤ left.period)) = true := by
  simpa using Nat.le_total left.period right.period

theorem sortByPeriod_perm (slots : List Slot) : (sortByPeriod slots).Perm slots :=
  List.mergeSort_perm slots _

theorem sortByPeriod_sorted (slots : List Slot) :
    (sortByPeriod slots).Pairwise fun early late => early.period ≤ late.period :=
  (List.pairwise_mergeSort period_le_trans period_le_total slots).imp of_decide_eq_true

/-- The slots of one period are in order as they are, so sorting leaves them in it. -/
theorem filter_sortByPeriod (slots : List Slot) (number : Nat) :
    (sortByPeriod slots).filter (·.period == number) = slots.filter (·.period == number) := by
  have level : (slots.filter (·.period == number)).Pairwise fun left right =>
      decide (left.period ≤ right.period) = true := by
    refine List.pairwise_of_forall_mem_list fun left isLeft right isRight => ?_
    have leftPeriod : left.period = number := by simpa using (List.mem_filter.mp isLeft).2
    have rightPeriod : right.period = number := by simpa using (List.mem_filter.mp isRight).2
    rw [leftPeriod, rightPeriod]
    exact decide_eq_true le_rfl
  have kept : (slots.filter (·.period == number)).Sublist (sortByPeriod slots) :=
    List.sublist_mergeSort period_le_trans period_le_total level List.filter_sublist
  have within := kept.filter (·.period == number)
  rw [List.filter_filter, List.filter_congr fun _ _ => Bool.and_self _] at within
  exact (within.eq_of_length ((sortByPeriod_perm slots).filter _).length_eq.symm).symm

private theorem mem_of_filter_eq {left right : List Slot} {slot : Slot}
    (same : ∀ number, left.filter (·.period == number) = right.filter (·.period == number))
    (member : slot ∈ left) : slot ∈ right := by
  have kept : slot ∈ left.filter (·.period == slot.period) :=
    List.mem_filter.mpr ⟨member, beq_self_eq_true _⟩
  rw [same] at kept
  exact (List.mem_filter.mp kept).1

/-- By recursion on both lists: each begins with a slot of the least period. -/
theorem eq_of_sorted {left right : List Slot}
    (leftSorted : left.Pairwise fun early late => early.period ≤ late.period)
    (rightSorted : right.Pairwise fun early late => early.period ≤ late.period)
    (same : ∀ number, left.filter (·.period == number) = right.filter (·.period == number)) :
    left = right := by
  induction left generalizing right with
  | nil =>
    exact (List.eq_nil_iff_forall_not_mem.mpr fun slot member =>
      List.not_mem_nil (mem_of_filter_eq (fun number => (same number).symm) member)).symm
  | cons first rest ih =>
    have isFirst := mem_of_filter_eq same (List.mem_cons_self (a := first))
    cases right with
    | nil => exact (List.not_mem_nil isFirst).elim
    | cons other others =>
      have isOther := mem_of_filter_eq (fun number => (same number).symm)
        (List.mem_cons_self (a := other) (l := others))
      obtain ⟨firstLeast, restSorted⟩ := List.pairwise_cons.mp leftSorted
      obtain ⟨otherLeast, othersSorted⟩ := List.pairwise_cons.mp rightSorted
      have samePeriod : other.period = first.period := by
        refine le_antisymm ?_ ?_
        · rcases List.mem_cons.mp isFirst with equal | later
          · rw [equal]
          · exact otherLeast first later
        · rcases List.mem_cons.mp isOther with equal | later
          · rw [equal]
          · exact firstLeast other later
      have heads := same first.period
      rw [List.filter_cons_of_pos (by simp), List.filter_cons_of_pos (by simp [samePeriod])] at heads
      obtain ⟨equal, _⟩ := List.cons.inj heads
      subst equal
      refine congrArg (first :: ·) (ih restSorted othersSorted fun number => ?_)
      have both := same number
      rw [List.filter_cons, List.filter_cons] at both
      split at both
      · exact (List.cons.inj both).2
      · exact both

theorem sortByPeriod_eq_iff {left right : List Slot} :
    sortByPeriod left = sortByPeriod right ↔
      ∀ number, left.filter (·.period == number) = right.filter (·.period == number) := by
  constructor
  · intro same number
    rw [← filter_sortByPeriod left, same, filter_sortByPeriod]
  · intro same
    refine eq_of_sorted (sortByPeriod_sorted left) (sortByPeriod_sorted right) fun number => ?_
    rw [filter_sortByPeriod, filter_sortByPeriod, same]

end SchoolWeek.Slot
