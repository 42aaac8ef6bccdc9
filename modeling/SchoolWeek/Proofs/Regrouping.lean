import Mathlib
import SchoolWeek.Proofs.Storing

/-! Gathering rows into remaps groups them by their two days and keeps their order: there is one
remap for each pair of days that is named, they stand in the order in which the pairs are first
named, and each holds the rows of its days in the order of the rows. Only the gathered remaps
are such a grouping, and nothing a row says but its pattern's name is lost or added. -/
namespace SchoolWeek

/-- Which period of which day a row moves, and where to. -/
def Row.move (row : Row) : Weekday × Period × Weekday × Period :=
  (row.source, row.sourcePeriod, row.target, row.targetPeriod)

/-- The rows name the first pair of days before they name the other. -/
def Row.NamesBefore (rows : List Row) (early late : Weekday × Weekday) : Prop :=
  (rows.map Row.days).idxOf early < (rows.map Row.days).idxOf late

instance (rows : List Row) : Std.Asymm (Row.NamesBefore rows) := ⟨fun _ _ => lt_asymm⟩

namespace Remap

variable {rows : List Row} {remaps : List Remap}

/-- The remaps are the rows grouped by their days. -/
structure Groups (rows : List Row) (remaps : List Remap) : Prop where
  distinct : (remaps.map days).Nodup
  named_iff {pair : Weekday × Weekday} : pair ∈ remaps.map days ↔ pair ∈ rows.map Row.days
  inOrder : (remaps.map days).Pairwise (Row.NamesBefore rows)
  paired {remap : Remap} : remap ∈ remaps → remap.pairs ≠ []
  /-- As two lists of periods the remap would be accepted: they are of one length. -/
  level {remap : Remap} : remap ∈ remaps →
    remap.sourcePeriods.length = remap.targetPeriods.length ∧
      ofPeriods? remap.source remap.target remap.sourcePeriods remap.targetPeriods = some remap
  own {remap : Remap} : remap ∈ remaps →
    remap.pairs = (rows.filter (·.days == remap.days)).map Row.periods

theorem mem_dayPairs_iff {pair : Weekday × Weekday} :
    pair ∈ dayPairs rows ↔ pair ∈ rows.map Row.days := List.mem_eraseDups

/-- By induction on the rows, the last one taken off: its days come last if they are new. -/
theorem dayPairs_inOrder (rows : List Row) : (dayPairs rows).Pairwise (Row.NamesBefore rows) := by
  induction rows using List.reverseRecOn with
  | nil => exact .nil
  | append_singleton rows row ih =>
    have place {pair : Weekday × Weekday} (member : pair ∈ dayPairs rows) :
        ((rows ++ [row]).map Row.days).idxOf pair = (rows.map Row.days).idxOf pair := by
      rw [List.map_append, List.idxOf_append_of_mem (mem_dayPairs_iff.mp member)]
    have before : (dayPairs rows).Pairwise (Row.NamesBefore (rows ++ [row])) :=
      ih.imp_of_mem fun isEarly isLate less => by
        rwa [Row.NamesBefore, place isEarly, place isLate]
    rw [dayPairs_concat]
    split_ifs with named
    · exact before
    · refine List.pairwise_append.mpr ⟨before, List.pairwise_singleton _ _, ?_⟩
      intro early isEarly late isLate
      obtain rfl := List.mem_singleton.mp isLate
      have inside := List.idxOf_lt_length_of_mem (mem_dayPairs_iff.mp isEarly)
      rw [Row.NamesBefore, place isEarly, List.map_append, List.idxOf_append_of_notMem named]
      omega

theorem map_days_regroup (rows : List Row) : (regroup rows).map days = dayPairs rows := by
  rw [regroup_eq, List.map_map]
  exact List.map_id _

theorem ofDays_of_mem_regroup {remap : Remap} (member : remap ∈ regroup rows) :
    ofDays rows remap.days = remap := by
  rw [regroup_eq] at member
  obtain ⟨pair, _, rfl⟩ := List.mem_map.mp member
  rfl

theorem groups_regroup (rows : List Row) : Groups rows (regroup rows) where
  distinct := by
    rw [map_days_regroup]
    exact dayPairs_nodup rows
  named_iff {pair} := by
    rw [map_days_regroup]
    exact mem_dayPairs_iff
  inOrder := by
    rw [map_days_regroup]
    exact dayPairs_inOrder rows
  paired {remap} member := by
    have isNamed : remap.days ∈ rows.map Row.days := by
      rw [← mem_dayPairs_iff, ← map_days_regroup]
      exact List.mem_map_of_mem member
    obtain ⟨row, listed, same⟩ := List.mem_map.mp isNamed
    rw [← ofDays_of_mem_regroup member]
    refine List.ne_nil_of_mem (List.mem_map_of_mem (a := row) ?_)
    exact List.mem_filter.mpr ⟨listed, beq_iff_eq.mpr same⟩
  level {remap} _ := ⟨length_sourcePeriods remap, ofPeriods?_periods remap⟩
  own {remap} member := congrArg pairs (ofDays_of_mem_regroup member).symm

/-- The days of the remaps are given by their order, and each remap by its days. -/
theorem Groups.eq_regroup (groups : Groups rows remaps) : remaps = regroup rows := by
  have sameDays : remaps.map days = dayPairs rows :=
    groups.inOrder.eq_of_mem_iff (dayPairs_inOrder rows) fun pair =>
      groups.named_iff.trans mem_dayPairs_iff.symm
  have own : ∀ remap ∈ remaps, ofDays rows remap.days = remap := by
    intro remap member
    rw [ofDays, ← groups.own member]
    rfl
  calc remaps = remaps.map (ofDays rows ∘ days) :=
        ((List.map_congr_left own).trans (List.map_id _)).symm
    _ = (dayPairs rows).map (ofDays rows) := by rw [← List.map_map, sameDays]
    _ = regroup rows := (regroup_eq rows).symm

/-- Whatever name they get, the rows of the gathered remaps make the moves that the rows made. -/
theorem map_move_flatten_regroup (rows : List Row) (patternName : String) :
    (flatten (regroup rows) patternName).map Row.move =
      (gatherBy Row.days (dayPairs rows) rows).map Row.move := by
  have moves_ofDays (pair : Weekday × Weekday) :
      (ofDays rows pair).moves = (rows.filter (·.days == pair)).map Row.move := by
    rw [moves, ofDays, List.map_map]
    refine List.map_congr_left fun row member => ?_
    obtain rfl := beq_iff_eq.mp (List.mem_filter.mp member).2
    rfl
  calc (flatten (regroup rows) patternName).map Row.move = (regroup rows).flatMap moves :=
        (flatMap_moves (regroup rows) patternName).symm
    _ = (dayPairs rows).flatMap fun pair => (rows.filter (·.days == pair)).map Row.move := by
        rw [regroup_eq, List.flatMap_map]
        exact List.flatMap_congr fun pair _ => moves_ofDays pair
    _ = (gatherBy Row.days (dayPairs rows) rows).map Row.move := by
        rw [gatherBy, List.map_flatMap]

/-- Gathering rows is a stable grouping by their days, the only one there is. Written out under
any name and gathered again the remaps are the same, and they move what the rows moved. -/
theorem regroup_is_stable_grouping (rows : List Row) :
    Groups rows (regroup rows) ∧ (∀ remaps, Groups rows remaps → remaps = regroup rows) ∧
      ∀ patternName,
        ((flatten (regroup rows) patternName).map Row.move).Perm (rows.map Row.move) ∧
          regroup (flatten (regroup rows) patternName) = regroup rows := by
  have groups := groups_regroup rows
  refine ⟨groups, fun remaps others => others.eq_regroup, fun patternName => ⟨?_, ?_⟩⟩
  · rw [map_move_flatten_regroup]
    exact (gatherBy_perm (dayPairs_nodup rows) fun row => mem_dayPairs).map _
  · exact (regroup_flatten_eq_iff patternName).mpr ⟨groups.distinct, fun remap => groups.paired⟩

/-- Rows of three pairs of days, one of them coming back after the others. -/
example :
    regroup [⟨.friday, .monday, .last, .last, "前"⟩, ⟨.monday, .friday, .last, .last, "後"⟩,
      ⟨.friday, .friday, .last, .last, ""⟩, ⟨.friday, .monday, .last, .last, "後"⟩] =
    [⟨.friday, .monday, [(.last, .last), (.last, .last)]⟩, ⟨.monday, .friday, [(.last, .last)]⟩,
      ⟨.friday, .friday, [(.last, .last)]⟩] := by decide

end Remap

end SchoolWeek
