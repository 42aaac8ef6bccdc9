import Mathlib
import SchoolWeek.Remap.Row

/-! What storing remaps as rows and gathering the rows again makes of them: one remap for
each pair of days, in the order in which the pairs are first named, and in each remap the
pairs of periods in the order of the rows. -/
namespace SchoolWeek

section Stable
variable {α κ : Type}

/-- The members that have the first key, then those that have the second, and so on. -/
def gatherBy [BEq κ] (key : α → κ) (keys : List κ) (list : List α) : List α :=
  keys.flatMap fun wanted => list.filter (key · == wanted)

theorem filter_append_filter_not {wanted : α → Bool} {list : List α}
    (ordered : list.Pairwise fun early late => wanted late = true → wanted early = true) :
    list.filter wanted ++ list.filter (!wanted ·) = list := by
  induction list with
  | nil => rfl
  | cons first rest ih =>
    obtain ⟨before, tail⟩ := List.pairwise_cons.mp ordered
    by_cases low : wanted first = true
    · simpa [low] using congrArg (first :: ·) (ih tail)
    · have none : rest.filter wanted = [] :=
        List.filter_eq_nil_iff.mpr fun other member high => low (before other member high)
      have all : rest.filter (!wanted ·) = rest :=
        List.filter_eq_self.mpr fun other member => by
          simpa using fun high => low (before other member high)
      simp [low, none, all]

variable [BEq κ] {key : α → κ} {keys : List κ} {list : List α}

theorem gatherBy_filter (kept : α → Bool) :
    (gatherBy key keys list).filter kept = gatherBy key keys (list.filter kept) := by
  simp only [gatherBy, List.filter_flatMap, List.filter_filter, Bool.and_comm]

variable [LawfulBEq κ]

/-- A key that comes first is gathered first; it plays no part in the rest. -/
theorem gatherBy_cons {first : κ} (alone : first ∉ keys) :
    gatherBy key (first :: keys) list =
      list.filter (key · == first) ++ gatherBy key keys (list.filter (key · != first)) := by
  have others : ∀ wanted ∈ keys, list.filter (key · == wanted) =
      (list.filter (key · != first)).filter (key · == wanted) := by
    intro wanted member
    rw [List.filter_filter]
    refine List.filter_congr fun item _ => ?_
    by_cases same : key item = wanted
    · have different : key item ≠ first := fun equal => alone (equal ▸ same ▸ member)
      rw [same] at different ⊢
      simp [different]
    · simp [same]
  rw [gatherBy, List.flatMap_cons, gatherBy, List.flatMap_congr others]

/-- The keys after the first are enough for the members that do not have the first. -/
theorem covered_tail {first : κ} (covered : ∀ item ∈ list, key item ∈ first :: keys) :
    ∀ item ∈ list.filter (key · != first), key item ∈ keys := by
  intro item member
  obtain ⟨listed, different⟩ := List.mem_filter.mp member
  exact (List.mem_cons.mp (covered item listed)).resolve_left (by simpa using different)

theorem gatherBy_perm (distinct : keys.Nodup) (covered : ∀ item ∈ list, key item ∈ keys) :
    (gatherBy key keys list).Perm list := by
  induction keys generalizing list with
  | nil =>
    obtain rfl : list = [] := List.eq_nil_iff_forall_not_mem.mpr fun item member =>
      List.not_mem_nil (covered item member)
    exact .nil
  | cons first keys ih =>
    obtain ⟨alone, distinct⟩ := List.nodup_cons.mp distinct
    rw [gatherBy_cons alone]
    have rest := ih distinct (covered_tail covered)
    exact (List.Perm.append_left _ rest).trans (List.filter_append_perm _ list)

theorem gatherBy_ordered (distinct : keys.Nodup) :
    (gatherBy key keys list).Pairwise fun early late =>
      keys.idxOf (key early) ≤ keys.idxOf (key late) := by
  have ascending : keys.Pairwise fun early late => keys.idxOf early ≤ keys.idxOf late := by
    refine List.pairwise_iff_getElem.mpr fun i j low high less => ?_
    rw [distinct.idxOf_getElem i low, distinct.idxOf_getElem j high]
    exact less.le
  have key_eq {wanted : κ} {item : α} (member : item ∈ list.filter (key · == wanted)) :
      key item = wanted := by simpa using (List.mem_filter.mp member).2
  refine List.pairwise_flatMap.mpr ⟨fun wanted _ => ?_, ascending.imp fun {early late} ordered => ?_⟩
  · refine List.pairwise_of_forall_mem_list fun early isEarly late isLate => ?_
    rw [key_eq isEarly, key_eq isLate]
  · intro item isEarly other isLate
    rwa [key_eq isEarly, key_eq isLate]

/-- Gathering changes nothing if and only if the list is in the order of the keys already. -/
theorem gatherBy_eq_self_iff (distinct : keys.Nodup) (covered : ∀ item ∈ list, key item ∈ keys) :
    gatherBy key keys list = list ↔
      list.Pairwise fun early late => keys.idxOf (key early) ≤ keys.idxOf (key late) := by
  refine ⟨fun same => same ▸ gatherBy_ordered distinct, fun ordered => ?_⟩
  induction keys generalizing list with
  | nil =>
    obtain rfl : list = [] := List.eq_nil_iff_forall_not_mem.mpr fun item member =>
      List.not_mem_nil (covered item member)
    rfl
  | cons first keys ih =>
    obtain ⟨alone, distinct⟩ := List.nodup_cons.mp distinct
    have firstAhead : list.Pairwise fun early late =>
        (key late == first) = true → (key early == first) = true := by
      refine ordered.imp fun {early late} least isFirst => ?_
      rw [beq_iff_eq] at isFirst ⊢
      by_contra different
      rw [isFirst, List.idxOf_cons_self, List.idxOf_cons_ne _ (Ne.symm different)] at least
      omega
    have restOrdered : (list.filter (key · != first)).Pairwise fun early late =>
        keys.idxOf (key early) ≤ keys.idxOf (key late) := by
      refine List.pairwise_filter.mpr (ordered.imp fun {early late} least isEarly isLate => ?_)
      rw [bne_iff_ne] at isEarly isLate
      rw [List.idxOf_cons_ne _ isEarly.symm, List.idxOf_cons_ne _ isLate.symm] at least
      omega
    rw [gatherBy_cons alone, ih distinct (covered_tail covered) restOrdered]
    exact filter_append_filter_not firstAhead

end Stable

def Row.days (row : Row) : Weekday × Weekday := (row.source, row.target)

def Row.periods (row : Row) : Period × Period := (row.sourcePeriod, row.targetPeriod)

namespace Remap

/-- The pairs of days of the rows, in the order in which they are first named. -/
def dayPairs (rows : List Row) : List (Weekday × Weekday) := (rows.map Row.days).eraseDups

theorem nodup_eraseDups {α : Type} [BEq α] [LawfulBEq α] (list : List α) :
    list.eraseDups.Nodup := by
  match list with
  | [] => exact .nil
  | first :: rest =>
    rw [List.eraseDups_cons]
    refine List.nodup_cons.mpr ⟨fun member => ?_, nodup_eraseDups _⟩
    simpa using (List.mem_filter.mp (List.mem_eraseDups.mp member)).2
termination_by list.length
decreasing_by exact Nat.lt_succ_of_le (List.length_filter_le _ _)

theorem dayPairs_nodup (rows : List Row) : (dayPairs rows).Nodup := nodup_eraseDups _

theorem mem_dayPairs {rows : List Row} {row : Row} (member : row ∈ rows) :
    row.days ∈ dayPairs rows := List.mem_eraseDups.mpr (List.mem_map_of_mem member)

theorem dayPairs_concat (rows : List Row) (row : Row) :
    dayPairs (rows ++ [row]) =
      if row.days ∈ rows.map Row.days then dayPairs rows else dayPairs rows ++ [row.days] := by
  rw [dayPairs, List.map_append, List.eraseDups_append]
  split_ifs with named
  · rw [List.map_singleton, List.removeAll, List.filter_cons_of_neg (by simpa using named)]
    exact List.append_nil _
  · rw [List.map_singleton, List.removeAll, List.filter_cons_of_pos (by simpa using named)]
    rfl

/-- The rows of one pair of days as a remap. -/
def ofDays (rows : List Row) (days : Weekday × Weekday) : Remap :=
  ⟨days.1, days.2, (rows.filter (·.days == days)).map Row.periods⟩

theorem addRow_map {group : Weekday × Weekday → Remap}
    (own : ∀ days, ((group days).source, (group days).target) = days) (row : Row)
    {keys : List (Weekday × Weekday)} (distinct : keys.Nodup) :
    addRow row (keys.map group) =
      if row.days ∈ keys then
        keys.map fun days => if row.days = days then
          { group days with pairs := (group days).pairs ++ [row.periods] } else group days
      else keys.map group ++ [⟨row.source, row.target, [row.periods]⟩] := by
  induction keys with
  | nil => rfl
  | cons first keys ih =>
    obtain ⟨alone, distinct⟩ := List.nodup_cons.mp distinct
    have here : (group first).source = row.source ∧ (group first).target = row.target ↔
        row.days = first := by
      rw [← Prod.mk.injEq, own first]
      exact eq_comm
    rw [List.map_cons, addRow]
    by_cases same : row.days = first
    · have others : (keys.map fun days => if row.days = days then
          { group days with pairs := (group days).pairs ++ [row.periods] } else group days) =
            keys.map group := by
        refine List.map_congr_left fun days member => if_neg fun equal => alone ?_
        rwa [← same, equal]
      rw [if_pos (here.mpr same), if_pos (by simp [same]), List.map_cons, if_pos same, others]
      rfl
    · have elsewhere : row.days ∈ first :: keys ↔ row.days ∈ keys := by simp [same]
      rw [if_neg (mt here.mp same), ih distinct]
      by_cases listed : row.days ∈ keys
      · rw [if_pos listed, if_pos (elsewhere.mpr listed), List.map_cons, if_neg same]
      · rw [if_neg listed, if_neg (mt elsewhere.mp listed)]
        rfl

/-- By recursion on the rows, the last one taken off: it joins its remap or opens one. -/
theorem regroup_eq (rows : List Row) : regroup rows = (dayPairs rows).map (ofDays rows) := by
  induction rows using List.reverseRecOn with
  | nil => rfl
  | append_singleton rows row ih =>
    have added : regroup (rows ++ [row]) = addRow row (regroup rows) := by
      rw [regroup, List.foldl_append]
      rfl
    have grown (days : Weekday × Weekday) : ofDays (rows ++ [row]) days =
        if row.days = days then
          { ofDays rows days with pairs := (ofDays rows days).pairs ++ [row.periods] }
        else ofDays rows days := by
      by_cases same : row.days = days
      · simp [ofDays, same]
      · simp [ofDays, same]
    have listed : row.days ∈ dayPairs rows ↔ row.days ∈ rows.map Row.days := List.mem_eraseDups
    rw [added, ih, addRow_map (fun _ => rfl) row (dayPairs_nodup rows), dayPairs_concat]
    simp only [listed]
    split_ifs with named
    · exact List.map_congr_left fun days _ => (grown days).symm
    · have others : ∀ days ∈ dayPairs rows, ofDays rows days = ofDays (rows ++ [row]) days := by
        intro days member
        have different : row.days ≠ days := fun same => named (listed.mp (same ▸ member))
        rw [grown, if_neg different]
      have new : ofDays (rows ++ [row]) row.days = ⟨row.source, row.target, [row.periods]⟩ := by
        have none : rows.filter (·.days == row.days) = [] :=
          List.filter_eq_nil_iff.mpr fun other member same =>
            named (List.mem_map.mpr ⟨other, member, by simpa using same⟩)
        rw [grown, if_pos rfl, ofDays, none]
        rfl
      rw [List.map_append, List.map_congr_left others, List.map_singleton, new]

theorem regroup_eq_nil_iff {rows : List Row} : regroup rows = [] ↔ rows = [] := by
  rw [regroup_eq, List.map_eq_nil_iff]
  constructor
  · intro none
    refine List.eq_nil_iff_forall_not_mem.mpr fun row member => ?_
    exact List.not_mem_nil (none ▸ mem_dayPairs member)
  · rintro rfl
    rfl

theorem patternName_of_mem_flatten {remaps : List Remap} {patternName : String} {row : Row}
    (member : row ∈ flatten remaps patternName) : row.patternName = patternName := by
  obtain ⟨remap, _, named⟩ := List.mem_flatMap.mp member
  obtain ⟨pair, _, rfl⟩ := List.mem_map.mp named
  rfl

/-- Rows that were gathered into remaps and written out again stand in the order of
their pairs of days. -/
theorem flatten_regroup {rows : List Row} {patternName : String}
    (named : ∀ row ∈ rows, row.patternName = patternName) :
    flatten (regroup rows) patternName = gatherBy Row.days (dayPairs rows) rows := by
  rw [flatten, regroup_eq, List.flatMap_map, gatherBy]
  refine List.flatMap_congr fun days _ => ?_
  rw [Remap.rows, ofDays, List.map_map]
  refine (List.map_congr_left fun row member => ?_).trans (List.map_id _)
  obtain ⟨listed, same⟩ := List.mem_filter.mp member
  obtain rfl : row.days = days := by simpa using same
  obtain ⟨source, target, sourcePeriod, targetPeriod, name⟩ := row
  obtain rfl : name = patternName := named _ listed
  rfl

end Remap

end SchoolWeek
