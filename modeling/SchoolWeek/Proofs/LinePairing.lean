import Mathlib
import SchoolWeek.Proofs.InBounds
import SchoolWeek.Proofs.Rendering

/-! What a mapping line makes of its two sides. If the targets have as many periods as the
source, each of them receives its share and the shares put together are the source again;
otherwise the targets of the source's length receive all of it. A text of mapping lines is read
line by line, and the lines that do not name two sides say nothing. -/
namespace SchoolWeek

theorem Text.cut?_eq_some_iff {separator : Char} {text before after : List Char} :
    cut? separator text = some (before, after) ↔
      text = before ++ separator :: after ∧ separator ∉ before := by
  constructor
  · intro found
    induction text generalizing before with
    | nil => cases found
    | cons character rest ih =>
      rw [cut?] at found
      split_ifs at found with same
      · cases found
        exact ⟨by rw [same, List.nil_append], List.not_mem_nil⟩
      · obtain ⟨⟨within, behind⟩, later, parts⟩ := Option.map_eq_some_iff.mp found
        cases parts
        obtain ⟨whole, absent⟩ := ih later
        refine ⟨by rw [whole, List.cons_append], fun member => ?_⟩
        rcases List.mem_cons.mp member with first | member
        · exact same first.symm
        · exact absent member
  · rintro ⟨rfl, absent⟩
    exact cut?_append after absent

namespace Remap

def sourceSide (remap : Remap) : Segment := ⟨remap.source, remap.sourcePeriods⟩

def targetSide (remap : Remap) : Segment := ⟨remap.target, remap.targetPeriods⟩

end Remap

namespace Mapping

/-- Every target receives a share of its own length, and the shares together are the source. -/
structure Deals (source : Segment) (targets : List Segment) (remaps : List Remap) : Prop where
  targets_eq : remaps.map Remap.targetSide = targets
  source_eq : ∀ remap ∈ remaps, remap.source = source.day
  periods_eq : remaps.flatMap Remap.sourcePeriods = source.periods

/-- Every target of the source's length receives the whole source, and the others nothing. -/
structure Broadcasts (source : Segment) (targets : List Segment) (remaps : List Remap) : Prop where
  targets_eq : remaps.map Remap.targetSide =
    targets.filter fun target => target.periods.length = source.periods.length
  source_eq : ∀ remap ∈ remaps, remap.sourceSide = source

/-- The first periods pair off with those of a target, if there are enough of them. -/
theorem sourcePeriods_zip {source target : Weekday} {periods receiving : List Period}
    (enough : receiving.length ≤ periods.length) :
    (⟨source, target, periods.zip receiving⟩ : Remap).sourcePeriods =
      periods.take receiving.length := by
  rw [Remap.sourcePeriods, List.zip_eq_zip_take_min, Nat.min_eq_right enough, List.take_length]
  exact List.map_fst_zip (by rw [List.length_take]; exact Nat.min_le_left _ _)

theorem targetSide_zip {source : Weekday} {target : Segment} {periods : List Period}
    (enough : target.periods.length ≤ periods.length) :
    (⟨source, target.day, periods.zip target.periods⟩ : Remap).targetSide = target := by
  rw [Remap.targetSide, Remap.targetPeriods, List.map_snd_zip enough]

/-- By recursion on the targets: what one of them leaves is as much as the others take. -/
theorem deals_deal {day : Weekday} {periods : List Period} {targets : List Segment}
    (even : (targets.flatMap (·.periods)).length = periods.length) :
    Deals ⟨day, periods⟩ targets (deal day periods targets) := by
  induction targets generalizing periods with
  | nil => exact ⟨rfl, fun remap member => absurd member List.not_mem_nil,
      (List.eq_nil_of_length_eq_zero even.symm).symm⟩
  | cons target targets ih =>
    rw [List.flatMap_cons, List.length_append] at even
    have enough : target.periods.length ≤ periods.length := by omega
    have left : (targets.flatMap (·.periods)).length =
        (periods.drop target.periods.length).length := by
      rw [List.length_drop]
      omega
    have later := ih left
    refine ⟨?_, ?_, ?_⟩
    · rw [deal, List.map_cons, targetSide_zip enough, later.targets_eq]
    · intro remap member
      rcases List.mem_cons.mp member with rfl | member
      · rfl
      · exact later.source_eq remap member
    · rw [deal, List.flatMap_cons, sourcePeriods_zip enough, later.periods_eq]
      exact List.take_append_drop _ _

theorem broadcasts_broadcast (source : Segment) (targets : List Segment) :
    Broadcasts source targets (broadcast source targets) := by
  have listed : targets.filter (·.periods.length == source.periods.length) =
      targets.filter fun target => target.periods.length = source.periods.length :=
    List.filter_congr fun target _ => Bool.beq_eq_decide_eq _ _
  have sameLength {target : Segment}
      (kept : target ∈ targets.filter fun target => target.periods.length = source.periods.length) :
      target.periods.length = source.periods.length := by
    simpa using (List.mem_filter.mp kept).2
  rw [broadcast, listed]
  constructor
  · rw [List.map_map]
    refine (List.map_congr_left fun target kept => ?_).trans (List.map_id _)
    exact targetSide_zip (sameLength kept).le
  · intro remap member
    obtain ⟨target, kept, rfl⟩ := List.mem_map.mp member
    rw [Remap.sourceSide, sourcePeriods_zip (sameLength kept).le, sameLength kept, List.take_length]

/-- What a line has to say: something before an arrow that begins with a glyph, and at least
one segment after it. -/
def Names (line : List Char) (source : Segment) (targets : List Segment) : Prop :=
  ∃ left right digits, Text.trim line = left ++ arrow :: right ∧ arrow ∉ left ∧
    Text.trim left = source.day.glyph :: digits ∧ source.periods = periodsIn digits ∧
    targets = Segment.scan (Text.trim right) ∧ targets ≠ []

/-- The two sides of a line that names them. -/
def sides? (line : List Char) : Option (Segment × List Segment) :=
  match Text.cut? arrow (Text.trim line) with
  | none => none
  | some (left, right) =>
    match Segment.read? (Text.trim left) with
    | none => none
    | some source =>
      let targets := Segment.scan (Text.trim right)
      if targets = [] then none else some (source, targets)

theorem read?_eq_some_iff {text : List Char} {segment : Segment} :
    Segment.read? text = some segment ↔
      ∃ digits, text = segment.day.glyph :: digits ∧ segment.periods = periodsIn digits := by
  cases text with
  | nil => simp [Segment.read?]
  | cons character rest =>
    rw [Segment.read?, Option.map_eq_some_iff]
    constructor
    · rintro ⟨day, named, rfl⟩
      exact ⟨rest, by rw [Weekday.ofGlyph?_eq_some_iff.mp named], rfl⟩
    · rintro ⟨digits, whole, periods⟩
      cases whole
      exact ⟨segment.day, Weekday.ofGlyph?_glyph _, by rw [← periods]⟩

theorem sides?_eq_some_iff {line : List Char} {source : Segment} {targets : List Segment} :
    sides? line = some (source, targets) ↔ Names line source targets := by
  constructor
  · intro named
    unfold sides? at named
    split at named
    · cases named
    · rename_i left right cut
      split at named
      · cases named
      · rename_i first read
        dsimp only at named
        split_ifs at named with none
        cases named
        obtain ⟨whole, absent⟩ := Text.cut?_eq_some_iff.mp cut
        obtain ⟨digits, beginning, periods⟩ := read?_eq_some_iff.mp read
        exact ⟨left, right, digits, whole, absent, beginning, periods, rfl, none⟩
  · rintro ⟨left, right, digits, whole, absent, beginning, periods, rfl, some⟩
    rw [sides?, Text.cut?_eq_some_iff.mpr ⟨whole, absent⟩]
    dsimp only
    rw [read?_eq_some_iff.mpr ⟨digits, beginning, periods⟩]
    exact if_neg some

/-- A line that names two sides pairs them, and any other line says nothing. -/
theorem readLine_eq (line : List Char) :
    readLine (Text.trim line) = (sides? line).toList.flatMap fun sides => pair sides.1 sides.2 := by
  rw [readLine, sides?]
  cases Text.cut? arrow (Text.trim line) with
  | none => rfl
  | some parts =>
    dsimp only
    cases Segment.read? (Text.trim parts.1) with
    | none => rfl
    | some source =>
      dsimp only
      split_ifs with none
      · -- without a target nothing is dealt out and nothing is broadcast
        rw [none, pair]
        split_ifs <;> rfl
      · exact (List.flatMap_singleton _ _).symm

theorem read_eq (text : List Char) :
    read text = ((text.splitOn '\n').filterMap sides?).flatMap fun sides => pair sides.1 sides.2 := by
  rw [List.filterMap_eq_flatMap_toList, List.flatMap_assoc, read, Text.split_eq_splitOnP,
    List.splitOn_eq_splitOnP]
  exact List.flatMap_congr fun line _ => readLine_eq line

/-- The periods of a source are dealt out whole or each target gets all of them, which the
number of periods on the right decides. No cut lies outside the source. A text says what its
lines say one after the other, and no remap is left without pairs. -/
theorem pairs_without_loss (source : Segment) (targets : List Segment) (text : List Char) :
    pair? source targets = some (pair source targets) ∧
    ((targets.map (·.periods.length)).sum = source.periods.length →
      Deals source targets (pair source targets)) ∧
    ((targets.map (·.periods.length)).sum ≠ source.periods.length →
      Broadcasts source targets (pair source targets)) ∧
    (∀ line left right, sides? line = some (left, right) ↔ Names line left right) ∧
    read text =
      ((text.splitOn '\n').filterMap sides?).flatMap (fun sides => pair sides.1 sides.2) ∧
    ∀ remap ∈ read text, remap.pairs ≠ [] := by
  have total : (targets.map (·.periods.length)).sum = (targets.flatMap (·.periods)).length :=
    List.length_flatMap.symm
  rw [total, pair]
  refine ⟨pair?_eq_pair source targets, ?_, ?_, ?_, read_eq text, pairs_ne_nil_of_mem_read text⟩
  · intro even
    rw [if_pos even]
    exact deals_deal even
  · intro uneven
    rw [if_neg uneven]
    exact broadcasts_broadcast source targets
  · exact fun line left right => sides?_eq_some_iff

/-- Three periods that two days share, and three that two of three days receive whole. -/
theorem pairs_without_loss_twice :
    let source : Segment := ⟨.monday, Period.range 1 3⟩
    let even : List Segment := [⟨.monday, Period.range 1 2⟩, ⟨.wednesday, Period.range 3 3⟩]
    let uneven : List Segment :=
      [⟨.tuesday, Period.range 4 6⟩, ⟨.friday, Period.range 1 1⟩, ⟨.sunday, Period.range 1 3⟩]
    (even.map (·.periods.length)).sum = source.periods.length ∧
      Deals source even (pair source even) ∧
      (uneven.map (·.periods.length)).sum ≠ source.periods.length ∧
      Broadcasts source uneven (pair source uneven) := by
  intro source even uneven
  have filled : (even.map (·.periods.length)).sum = source.periods.length := by decide
  have different : (uneven.map (·.periods.length)).sum ≠ source.periods.length := by decide
  exact ⟨filled, (pairs_without_loss source even []).2.1 filled, different,
    (pairs_without_loss source uneven []).2.2.1 different⟩

end Mapping
end SchoolWeek
